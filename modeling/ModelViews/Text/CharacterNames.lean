namespace ModelViews.Text

/-- The names of all characters but those of the Han and Hangul scripts that follow a scheme, in
their order, with low lines for their blanks. In front of each name stands how many characters it
has in common with the one before it, a small letter from `a` for none on, and a plus sign for every
further twenty-six; these characters are left out of the name. Blanks do not count. -/
def nameList : String :=
  "aABACUSbC_CURRENTcCORDIONeUNT_OFcKdNOWLEDGEcTIVATE_ARABIC_FORM_SHAPINGjSYMMETRIC_SWAPPING
   cUTE_ACCENThNGLEbDDRESSED_TO_THE_SUBJECTcHESIVE_BANDAGEcI_SHAKTIcLAM_ALIF_LENGTHENER
   gCAPITAL_LETTER_ALIFvBAwHEvCHIvDAALIwHAvEvFAvGAwBEvHAvIvJIIMvKAFwHAwPOvLAAMvMIIMvNHAwUNwYAvOvPE
   vQAAFvRAvSHAwINNYIIYHEvTUvUvVAvWAWvYAwHEvZALhONSONANT_MODIFIERgDIGIT_EIGHTmFIVEnOURmNINEmONE
   mSEVENnIXmTHREEnWOmZEROgGEMINATE_CONSONANT_MODIFIERnION_MARKgHAMZAgINITIAL_EXCLAMATION_MARK
   oQUESTION_MARKgNASALIZATION_MARKhUKTAgSMALL_LETTER_ALIFtBAuHEtCHItDAALIuHAtEtFAtGAuBEtHAtItJIIM
   tKAFuHAuPOtLAAMtMIIMtNHAuUNuYAtOtPEtQAAFtRAtSHAuINNYIIYHEtTUtUtVAtWAWtYAuHEtZALgVOWEL_LENGTHENER
   cMETOSdISSION_TICKETScULTbEGEAN_CHECK_MARKhDRY_MEASURE_FIRST_SUBUNIThLIQUID_MEASURE_FIRST_SUBUNIT
   hMEASURE_SECOND_SUBUNITpTHIRD_SUBUNIThNUMBER_EIGHTt_HUNDREDuTHOUSANDtYu_THOUSANDoFIFTYt_THOUSAND
   qVEs_HUNDREDtTHOUSANDpORTYt_THOUSANDqURs_HUNDREDtTHOUSANDoNINEs_HUNDREDtTHOUSANDsTYu_THOUSANDoONE
   r_HUNDREDsTHOUSANDoSEVENt_HUNDREDuTHOUSANDtTYv_THOUSANDpIXr_HUNDREDsTHOUSANDrTYt_THOUSANDoTEN
   r_THOUSANDpHIRTYu_THOUSANDqREEt_HUNDREDuTHOUSANDpWENTYu_THOUSANDqOr_HUNDREDsTHOUSAND
   hWEIGHT_BASE_UNIToFIRST_SUBUNITpOURTH_SUBUNIToSECOND_SUBUNIToTHIRD_SUBUNITiORD_SEPARATOR_DOTwLINE
   cRIAL_TRAMWAYbFGHANI_SIGNbHOM_CONSONANT_SIGN_MEDIAL_LA+cIGATING_RA+bRAfDIGIT_EIGHTlFIVEmOURlNINE
   lONElSEVENmIXlTHREEmWOlZEROfLETTER_AnLTERNATE_BAwGAwTAmBAnHAmCAnHAmDAnDAoHAnHAmGAnHAmHAmJAnHAmKA
   nHAmLAnLAmMAmNAnGAnNAnYAmPAnHAmRAmSAmTAnHAnTAoHAfNUMBER_TENnWENTYfSIGN_KILLERkRULAIkSECTION
   lMALL_SECTIONgYMBOL_VIfVOWEL_SIGN_ArArIrMrWqEqIrIqOqUrUbIRPLANEi_ARRIVINGjDEPARTUREbKTIESELSKAB
   bLARM_CLOCKcCHEMICAL_SYMBOL_FOR_AIRxLEMBICyKALI+c-2yUMxMALGAMxNTIMONY_ORExQUA_REGIA+g-2+bVITAE
   +g-2+aFORTISxRSENICxSHESxURIPIGMENTwBATH_OF_MARY+eVAPOURSxISMUTH_ORExLACK_SULFURxORAX+b-2+c3xRICK
   wCADUCEUSyLXyPUT_MORTUUMxINNABARxOPPER_ANTIMONIATE+dORExROCUS_OF_COPPER+m-2+gIRONyUCIBLE+e-2+f3
   +f4+f5wDAY-NIGHTxISSOLVE+e-2zTILLwEARTHwFIREwGOLDxUMwHALF_DRAM+bOUNCExORSE_DUNGyURwIRON_ORE+e-2
   +a-COPPER_OREwLEAD_ORExODESTONEwMARCASITExERCURY_SUBLIMATE+n-2+o3xONTHwNIGHTyTREwOIL
   wPHILOSOPHERS_SULFURxOT_ASHESyWDER+cED_BRICKxRECIPITATExURIFYyTREFACTIONwQUICK_LIMEzNTESSENCE
   wREALGAR+d-2yGULUS+d_OF_ANTIMONY+p-2+hIRON+d-2+e3+e4yTORTxOCK_SALT+f-2wSAL-AMMONIACzT
   +a_OF_ANTIMONY+eCOPPER_ANTIMONIATExCEPTER_OF_JOVExILVERxOAPxPIRITxTARRED_TRIDENT
   yRATUM_SUPER_STRATUM+r-2xUBLIMATE_OF_ANTIMONY+jCOPPER+jSALT_OF_ANTIMONY+rCOPPER+eIONyLFURwTARTAR
   +c-2xIN_OREzCTURExRIDENTxUTTYwURINEwVERDIGRISxINEGAR+d_OF_ANTIMONY+d-2+e3yTRIOL+d-2wWATERyX
   cEF_SYMBOLdMBICdRTcIEN_MONSTERcL_AROUND-PROFILEeEQUAL_TOcMdOST_EQUAL_OR_EQUAL_TOnTO
   p_WITH_CIRCUMFLEX_ACCENTcTERNATE_ONE-WAY_LEFT_WAY_TRAFFICiIVE_KEY_SYMBOLbMALGAMATION_OR_COPRODUCT
   cBULANCEcERICAN_FOOTBALLcPERSANDdHORAbNATOLIAN_HIEROGLYPH_A001y2y3y4y5y6y7y8y9x10zAy1y2y3y4y5y6y7
   y8y9x20y1y2y3y4y5y6zAy7y8y9x30y1y2y3y4y5y6y7y8y9zAx40y1zAy2y3y4y5zAy6zAzBy7y8y9x50y1y2y3y4y5y6y7
   y8y9x60y1y2y3y4y5y6zAzBzCy7y8y9x70y1y2y3y4y5y6y7y8y9x80y1y2y3y4y5y6y7y8y9x90y1y2y3y4y5y6y7zAy8zA
   y9w100zAy1zAy2zAy3y4zAzBzCy5zAzBy6y7zAzBzCy8y9x10zAzBy1y2y3y4y5zAy6y7y8y9x20y1y2y3y4y5zAy6y7y8y9
   x30y1y2y3y4y5zAy6y7y8y9x40y1y2y3y4y5y6y7y8y9x50y1y2y3y4y5y6y7y8y9x60y1y2y3y4y5y6y7y8y9x70y1y2y3y4
   y5y6y7y8y9x80y1y2y3y4y5y6y7y8y9x90y1y2y3y4y5y6y7y8y9w200y1y2zAzBy3y4y5y6y7zAy8y9zAx10y1y2y3y4y5zA
   y6zAy7y8y9x20y1y2y3y4y5y6y7zAy8y9x30y1y2y3y4y5y6y7y8y9x40y1y2y3y4y5y6y7y8y9x50y1y2y3y4y5y6y7y8y9
   x60y1y2y3y4y5y6y7zAy8y9x70y1y2y3y4y5y6y7y8y9x80y1y2y3y4y5y6y7y8y9zAx90y1y2y3y4zAy5y6y7y8y9zAw300
   y1y2y3y4y5y6y7y8y9zAx10y1y2y3y4y5y6y7y8y9x20y1y2y3y4y5y6y7y8y9zAx30y1y2AzBzCy3y4y5y6zAzBzCy7y8y9
   x40y1y2y3y4y5y6y7y8y9x50y1y2y3y4y5y6y7y8y9zAx60y1y2y3y4zAy5y6y7y8zAy9x70y1zAy2y3y4y5y6y7y8y9x80y1
   zAy2y3_RA_OR_RIzAy4y5y6zAy7y8y9x90y1y2y3_EIGHTy4y5y6y7y8y9w400y1y2y3y4y5y6y7y8y9
   x10_BEGIN_LOGOGRAM_MARKzA_END_LOGOGRAM_MARKy1y2y3y4y5y6y7y8y9x20y1y2y3y4y5y6y7y8y9x30y1y2y3y4y5y6
   y7y8y9x40y1y2y3y4y5y6y7y8y9x50zAy1y2y3y4y5y6y7zAy8y9x60y1y2y3y4y5y6y7y8y9x70y1y2y3y4y5y6y7y8y9x80
   y1y2y3y4y5y6y7y8y9x90y1y2y3y4y5y6y7w501y2y3y4y5y6y7y8y9x10y1y2y3y4y5y6y7y8y9x20y1y2y3y4y5y6y7y8y9
   x30fMICAL_HEARTcCHORcD_WITH_DOTcGER_SYMBOLdLEf_WITH_S_INSIDElUNDERBARdRY_FACEdSTROM_SIGN
   dUISHED_FACEcKHcTdENNA_WITH_BARSdICLOCKWISE_CLOSED_CIRCLE_ARROWpONTOUR_INTEGRAL
   oDOWNWARDS_AND_UPWARDS_OPEN_CIRCLE_ARROWSoGAPPED_CIRCLE_ARROWoINTEGRATIONoOPEN_CIRCLE_ARROW
   oTOP_SEMICIRCLE_ARROWpRIANGLE-HEADED_BOTTOM_U-SHAPED_ARROW+eLEFT_U-SHAPED_ARROW
   +eOPEN_CIRCLE_ARROW+eRIGHT_U-SHAPED_ARROW+eTOP_U-SHAPED_ARROWbPCcL_FUNCTIONAL_SYMBOL_ALPHA
   +b_UNDERBARwBACKSLASH_BARwCIRCLE_BACKSLASH+dDIAERESIS+dJOT+dSTAR+fILE+dUNDERBARxOMMA_BAR
   wDEL_DIAERESIS+aSTILE+aTILDEzTA_STILE+cUNDERBARxIAMOND_UNDERBARxOWN_CARET_TILDE+bSHOE_STILE
   +bTACK_JOT+gUNDERBAR+aWARDS_VANEwEPSILON_UNDERBARwGREATER-THAN_DIAERESISwI-BEAMxOTA+a_UNDERBAR
   wJOT_DIAERESIS+aUNDERBARwLEFT_SHOE_STILE+aWARDS_VANEwOMEGA+b_UNDERBARwQUAD+a_BACKSLASH+bCIRCLE
   +cOLON+bDEL+eTA+cIAMOND+dVIDE+cOWN_CARET+fWARDS_ARROW+bEQUAL+bGREATER-THAN+bJOT+bLEFTWARDS_ARROW
   +dSS-THAN+bNOT_EQUAL+bQUESTION+bRIGHTWARDS_ARROW+bSLASH+bUP_CARET+dWARDS_ARROWyOTE_QUAD+cUNDERBAR
   wRHOxIGHTWARDS_VANEwSEMICOLON_UNDERBARxLASH_BARxQUISH_QUADxTAR_DIAERESISyILE_TILDE
   wTILDE_DIAERESISwUP_CARET_TILDEzSHOE_JOTzTACK_DIAERESIS+eJOT+eOVERBARyWARDS_VANEwZILDEcOLLON
   dSTROPHEcPLICATION_PROGRAM_COMMANDdROACHES_THE_LIMITfXIMATELY_BUT_NOT_ACTUALLY_EQUAL_TO
   oEQUAL_OR_EQUAL_TOuTOw_OR_THE_IMAGE_OFbQUARIUSbRABIC_BASELINE_ROUND_DOThCOMMAiURLY_DAMMAsTAN
   nFATHAsTANnKASRAsTANhDAMMAm_ISOLATED_FORMnMEDIAL_FORMnWITH_DOTmTANp_ISOLATED_FORMjTE_SEPARATOR
   iECIMAL_SEPARATORiISPUTED_END_OF_AYAHiOUBLE_RIGHT_ARROWHEAD_ABOVE+j_WITH_DOTnD_MADDA
   hEMPTY_CENTRE_HIGH_STOPuLOW_STOPiND_OF_AYAHoTEXT_MARKhFATHAm_ISOLATED_FORMnMEDIAL_FORM
   nWITH_DOT_ABOVEsRINGsTWO_DOTSmTANp_ISOLATED_FORMiIVE_POINTED_STARiOOTNOTE_MARKERiULL_STOP
   hHALF_MADDA_OVER_MADDAjMZA_ABOVEnBELOWhINVERTED_DAMMAhKASRAm_ISOLATED_FORMnMEDIAL_FORM
   nWITH_DOT_BELOWmTANp_ISOLATED_FORMhLARGE_CIRCLE_BELOWnROUND_DOT_ABOVExBELOWxINSIDE_CIRCLE_BELOW
   iEFT_ARROWHEAD_ABOVEwBELOWjTTER_AEpFRICAN_FEHwNOONwQAFz_WITH_THREE_DOTS_ABOVEpINr_FINAL_FORM
   sINITIAL_FORMtSOLATED_FORMsMEDIAL_FORMsWITH_THREE_DOTS_ABOVE+iBELOW+iPOINTING_DOWNWARDS_ABOVE
   yWO_DOTS_ABOVE+gVERTICALLY_ABOVEpLEFs_FINAL_FORMtISOLATED_FORMtMAKSURA+a_FINAL_FORM
   +bISOLATED_FORMtWASLAy_FINAL_FORMzISOLATED_FORMuITH_ATTACHED_BOTTOM_RIGHT_KASRA+z_AND_DOT_ABOVE
   ++eLEFT_RING+hFATHA+hKASRA+hLEFT_HAMZA+mROUND_DOT+hRIGHT_HAMZA+nROUND_DOT+iOUND_DOT_ABOVE+rBELOW
   +hTOP_RIGHT_FATHA+w_AND_DOT_ABOVE++bLEFT_RINGyDOT_ABOVEyEXTENDED_ARABIC-INDIC_DIGIT_THREE_ABOVE
   ++bWO_ABOVEyHAMZA_ABOVE+j_FINAL_FORM+kISOLATED_FORM+eBELOW+j_FINAL_FORM+kISOLATED_FORM
   yLEFT_MIDDLE_STROKEyMADDA_ABOVE+j_FINAL_FORM+kISOLATED_FORMyRIGHT_MIDDLE_STROKE+r_AND_DOT_ABOVE
   +wLEFT_RINGyWAVY_HAMZA_ABOVE+jBELOWoBEEHs_FINAL_FORMtINITIAL_FORMuSOLATED_FORMtMEDIAL_FORMqH
   r_FINAL_FORMsINITIAL_FORMtSOLATED_FORMsMEDIAL_FORMsWITH_DOT_BELOW_AND_THREE_DOTS_ABOVE
   xHAMZA_ABOVExINVERTED_SMALL_V_BELOWxSMALL_MEEM_ABOVE+dV+e_BELOWxTHREE_DOTS_HORIZONTALLY_BELOW
   +iPOINTING_UPWARDS_BELOW++e_AND_TWO_DOTS_ABOVEyWO_DOTS_BELOW_AND_DOT_ABOVErEHt_FINAL_FORM
   uINITIAL_FORMvSOLATED_FORMuMEDIAL_FORMoDADr_FINAL_FORMsINITIAL_FORMtSOLATED_FORMsMEDIAL_FORM
   sWITH_DOT_BELOWqHALt_FINAL_FORMuISOLATED_FORMqLr_FINAL_FORMsISOLATED_FORMsWITH_DOT_BELOW
   +g_AND_SMALL_TAHxFOUR_DOTS_ABOVExINVERTED_SMALL_V_BELOW+gVxRINGxTHREE_DOTS_ABOVE_DOWNWARDS+iBELOW
   yWO_DOTS_VERTICALLY_BELOW_AND_SMALL_TAHpDAHALu_FINAL_FORMvISOLATED_FORMrLs_FINAL_FORM
   tISOLATED_FORMpOTLESS_BEHwFEHwQAFpULr_FINAL_FORMsISOLATED_FORMpYEHs_FINAL_FORMtINITIAL_FORM
   uSOLATED_FORMtMEDIAL_FORMoEp_FINAL_FORMqINITIAL_FORMrSOLATED_FORMqMEDIAL_FORMoFARSI_YEH
   x_FINAL_FORMyINITIAL_FORMzSOLATED_FORMyMEDIAL_FORMyWITH_EXTENDED_ARABIC-INDIC_DIGIT_FOUR_BELOW
   ++fTHREE_ABOVE++gWO_ABOVE+dINVERTED_V+dTHREE_DOTS_ABOVE+eWO_DOTS_ABOVEpEHr_FINAL_FORM
   sINITIAL_FORMtSOLATED_FORMsMEDIAL_FORMsWITH_DOT_BELOW+g_AND_THREE_DOTS_ABOVE+bMOVED_BELOW
   xTHREE_DOTS_BELOW+iPOINTING_UPWARDS_BELOWyWO_DOTS_BELOWoGAFr_FINAL_FORMsINITIAL_FORMtSOLATED_FORM
   sMEDIAL_FORMsWITH_INVERTED_STROKExRINGxTHREE_DOTS_ABOVEyWO_DOTS_BELOWpHAINt_FINAL_FORM
   uINITIAL_FORMvSOLATED_FORMuMEDIAL_FORMuWITH_DOT_BELOWzTHREE_DOTS_ABOVEpRAFpUEHs_FINAL_FORM
   tINITIAL_FORMuSOLATED_FORMtMEDIAL_FORMoHAHr_FINAL_FORMsINITIAL_FORMtSOLATED_FORMsMEDIAL_FORM
   sWITH_EXTENDED_ARABIC-INDIC_DIGIT_FOUR_BELOWxHAMZA_ABOVExINVERTED_SMALL_V_BELOW
   xSMALL_ARABIC_LETTER_TAH_ABOVE+wND_TWO_DOTS+vBELOWxTHREE_DOTS_ABOVE+iPOINTING_UPWARDS_BELOW
   yWO_DOTS_ABOVE+gVERTICAL_ABOVEqMZAt_ISOLATED_FORMpEHr_DOACHASHMEE+d_FINAL_FORM+eINITIAL_FORM
   +fSOLATED_FORM+eMEDIAL_FORMsFINAL_FORMsGOALw_FINAL_FORMxINITIAL_FORMySOLATED_FORMxMEDIAL_FORM
   xWITH_HAMZA_ABOVEsINITIAL_FORMtSOLATED_FORMsMEDIAL_FORMsWITH_INVERTED_VxYEH_ABOVE+g_FINAL_FORM
   +hISOLATED_FORMpIGH_HAMZAy_ALEFzWAWzYEHoJEEMs_FINAL_FORMtINITIAL_FORMuSOLATED_FORMtMEDIAL_FORM
   tWITH_THREE_DOTS_ABOVE+jBELOWzWO_DOTS_ABOVEqHr_FINAL_FORMsISOLATED_FORMoKAFr_FINAL_FORM
   sINITIAL_FORMtSOLATED_FORMsMEDIAL_FORMsWITH_DOT_ABOVE+bBELOWxRINGxTHREE_DOTS_BELOWyWO_DOTS_ABOVE
   qSHMIRI_YEHpEHEHt_FINAL_FORMuINITIAL_FORMvSOLATED_FORMuMEDIAL_FORMuWITH_DOT_ABOVEzSMALL_V
   zTHREE_DOTS_ABOVE+kBELOW+kPOINTING_UPWARDS_BELOW+aWO_DOTS_ABOVE+iVERTICALLY_BELOWpHAHs_FINAL_FORM
   tINITIAL_FORMuSOLATED_FORMtMEDIAL_FORMpIRGHIZ_OEy_FINAL_FORMzISOLATED_FORMwYUy_FINAL_FORM
   zISOLATED_FORMoLAMr_FINAL_FORMsINITIAL_FORMtSOLATED_FORMsMEDIAL_FORMsWITH_BARxDOT_ABOVEzUBLE_BAR
   xSMALL_ARABIC_LETTER_TAH_ABOVE+dVxTHREE_DOTS_ABOVE+iBELOWpOW_ALEFoMARKpEEMs_FINAL_FORM
   tINITIAL_FORMuSOLATED_FORMtMEDIAL_FORMtWITH_DOT_ABOVE+cBELOWyTHREE_DOTS_ABOVEoNGq_FINAL_FORM
   rINITIAL_FORMsSOLATED_FORMrMEDIAL_FORMqOEHt_FINAL_FORMuINITIAL_FORMvSOLATED_FORMuMEDIAL_FORMpOON
   s_FINAL_FORMtGHUNNAz_FINAL_FORM+aISOLATED_FORMtINITIAL_FORMuSOLATED_FORMtMEDIAL_FORM
   tWITH_DOT_BELOWyINVERTED_SMALL_VyRINGySMALL_TAH+eVyTHREE_DOTS_ABOVEzWO_DOTS_BELOWpYEHs_FINAL_FORM
   tINITIAL_FORMuSOLATED_FORMtMEDIAL_FORMoOEq_FINAL_FORMrISOLATED_FORMoPEHr_FINAL_FORMsINITIAL_FORM
   tSOLATED_FORMsMEDIAL_FORMsWITH_SMALL_MEEM_ABOVE+dVrEHt_FINAL_FORMuINITIAL_FORMvSOLATED_FORM
   uMEDIAL_FORMoQAFr_FINAL_FORMsINITIAL_FORMtSOLATED_FORMsMEDIAL_FORMsWITH_DOT_ABOVE+bBELOW
   +g_AND_NO_DOTS_ABOVExTHREE_DOTS_ABOVEoREHr_FINAL_FORMsISOLATED_FORMsWITH_DOT_BELOW
   +g_AND_DOT_ABOVExFOUR_DOTS_ABOVExHAMZA_ABOVExINVERTED_VxLOOPxRING
   xSMALL_ARABIC_LETTER_TAH_AND_TWO_DOTS+dNOON_ABOVE+dV+e_BELOWyTROKExTWO_DOTS_ABOVE
   +gVERTICALLY_ABOVEpNOONt_FINAL_FORMuINITIAL_FORMvSOLATED_FORMuMEDIAL_FORMpOHINGYA_YEHpREH
   s_FINAL_FORMtISOLATED_FORMoSADr_FINAL_FORMsINITIAL_FORMtSOLATED_FORMsMEDIAL_FORM
   sWITH_THREE_DOTS_ABOVE+iBELOWyWO_DOTS_BELOWpEENs_FINAL_FORMtINITIAL_FORMuSOLATED_FORMtMEDIAL_FORM
   tWITH_DOT_BELOW_AND_DOT_ABOVEyEXTENDED_ARABIC-INDIC_DIGIT_FOUR_ABOVEyFOUR_DOTS_ABOVEyINVERTED_V
   ySMALL_ARABIC_LETTER_TAH_AND_TWO_DOTSyTHREE_DOTS_BELOW+o_AND_THREE_DOTS_ABOVE
   zWO_DOTS_VERTICALLY_ABOVEpHEENt_FINAL_FORMuINITIAL_FORMvSOLATED_FORMuMEDIAL_FORMuWITH_DOT_BELOW
   pTRAIGHT_WAWpUPERSCRIPT_ALEFpWASH_KAFoTAHr_FINAL_FORMsINITIAL_FORMtSOLATED_FORMsMEDIAL_FORM
   sWITH_DOT_BELOWxTHREE_DOTS_ABOVE+iBELOWyWO_DOTS_ABOVEpCHEHt_FINAL_FORMuINITIAL_FORMvSOLATED_FORM
   uMEDIAL_FORMuWITH_DOT_ABOVEzSMALL_VtEHv_FINAL_FORMwINITIAL_FORMxSOLATED_FORMwMEDIAL_FORMpEH
   r_FINAL_FORMsINITIAL_FORMtSOLATED_FORMsMARBUTAz_FINAL_FORM+aGOAL+aISOLATED_FORMtEDIAL_FORM
   sWITH_RINGxSMALL_TEH_ABOVE+dVxTHREE_DOTS_ABOVE_DOWNWARDSrEHt_FINAL_FORMuINITIAL_FORMvSOLATED_FORM
   uMEDIAL_FORMpHALs_FINAL_FORMtISOLATED_FORMqEHs_FINAL_FORMtINITIAL_FORMuSOLATED_FORMtMEDIAL_FORM
   qIN_YEHpTEHs_FINAL_FORMtINITIAL_FORMuSOLATED_FORMtMEDIAL_FORMtWITH_SMALL_VsEHu_FINAL_FORM
   vINITIAL_FORMwSOLATED_FORMvMEDIAL_FORMoUp_FINAL_FORMqISOLATED_FORMqWITH_HAMZA_ABOVE
   +g_ISOLATED_FORMpIGHUR_KAZAKH_KIRGHIZ_ALEF_MAKSURA_INITIAL_FORM+xMEDIAL_FORMoVEq_FINAL_FORM
   rISOLATED_FORMqHr_FINAL_FORMsINITIAL_FORMtSOLATED_FORMsMEDIAL_FORMoWAWr_FINAL_FORMsISOLATED_FORM
   sWITH_DOT_ABOVE+bWITHINxEXTENDED_ARABIC-INDIC_DIGIT_THREE_ABOVE++aWO_ABOVExHAMZA_ABOVE
   +i_FINAL_FORM+jISOLATED_FORMxRINGxTWO_DOTS_ABOVEoYEHr_BARREEy_FINAL_FORMzISOLATED_FORM
   zWITH_EXTENDED_ARABIC-INDIC_DIGIT_THREE_ABOVE++hWO_ABOVE+eHAMZA_ABOVE+p_FINAL_FORM+qISOLATED_FORM
   sFINAL_FORMsINITIAL_FORMtSOLATED_FORMsMEDIAL_FORMsWITH_HAMZA_ABOVE+i_FINAL_FORM+jINITIAL_FORM
   +kSOLATED_FORM+jMEDIAL_FORMxSMALL_VxTAILyHREE_DOTS_BELOWyWO_DOTS_BELOW_AND_DOT_ABOVE+qHAMZA_ABOVE
   +qSMALL_NOON_ABOVEpUq_FINAL_FORMrISOLATED_FORMoZAHr_FINAL_FORMsINITIAL_FORMtSOLATED_FORM
   sMEDIAL_FORMqINs_FINAL_FORMtISOLATED_FORMtWITH_INVERTED_V_ABOVE
   iIGATURE_AIN_WITH_ALEF_MAKSURA_FINAL_FORM+mISOLATED_FORMzJEEM_INITIAL_FORM+fSOLATED_FORM
   +eWITH_MEEM_FINAL_FORM+oINITIAL_FORMzMEEM_INITIAL_FORM+fSOLATED_FORM
   +eWITH_ALEF_MAKSURA_FINAL_FORM+jMEEM_FINAL_FORM+oINITIAL_FORM+jYEH_FINAL_FORMzYEH_FINAL_FORM
   +dISOLATED_FORMrKBAR_ISOLATED_FORMrLAYHAA_AS-SALAAMvE_ISOLATED_FORMvI_AS-SALAAM+fTU_WAS-SALAAM
   wM_AS-SALAAMxAA_AS-SALAAMsEF_MAKSURA_WITH_SUPERSCRIPT_ALEF_FINAL_FORM+zISOLATED_FORM
   vWITH_FATHATAN_FINAL_FORM+jISOLATED_FORMsLAH_ISOLATED_FORMrZZA_WA_JALL
   qBEH_WITH_ALEF_MAKSURA_FINAL_FORM+mISOLATED_FORMzHAH_INITIAL_FORM+eSOLATED_FORM
   +dWITH_YEH_FINAL_FORM+aEH_INITIAL_FORM+dMEDIAL_FORMzJEEM_INITIAL_FORM+fSOLATED_FORM
   zKHAH_INITIAL_FORM+fSOLATED_FORM+eWITH_YEH_FINAL_FORMzMEEM_FINAL_FORM+eINITIAL_FORM+fSOLATED_FORM
   +eMEDIAL_FORMzNOON_FINAL_FORMzREH_FINAL_FORMzYEH_FINAL_FORM+dISOLATED_FORMzZAIN_FINAL_FORM
   rISMILLAH_AR-RAHMAN_AR-RAHEEMqDAD_WITH_ALEF_MAKSURA_FINAL_FORM+mISOLATED_FORMzHAH_INITIAL_FORM
   +eSOLATED_FORM+dWITH_ALEF_MAKSURA_FINAL_FORM+iYEH_FINAL_FORMzJEEM_INITIAL_FORM+fSOLATED_FORM
   zKHAH_INITIAL_FORM+fSOLATED_FORM+eWITH_MEEM_FINAL_FORM+oINITIAL_FORMzMEEM_INITIAL_FORM
   +fSOLATED_FORMzREH_FINAL_FORM+dISOLATED_FORMzYEH_FINAL_FORM+dISOLATED_FORM
   qFEH_WITH_ALEF_MAKSURA_FINAL_FORM+mISOLATED_FORMzHAH_INITIAL_FORM+eSOLATED_FORMzJEEM_INITIAL_FORM
   +fSOLATED_FORMzKHAH_INITIAL_FORM+fSOLATED_FORM+eWITH_MEEM_FINAL_FORM+oINITIAL_FORM
   zMEEM_INITIAL_FORM+fSOLATED_FORM+eWITH_YEH_FINAL_FORMzYEH_FINAL_FORM+dISOLATED_FORM
   qGHAIN_WITH_ALEF_MAKSURA_FINAL_FORM+oISOLATED_FORM+bJEEM_INITIAL_FORM+hSOLATED_FORM
   +bMEEM_INITIAL_FORM+hSOLATED_FORM+gWITH_ALEF_MAKSURA_FINAL_FORM+lMEEM_FINAL_FORM+lYEH_FINAL_FORM
   +bYEH_FINAL_FORM+fISOLATED_FORMqHAH_WITH_ALEF_MAKSURA_FINAL_FORM+mISOLATED_FORMzJEEM_INITIAL_FORM
   +fSOLATED_FORM+eWITH_YEH_FINAL_FORMzMEEM_INITIAL_FORM+fSOLATED_FORM+eWITH_ALEF_MAKSURA_FINAL_FORM
   +jYEH_FINAL_FORMzYEH_FINAL_FORM+dISOLATED_FORMrEH_WITH_ALEF_MAKSURA_ISOLATED_FORM
   zJEEM_INITIAL_FORM+fSOLATED_FORMzMEEM_INITIAL_FORM+fSOLATED_FORM+eWITH_JEEM_INITIAL_FORM
   +jMEEM_INITIAL_FORMzSUPERSCRIPT_ALEF_INITIAL_FORMzYEH_ISOLATED_FORMqJALLAJALALOUHOU
   rEEM_WITH_ALEF_MAKSURA_FINAL_FORM+nISOLATED_FORM+aHAH_INITIAL_FORM+fSOLATED_FORM
   +eWITH_ALEF_MAKSURA_FINAL_FORM+jYEH_FINAL_FORM+aMEEM_INITIAL_FORM+gSOLATED_FORM
   +fWITH_ALEF_MAKSURA_FINAL_FORM+kHAH_FINAL_FORM+oINITIAL_FORM+kYEH_FINAL_FORM+aYEH_FINAL_FORM
   +eISOLATED_FORMqKAF_WITH_ALEF_FINAL_FORM+eISOLATED_FORM+eMAKSURA_FINAL_FORM+mISOLATED_FORM
   zHAH_INITIAL_FORM+eSOLATED_FORMzJEEM_INITIAL_FORM+fSOLATED_FORMzKHAH_INITIAL_FORM+fSOLATED_FORM
   zLAM_FINAL_FORM+dINITIAL_FORM+eSOLATED_FORM+dMEDIAL_FORMzMEEM_FINAL_FORM+eINITIAL_FORM
   +fSOLATED_FORM+eMEDIAL_FORM+eWITH_MEEM_FINAL_FORM+oINITIAL_FORM+jYEH_FINAL_FORMzYEH_FINAL_FORM
   +dISOLATED_FORMrHAH_WITH_ALEF_MAKSURA_FINAL_FORM+nISOLATED_FORM+aHAH_ISOLATED_FORM
   +aJEEM_INITIAL_FORM+gSOLATED_FORM+aMEEM_INITIAL_FORM+gSOLATED_FORM+aYEH_FINAL_FORM+eISOLATED_FORM
   qLAM_WITH_ALEF_FINAL_FORM+eISOLATED_FORM+eMAKSURA_FINAL_FORM+mISOLATED_FORM
   +eWITH_HAMZA_ABOVE_FINAL_FORM+vISOLATED_FORM+pBELOW_FINAL_FORM+vISOLATED_FORM
   +jMADDA_ABOVE_FINAL_FORM+vISOLATED_FORMzHAH_INITIAL_FORM+eSOLATED_FORM
   +dWITH_ALEF_MAKSURA_FINAL_FORM+iMEEM_FINAL_FORM+nINITIAL_FORM+iYEH_FINAL_FORM+aEH_INITIAL_FORM
   zJEEM_INITIAL_FORM+fSOLATED_FORM+eWITH_JEEM_FINAL_FORM+oINITIAL_FORM+jMEEM_FINAL_FORM
   +oINITIAL_FORM+jYEH_FINAL_FORMzKHAH_INITIAL_FORM+fSOLATED_FORM+eWITH_MEEM_FINAL_FORM
   +oINITIAL_FORMzMEEM_FINAL_FORM+eINITIAL_FORM+fSOLATED_FORM+eMEDIAL_FORM+eWITH_HAH_FINAL_FORM
   +nINITIAL_FORM+jYEH_FINAL_FORMzYEH_FINAL_FORM+dISOLATED_FORMqMEEM_WITH_ALEF_FINAL_FORM
   +fMAKSURA_ISOLATED_FORM+aHAH_INITIAL_FORM+fSOLATED_FORM+eWITH_JEEM_INITIAL_FORM
   +jMEEM_INITIAL_FORM+jYEH_FINAL_FORM+aJEEM_INITIAL_FORM+gSOLATED_FORM+fWITH_HAH_INITIAL_FORM
   +kKHAH_INITIAL_FORM+kMEEM_INITIAL_FORM+kYEH_FINAL_FORM+aKHAH_INITIAL_FORM+gSOLATED_FORM
   +fWITH_JEEM_INITIAL_FORM+kMEEM_INITIAL_FORM+kYEH_FINAL_FORM+aMEEM_FINAL_FORM+fINITIAL_FORM
   +gSOLATED_FORM+fWITH_YEH_FINAL_FORM+aYEH_ISOLATED_FORMrOHAMMAD_ISOLATED_FORM
   qNOON_WITH_ALEF_MAKSURA_FINAL_FORM+nISOLATED_FORM+aHAH_INITIAL_FORM+fSOLATED_FORM
   +eWITH_ALEF_MAKSURA_FINAL_FORM+jMEEM_INITIAL_FORM+jYEH_FINAL_FORM+bEH_INITIAL_FORM+eMEDIAL_FORM
   +aJEEM_INITIAL_FORM+gSOLATED_FORM+fWITH_ALEF_MAKSURA_FINAL_FORM+kHAH_FINAL_FORM+oINITIAL_FORM
   +kMEEM_FINAL_FORM+pINITIAL_FORM+kYEH_FINAL_FORM+aKHAH_INITIAL_FORM+gSOLATED_FORM+aMEEM_FINAL_FORM
   +fINITIAL_FORM+gSOLATED_FORM+fMEDIAL_FORM+fWITH_ALEF_MAKSURA_FINAL_FORM+kYEH_FINAL_FORM
   +aNOON_FINAL_FORM+aREH_FINAL_FORM+aYEH_FINAL_FORM+eISOLATED_FORM+aZAIN_FINAL_FORM
   qQAF_WITH_ALEF_MAKSURA_FINAL_FORM+mISOLATED_FORMzHAH_INITIAL_FORM+eSOLATED_FORMzMEEM_INITIAL_FORM
   +fSOLATED_FORM+eWITH_HAH_FINAL_FORM+nINITIAL_FORM+jMEEM_FINAL_FORM+jYEH_FINAL_FORMzYEH_FINAL_FORM
   +dISOLATED_FORMsLA_USED_AS_KORANIC_STOP_SIGN_ISOLATED_FORMrUDDISA_SIRRAHqRADI_ALLAAHU_ANH+gAA+gUM
   +iAA+hNNAsHIMAHU_ALLAAHyM_ALLAAHsSOUL_ISOLATED_FORMrEH_WITH_SUPERSCRIPT_ALEF_ISOLATED_FORM
   qSAD_WITH_ALEF_MAKSURA_FINAL_FORM+mISOLATED_FORMzHAH_INITIAL_FORM+eSOLATED_FORM
   +dWITH_HAH_FINAL_FORM+mINITIAL_FORM+iYEH_FINAL_FORMzKHAH_INITIAL_FORMzMEEM_INITIAL_FORM
   +fSOLATED_FORM+eWITH_MEEM_FINAL_FORM+oINITIAL_FORMzREH_FINAL_FORM+dISOLATED_FORMzYEH_FINAL_FORM
   +dISOLATED_FORMsLAAMUHU_ALAYNAAuM_ISOLATED_FORMtLA_ISOLATED_FORM
   wUSED_AS_KORANIC_STOP_SIGN_ISOLATED_FORMvLLAAHU_ALAYHI_WA-AALIHyHOU_ALAYHE_WASALLAM
   zU_ALAYHI_WAAALIHEE_WA-SALLAMrEEN_WITH_ALEF_MAKSURA_FINAL_FORM+nISOLATED_FORM+aHAH_INITIAL_FORM
   +fSOLATED_FORM+eMEDIAL_FORM+eWITH_JEEM_INITIAL_FORM+bEH_INITIAL_FORM+eMEDIAL_FORM
   +aJEEM_INITIAL_FORM+gSOLATED_FORM+fMEDIAL_FORM+fWITH_ALEF_MAKSURA_FINAL_FORM+kHAH_INITIAL_FORM
   +aKHAH_INITIAL_FORM+gSOLATED_FORM+fMEDIAL_FORM+fWITH_ALEF_MAKSURA_FINAL_FORM+kYEH_FINAL_FORM
   +aMEEM_INITIAL_FORM+gSOLATED_FORM+fMEDIAL_FORM+fWITH_HAH_FINAL_FORM+oINITIAL_FORM
   +kJEEM_INITIAL_FORM+kMEEM_FINAL_FORM+pINITIAL_FORM+aREH_FINAL_FORM+eISOLATED_FORM+aYEH_FINAL_FORM
   +eISOLATED_FORMrHADDA_WITH_DAMMA_ISOLATED_FORM+iMEDIAL_FORM+hTAN_ISOLATED_FORM
   +cFATHA_ISOLATED_FORM+iMEDIAL_FORM+cKASRA_ISOLATED_FORM+iMEDIAL_FORM+hTAN_ISOLATED_FORM
   +cSUPERSCRIPT_ALEF_ISOLATED_FORMsEEN_WITH_ALEF_MAKSURA_FINAL_FORM+oISOLATED_FORM+bHAH_FINAL_FORM
   +fINITIAL_FORM+gSOLATED_FORM+fMEDIAL_FORM+fWITH_MEEM_FINAL_FORM+pINITIAL_FORM+kYEH_FINAL_FORM
   +cEH_INITIAL_FORM+fMEDIAL_FORM+bJEEM_FINAL_FORM+gINITIAL_FORM+hSOLATED_FORM+gMEDIAL_FORM
   +gWITH_YEH_FINAL_FORM+bKHAH_FINAL_FORM+gINITIAL_FORM+hSOLATED_FORM+gMEDIAL_FORM+bMEEM_FINAL_FORM
   +gINITIAL_FORM+hSOLATED_FORM+gMEDIAL_FORM+gWITH_KHAH_FINAL_FORM+qINITIAL_FORM+lMEEM_FINAL_FORM
   +qINITIAL_FORM+bREH_FINAL_FORM+fISOLATED_FORM+bYEH_FINAL_FORM+fISOLATED_FORMrUBHAANAHU_WA_TAAALAA
   qTABAARAKA_WA-TAAALAAsH_WITH_ALEF_MAKSURA_FINAL_FORM+mISOLATED_FORMzHAH_INITIAL_FORM
   +eSOLATED_FORMzMEEM_INITIAL_FORM+fSOLATED_FORM+eMEDIAL_FORM+eWITH_HAH_FINAL_FORM+nINITIAL_FORM
   +jMEEM_INITIAL_FORM+jYEH_FINAL_FORMzYEH_FINAL_FORM+dISOLATED_FORMrEH_WITH_ALEF_MAKSURA_FINAL_FORM
   +mISOLATED_FORMzHAH_INITIAL_FORM+eSOLATED_FORM+dWITH_JEEM_FINAL_FORM+nINITIAL_FORM
   +iMEEM_INITIAL_FORM+aEH_INITIAL_FORM+dMEDIAL_FORMzJEEM_INITIAL_FORM+fSOLATED_FORM
   +eWITH_ALEF_MAKSURA_FINAL_FORM+jMEEM_INITIAL_FORM+jYEH_FINAL_FORMzKHAH_INITIAL_FORM+fSOLATED_FORM
   +eWITH_ALEF_MAKSURA_FINAL_FORM+jMEEM_INITIAL_FORM+jYEH_FINAL_FORMzMEEM_FINAL_FORM+eINITIAL_FORM
   +fSOLATED_FORM+eMEDIAL_FORM+eWITH_ALEF_MAKSURA_FINAL_FORM+jHAH_INITIAL_FORM+jJEEM_INITIAL_FORM
   +jKHAH_INITIAL_FORM+jYEH_FINAL_FORMzNOON_FINAL_FORMzREH_FINAL_FORMzYEH_FINAL_FORM+dISOLATED_FORM
   zZAIN_FINAL_FORMrHAL_WITH_SUPERSCRIPT_ALEF_ISOLATED_FORMsEH_WITH_ALEF_MAKSURA_FINAL_FORM
   +nISOLATED_FORM+aHEH_MEDIAL_FORM+aJEEM_ISOLATED_FORM+aMEEM_FINAL_FORM+fINITIAL_FORM+gSOLATED_FORM
   +fMEDIAL_FORM+aNOON_FINAL_FORM+aREH_FINAL_FORM+aYEH_FINAL_FORM+eISOLATED_FORM+aZAIN_FINAL_FORM
   qUIGHUR_KIRGHIZ_YEH_WITH_HAMZA_ABOVE_WITH_ALEF_MAKSURA_FINAL_FORM++sINITIAL_FORM++tSOLATED_FORM
   qWASALLAM_ISOLATED_FORMqYEH_WITH_ALEF_MAKSURA_FINAL_FORM+mISOLATED_FORMzHAH_INITIAL_FORM
   +eSOLATED_FORM+dWITH_YEH_FINAL_FORM+bMZA_ABOVE_WITH_AE_FINAL_FORM+tISOLATED_FORM+rLEF_FINAL_FORM
   +vISOLATED_FORM+vMAKSURA_FINAL_FORM++dISOLATED_FORM+qE_FINAL_FORM+sINITIAL_FORM+tSOLATED_FORM
   +qHAH_INITIAL_FORM+vSOLATED_FORM+rEH_INITIAL_FORM+uMEDIAL_FORM+qJEEM_INITIAL_FORM+wSOLATED_FORM
   +qKHAH_INITIAL_FORM+qMEEM_FINAL_FORM+vINITIAL_FORM+wSOLATED_FORM+vMEDIAL_FORM+qNOON_FINAL_FORM
   +qOE_FINAL_FORM+tISOLATED_FORM+qREH_FINAL_FORM+qU_FINAL_FORM+sISOLATED_FORM+qWAW_FINAL_FORM
   +uISOLATED_FORM+qYEH_FINAL_FORM+uISOLATED_FORM+rU_FINAL_FORM+tISOLATED_FORM+qZAIN_FINAL_FORM
   +aEH_INITIAL_FORM+dMEDIAL_FORMzJEEM_INITIAL_FORM+fSOLATED_FORM+eWITH_YEH_FINAL_FORM
   zKHAH_INITIAL_FORM+fSOLATED_FORMzMEEM_FINAL_FORM+eINITIAL_FORM+fSOLATED_FORM+eMEDIAL_FORM
   +eWITH_MEEM_FINAL_FORM+oINITIAL_FORM+jYEH_FINAL_FORMzNOON_FINAL_FORMzREH_FINAL_FORM
   zYEH_FINAL_FORM+dISOLATED_FORMzZAIN_FINAL_FORMqZAH_WITH_MEEM_INITIAL_FORM+fSOLATED_FORM
   +eMEDIAL_FORMhMADDA_WAAJIBmH_ABOVEjRK_NOON_GHUNNAmSIDEWAYS_NOON_GHUNNAjTHEMATICAL_AINvLEFuBEHuDAD
   wLvOTLESS_BEH+cFEH+cNOON+cQAFwUBLE-STRUCK_AIN+iBEH+iDAD+kL+iFEH+iGHAIN+iHAH+iJEEM+iKHAH+iLAM
   +iMEEM+iNOON+iQAF+iREH+iSAD+jEEN+jHEEN+iTAH+jEH+jHAL+kEH+iWAW+iYEH+iZAH+kINuFEHuGHAINuHAH
   uINITIAL_AIN+cBEH+cDAD+cFEH+cGHAIN+cHAH+dEH+cJEEM+cKAF+dHAH+cLAM+cMEEM+cNOON+cQAF+cSAD+dEEN+dHEEN
   +cTEH+dHEH+cYEHuJEEMuKAFvHAHuLAMvOOPED_AIN+cLEF+bBEH+bDAD+dL+bFEH+bGHAIN+bHAH+cEH+bJEEM+bKHAH
   +bLAM+bMEEM+bNOON+bQAF+bREH+bSAD+cEEN+cHEEN+bTAH+cEH+cHAL+dEH+bWAW+bYEH+bZAH+dINuMEEMuNOON
   uOPERATOR_HAH_WITH_DAL+dMEEM_WITH_HAH_WITH_TATWEELuQAFuREHuSADvEENvHEENvTRETCHED_AIN+eBEH+eDAD
   +fOTLESS_BEH+mFEH+eFEH+eGHAIN+eHAH+fEH+eJEEM+eKAF+fHAH+eMEEM+eNOON+eQAF+eSAD+fEEN+fHEEN+eTAH+fEH
   +fHEH+eYEH+eZAHuTAHwILED_AIN+bDAD+cOTLESS_NOON+jQAF+bGHAIN+bHAH+bJEEM+bKHAH+bLAM+bNOON+bQAF+bSAD
   +cEEN+cHEEN+bYEHvEHvHALwEHuWAWuYEHuZAHwINhNUMBER_MARK_ABOVEoSIGNhOPEN_DAMMATANmFATHATANmKASRATAN
   hPERCENT_SIGNiIASTRE_MARK_ABOVEiLACE_OF_SAJDAHiOETIC_VERSE_SIGNjUND_MARK_ABOVEhQUESTION_MARK
   hRAISED_ROUND_DOTjYiEVERSED_DAMMAiIGHT_ARROWHEAD_ABOVE+c_WITH_DOTxBELOW
   iOUNDED_HIGH_STOP_WITH_FILLED_CENTREhSEMICOLONiHADDAn_ISOLATED_FORMoMEDIAL_FORM
   iIGN_ALAYHE_ASSALLAMmMISRAmRADI_ALLAHOU_ANHUoHMATULLAH_ALAYHEmSAFHAoLLALLAHOU_ALAYHE_WASSALLAM
   oMVAToNAHnINDHI_AMPERSANDtPOSTPOSITION_MENmTAKHALLUSiMALL_DAMMAnFARSI_YEHpTHAnHIGH_AIN
   sDOTLESS_HEAD_OF_KHAHsFARSI_YEHtOOTNOTE_MARKERsJEEMsLAM_ALEFtIGATURE_ALEF_WITH_LAM_WITH_YEH
   +bQAF_WITH_LAM_WITH_ALEF_MAKSURA+bSAD_WITH_LAM_WITH_ALEF_MAKSURAsMADDAtEEM_INITIAL_FORM
   ySOLATED_FORMsNOONw_WITH_KASRAsQAFsROUNDED_ZEROsSADtEENtIGN_SAFHAsTAHtHREE_DOTS
   sUPRIGHT_RECTANGULAR_ZEROsWAWtORD_AL-JUZyN-NISFyR-RUByS-SAJDAyTH-THALATHAxQIFxSAHzKTAxWAQFAsYEH
   v_BARREE_WITH_TWO_DOTS_BELOWsZAHuINnKASRAnLOW_MEEMrNOON_WITH_KASRArSEENrWAWsORD_IMAALAxSHMAAM
   wTASHEELnWAWnYEHiTART_OF_RUB_EL_HIZBiUBSCRIPT_ALEFjKUNm_BELOWnISOLATED_FORMnMEDIAL_FORM
   jPERSCRIPT_ALEF_MOKHASSASiYMBOL_DOT_ABOVEsBELOWqUBLE_VERTICAL_BAR_BELOWoFOUR_DOTS_ABOVEyBELOW
   oRINGoSMALL_TAH_ABOVEyBELOWoTHREE_DOTS_ABOVEzBELOWzPOINTING_DOWNWARDS_ABOVE+sBELOWpWO_DOTS_ABOVE
   xBELOWxVERTICALLY_ABOVE+iBELOWoWASLA_ABOVEhTAIL_FRAGMENTjTWEELo_WITH_FATHATAN_ABOVE
   uOVERSTRUCK_HAMZA+fWAWuTWO_DOTS_BELOWiHOUSANDS_SEPARATORiONE_LOOP_ABOVErBELOWmONE_DOT_ABOVEuBELOW
   mTWO_DOTS_ABOVEvBELOWiRIPLE_DOT_PUNCTUATION_MARKiURNED_DAMMA_BELOWhVERTICAL_TAIL
   iOWEL_SIGN_DOT_BELOWsINVERTED_SMALL_V_ABOVEsSMALL_V_ABOVEhWAVY_HAMZA_BELOWhZWARAKAY
   g-INDIC_CUBE_ROOTnDIGIT_EIGHTtFIVEuOURtNINEtONEtSEVENuIXtTHREEuWOtZEROnFOURTH_ROOTnPER_MILLE_SIGN
   rTEN_THOUSAND_SIGNcCcIEScMENIAN_ABBREVIATION_MARKkPOSTROPHEjCAPITAL_LETTER_AYByBENyCAzHA+aEHzOyDA
   yECHzHzTyFEHyGHADzIMyHOyINIyJAzHEHyKEH+aNyLIWNyMENyNOWyOHyPEHzIWRyRAzEHySEHzHAyTIWNzOyVEWzOyXEH
   yYI+aWNyZAzHEkOMMAjDRAM_SIGNjEMPHASIS_MARKkXCLAMATION_MARKjFULL_STOPjHYPHEN
   jMODIFIER_LETTER_LEFT_HALF_RINGjQUESTION_MARKjSMALL_LETTER_AYBwBENwCAxHAyEHxOwDAwECHxHxTwFEHwGHAD
   xIMwHOwINIwJAxHEHwKEHyNwLIWNwMENwNOWwOHwPEHxIWRwRAxEHwSEHxHAwTIWNxOxURNED_AYBwVEWxOwXEHwYI
   y_WITH_STROKEyWNwZAxHEqIGATURE_ECH_YIWNyMEN_ECH+cINI+cNOW+cXEHyVEW_NOW
   cROW_POINTING_DOWNWARDS_THEN_CURVING_LEFTWARDS+mRIGHTWARDSpRIGHTWARDS_THEN_CURVING_DOWNWARDS
   +nSOUTH_WEST+nUPWARDSpUPWARDS_THEN_NORTH_WESTfHEAD-SHAPED_POINTERcTICULATED_LORRYeST_PALETTE
   bSCENDING_NODEdIA_SYMBOLcSERTIONcTERISKi_OPERATORhMdONISHED_FACEdRAEAeONOMICAL_SYMBOL_FOR_URANUS
   cYMPTOTICALLY_EQUAL_TObTHLETIC_SHOEcOM_SYMBOLbUBERGINEcSTRAL_SIGNcTO_RICKSHAW
   eMATED_TELLER_MACHINEfOBILEbVESTAN_ABBREVIATION_MARKiLETTER_AqArNrOqErEqNqOpBEqHEpCEpDEqHEpEqEpFE
   pGEqGEqHEpHEqMEpIqIpJEpKEpLEpMEpNEqGErVErYEqNEqYEpOqOpPEpREpSEqHErYEqSHEpTEqHEqTEpUqUpVEpXEqVEqYE
   pYEqYEpZEqHEcOCADObXEaBABYe_ANGELfBOTTLEfCHICKfSYMBOLcCK_OF_ENVELOPEfWITH_LEFTWARDS_ARROW_ABOVE
   e-TILTED_SHADOWED_WHITE_RIGHTWARDS_ARROWeSLANTED_SOUTH_ARROW_WITH_HOOKED_TAIL+fRIZONTAL_TAILfPACE
   dONdTRIAN_CAMELcDGERdMINTON_RACQUET_AND_SHUTTLECOCKcGELdGAGE_CLAIMdUETTE_BREADcLINESE_ADEG_ADEG
   jCARIK_PAMUNGKAHrRERENpSIKIjDIGIT_EIGHTpFIVEqOURpNINEpONEpSEVENqIXpTHREEqWOpZEROjLETTER_AIKARA
   rKARAv_TEDUNGrRCHAIC_JNYArSYURA_SASAKqBAs_KEMBANGqCAs_LACAqDAs_MADUuURDA_ALPAPRANAzMAHAPRANA
   qEF_SASAKrKARAqGAs_GORAqHAqIKARAv_TEDUNGqJAs_JERAqKAs_MAHAPRANAsF_SASAKrHOT_SASAKqLAs_LENGA
   y_TEDUNGqMAqNAs_RAMBATrGArYAqOKARAv_TEDUNGqPAs_KAPALqRAs_REPAx_TEDUNGqSAs_SAGAvPAqTAs_LATIK
   tMURDA_MAHAPRANAtTAWArZIR_SASAKqUKARAv_TEDUNGqVE_SASAKqWAqYAqZAL_SASAK
   jMUSICAL_SYMBOL_COMBINING_BENDE+iENDEP+iGONG+iJEGOGAN+iKEMPLI+o_WITH_JEGOGAN+mUL+o_WITH_JEGOGAN
   +iTEGEHyDAENG+aING+aNG+c_GEDE+dSURANGzENG+aUNGzINGzONGzUNGyLEFT-HAND_CLOSED_PLAK+rUK+iOPEN_PANG
   +oING+oUNGyRIGHT-HAND_CLOSED_TAK+rUK+jOPEN_DAG+pUGjPAMADAp_LANTANGmENENGlNTIo_LANTANGjSIGN_BISAH
   oCECEKoREREKANoSURANGoULU_CANDRAsRICEMjVOWEL_SIGN_LA_LENGA+c_TEDUNGuPEPETz_TEDUNGuRA_REPA
   +b_TEDUNGuSUKUy_ILUTuTALING+a_REPA+f_TEDUNG+bTEDUNGvEDUNGuULUx_SARIjWINDUdL_OF_YARNeET_SHOESeOON
   h-SPOKED_ASTERISKfT_BOLD_SCRIPT_XjXk_WITH_BALLOTrOLD_CHECKvSCRIPT_XqCHECKqLIGHT_XqSCRIPT_XqX
   hSCRIPT_XhXcMUM_COLONiMBINING_MARK_KOQNDONvTUKWENTISjMAgFULL_STOPgLETTER_AnEEnFAAMAEoEEoOMoUnInKA
   oENpTpUXoIoOpGHOMpVUUoPAoUoYEEnLAoEEEEoIoOQoUnMoAoBAApENoEEEEpNoIoOoUnNAoDAAoGApGApKWAENoIoJAEM
   pEEpUAEoSHAoTEEpUUoUpAEoYInOnPAoEEpUXoHASE-A_FIRIvGBIEE_FONwHEUAEGHEUAE+bRAEvKAFAxQwETxUKEUTNDA
   wPOQwUOQvLAPAQwET_KUTwOMMAEwUxAEPvMAEKEUPyMzBGBIEEzKPENzVEUXyNYIySIxNSUAExP_PIEETwBANYIyQ
   wEUNJOMNDEUQwGBASAwON_NGGEUAETxOMEUTzPUQwVEUAENGAMvNAA_MFONxQwDA_LEERAEWAyANGGEUAETwENwGANGUxGEN
   xKUE_MFON+aNZEUMwIKAwJAMwKAARAExINDIwSHAyIEEwTAPz_MFAA+aNTAAxOQPENwYETxIyT_MONGKEUAEQwZA_MFON
   xUN_MEUTvPA_LEERAEWAxAMyRAExMSHAExSHAEwETwON_MFON_PIPAEMBA+kGBIEEzPA_NJI_PIPAEMBA+mGBIEEwUPvROM
   vSEUNYAMwHINDA_PA_NJIyRAExOQ_NSHUT_YUMxUENSHUETyMwISAwONJAMxQxTwUUvTEUAENyTEUWENwITA_MFON
   wU_MAEMBAxAEPvU_YUQ_NAEwNKNOWNvVEEtB_FEExUXvGHEUGHEN+cUAEMvKAMwEUAEMyPUQyYEUXwIEEMxQvLAANAE
   xM_NSHUT_NYAMwETwOM_NTEUMvMAx_NJEUAENA+aUQAwBA_MAELEEyARAExEURIxIT_MBAAKETxUOQwEUQyT_NGGEETwFIYAQ
   xON_TEUAEQwONTIEENvNDU_NJAAwGGAAMyEU_MBUyUOQ+b_LARGExKINDI_MVOPxOMwSENxHUETwTIEE_SHEUOQwYAEMAE
   xI_NTEUMvPARUMwEESHIwITwUNGAAMvSAKEUAEwET_TUwHET_NJAQyUAEQTUwIEEwUEvTAAMwU_MAEMGBIEEyNSIEEvVEUM
   vWUAETvYAFU_LEERAEWAwEURAEtC_BUNGvFUEvGBAYIwHAPyRAEvKAAwEN_FATIGUEzLAWxTxUKAQyMySEUXzHEUAEPwPARAQ
   wUOP_NKAARAExTvLAMxPwIQwUvMA_KEUAERIyNSIEExEMBAySIwBAA_CABBAGE-TREE+aPICKETyNYIxEEKEETyRAEyUMzXxI
   yRIEENyTxUAEMyEwGBASAQwIEEwUAEvNANSANAQxQwDAMyPxEUAEREEzTxIDAxOMBUwGAQxGENyUzAEN_NYAMzEETzMzON
   xKAQyUE_MAEMBAxOMwJAEMyMxEEEEyUXxUEQwSAxEUAENxHAQxOMxUNyOT_NGOMwTAAxENyUNGBAxU_MBIT
   wYIR_MKPARAQ_MEUNwZAxEUMvPENwINxRIEENvRUvSETFONxUXwHIQxUEQwUAETvTAASHAEwETxUTEUXwITA_YUEyUAEP
   vVEUAEPENyXvWANGKUOQwUPvYAAwEUQwU_MUOMAExMxWOQtD_FAAwEUFEUAETvGHAAxEUAEvKETxUAETMEUNyMyOT_MBUAEyP
   wUxNxOMxQwWAETwYEEvLEEEExTxUAEPyMwIEEwOQwUMvMwAENJETxLEERIwBAAz_SEVENxUOwEEEExUNyTwFEUAEzTxIEExO
   yNwGBEUNyIEEyOFUMwONIwUwVOPvNDAMxEEyUXxONwGGAAM+bAEzPyEUXyUOMyWAENxKAPyEUAEQ+aRIyIEEyUNyYEEwIwJAP
   xEUAEMzTxIyEExUEQwSHEEyUTxIEEP+aTxUMwTEEyUMxUUwUwYAMxETxIxUEvPAPwEExUTAEwIPwUQxUTvRAEMwEN_MUCH
   zOLDwIIvSAPxQwEUAEQwHEEyUAEzXxIIxOQxUwOTwUAExExUvTAEwEEEExUAENyNyTwIwOQwUxOTvWAPwUAENvYAEMMAEwEN
   wUOMyPxWOQtE_AvFAxQwEEwOMwU_CALLyIyREMEDYxEyTvGBETyUXwHAAMAExETyUAEzNzXxOMvIvKETxUAEyXwIwOwPEUX
   wUETxOPxTvLAAMxPxQwEUAEMwOMxONyTxQwUvMAxEyMxPxQwBEEyUMwENwFEUQwGBAyENwIxEEwONwUAEwVIvNAxE
   wDAA_MY_HOUSE+aSOFTNESSyPxIAQyQxUNwGAxEUREUTxGEEEEzUAE+cTyUAESHAE_NYAMzPzRAExKAzAMIyEUAEM+aXyUMzP
   xOPyQxUAE+aTwJAEMLIxEEz_EPOCHyUXwKOMwSHIEEyUEzOPwTAPxUMwYI_BETWEENzCLEAVERwZAQxUQvOvPA_PEOPLE
   zLURALxAyMwEEMxUTyXwIxEEQyTwOxONwUxAEyQxExMvRAExQwEUXwIMGBAvSAAwEExTwHEUAEQxIQxOyQwOMwUAENvTAAyQ
   xEN_NTEUMxMxQwENxUyAEQwOOyNxQwUAExMyAEvVEExUAEwOMvWEUXwUExOvYAPwEUAE+aTyMyXwIEExTwOQ_COVER
   zSWIMMINGwUAENxEQxNxQtF_EEvFOMvKAwENxTwOwPAwUwYEEvLAwIwOQvMwAwBAAxENwEEEEwOvNDAAwGGAxKWAENwIwJAEM
   xUAEwSHAwTEEwUxAEwYIvPEExUXwUAEvREExNxUXwIEExIwUvSAMBAwEUXwHIIxOxUwIwUUvTAAxEwETvUvVUEQvWAwUEvYA
   wOQoIoUAEpEnRAEoEEpNpUXoIEEpIoUnSAMBAoEUXoHEUXpIIpOpUoIoUUnTAApEoENpToInUnWAoUEnYAoOQoUQgNJAEMLI
   gQUESTION_MARKgSEMICOLONcNANAdJOdKeNOTE_WITH_DOLLAR_SIGNoEURO_SIGNoPOUND_SIGNoYEN_SIGNcR_CHART
   eOF_SOAPdBER_POLEcSEBALLdKETgBALL_AND_HOOPdSA_VAH_COMBINING_HIGH_TONEy-LOW_TONEuLOW_TONE
   x-MID_TONEuMID_TONEkFULL_STOPkLETTER_ArBArCErDHIIsOrEsEsNNIrFArGAHsBUrHWAHrIrJOrKAsPAHrMBErOsOrPA
   rSErTOrUsWUrVUrWAtDDArYEINsIErZOcTdAK_CONSONANT_SIGN_HvNGgLETTER_AnBAnCAnDAnGAnHAnInJAnKARO_BAnLA
   nMApNDAILING_HAyNAySAoBAnNAoDAoGAoORTHERN_TAoYAnPApKPAK_WAnRAnSAoIMALUNGUN_AyGAyHAyLAyMAyPAyRAySA
   yWAyYAoOUTHERN_TAnUnWAnYAgPANGOLATjONGONANgSIGN_TOMPIhYMBOL_BINDU_JUDULtNA_METEKtPANGOLAT
   uINARBORASgVOWEL_SIGN_EsErIrKARO_IwOrOrPAKPAK_ErUs_FOR_SIMALUNGUN_SAdHeTUBdTERY
   bEACH_WITH_UMBRELLAdMED_ASCENDING_MUSICAL_NOTEShDESCENDING_MUSICAL_NOTEShEIGHTH_NOTES
   hSIXTEENTH_NOTESdNSdR_FACEeDED_PERSONdTING_HEARTdVERcCAUSEcDcER_MUGdTLEcLdLe_PEPPERfSYMBOL
   fWITH_CANCELLATION_STROKEeHOP_BELLcNGALI_ABBREVIATION_SIGNjNJIjU_LENGTH_MARK
   iCURRENCY_DENOMINATOR_SIXTEENrNUMERATOR_FOUR+bONE+e_LESS_THAN_THE_DENOMINATOR+bTHREE+cWO
   iDIGIT_EIGHToFIVEpOURoNINEoONEoSEVENpIXoTHREEpWOoZEROiGANDA_MARKiISSHARiLETTER_AqAqIqUpBAqHApCA
   qHApDAqDArHAqHApEpGAqHApHApIqIpJAqHApKAqHAsNDA_TApLApMApNAqGAqNAqYApOpPAqHApRA
   r_WITH_LOWER_DIAGONALxMIDDLE_DIAGONALqHAqRApSAqHAqSApTAqHAqTArHApUqUpVEDIC_ANUSVARAqOCALIC_LyLxR
   yRpYAqYAiRUPEE_MARKoSIGNiSANDHI_MARKjIGN_ANUSVARAoVAGRAHAnCANDRABINDUnNUKTAnVIRAMApSARGA
   iVOWEL_SIGN_AAuIuUtEtIuItOtUuUtVOCALIC_L+cL+bR+cRdT_ARROW_POINTING_DOWNWARDS_THEN_NORTH_EAST
   eO_BOXdZENE_RINGm_WITH_CIRCLEcT_SYMBOLdWEENcVERAGE_BOXbHAIKSUKI_DANDAlIGIT_EIGHTqFIVErOURqNINE
   qONEqSEVENrIXqTHREErWOqZEROlOUBLE_DANDAkGAP_FILLER-1v2kHUNDREDS_UNIT_MARKkLETTER_AsAsIsUrBAsHArCA
   sHArDAsDAtHAsHArErGAsHArHArIsIrJAsHArKAsHArLArMArNAsGAsNAsYArOrPAsHArRArSAsHAsSArTAsHAsTAtHArUsU
   rVAsOCALIC_LzR+aRrYAkNUMBER_EIGHTwYrFIFTYtVEsORTYtURrNINEvTYrONErSEVENwTYsIXuTYrTENsHIRTYtREE
   sWENTYtOkSIGN_ANUSVARAqVAGRAHApCANDRABINDUpVIRAMArSARGAkVOWEL_SIGN_AAwIwUvEvIwIvOvUwUvVOCALIC_L
   +dR+eRkWORD_SEPARATORbICYCLEgISTcG_REVERSE_SOLIDUSeSOLIDUScKINIcLLED_CAPeIARDScOHAZARD_SIGNcRD
   dTHDAY_CAKEcSONcTCOIN_SIGNdING_LIPbLACK_BOWTIEgCENTRE_WHITE_STARhHESS_BISHOP
   s_ROTATED_NINETY_DEGREES+bTWO_HUNDRED_SEVENTY_DEGREESmEQUIHOPPERw_ROTATED_NINETY_DEGREESmKING
   q_ROTATED_NINETY_DEGREESzTWO_HUNDRED_SEVENTY_DEGREESnNIGHTs_ROTATED_FORTY-FIVE_DEGREES
   +bNINETY_DEGREES+bONE_HUNDRED_THIRTY-FIVE_DEGREES+bTHREE_HUNDRED_FIFTEEN_DEGREES
   +cWO_HUNDRED_SEVENTY_DEGREES+nTWENTY-FIVE_DEGREESs-BISHOPtQUEENtROOKmPAWNq_ROTATED_NINETY_DEGREES
   zTWO_HUNDRED_SEVENTY_DEGREESmQUEENr_ROTATED_NINETY_DEGREES+aTWO_HUNDRED_SEVENTY_DEGREESmROOK
   q_ROTATED_NINETY_DEGREESzTWO_HUNDRED_SEVENTY_DEGREESmTURNED_BISHOPtKINGuNIGHTtPAWNtQUEENtROOK
   hIRCLEm_FOR_RECORDnWITH_DOWN_ARROWsTWO_WHITE_DOTSsWHITE_DOT_RIGHThLUB_SUIThROSS_ON_SHIELD
   hURVED_DOWNWARDS_AND_LEFTWARDS_ARROW+bRIGHTWARDS_ARROWnLEFTWARDS_AND_DOWNWARDS_ARROW
   +bUPWARDS_ARROWnRIGHTWARDS_AND_DOWNWARDS_ARROW+cUPWARDS_ARROWnUPWARDS_AND_LEFTWARDS_ARROW
   zRIGHTWARDS_ARROWgDIAMONDn_CENTREDoMINUS_WHITE_XoON_CROSSoSUIToWITH_DOWN_ARROW
   hOWN_POINTING_BACKHAND_INDEXk-POINTING_DOUBLE_TRIANGLEuISOSCELES_RIGHT_TRIANGLEuSMALL_TRIANGLE
   uTRIANGLEkWARDS_EQUILATERAL_ARROWHEADhRAUGHTS_KINGpMANiOPLETgFLAGiORETTEhOLDERiUR_POINTED_STAR
   gHARD_SHELL_FLOPPY_DISKhEARTl_SUITiXAGONhORIZONTAL_ELLIPSEiURGLASSgLARGE_CIRCLEmSQUARE
   hEFT_LANE_MERGElPOINTING_BACKHAND_INDEXuINDEXk-POINTING_DOUBLE_TRIANGLE+j_WITH_VERTICAL_BAR
   uISOSCELES_RIGHT_TRIANGLEuPOINTERuSMALL_TRIANGLEuTRIANGLEkWARDS_BULLETqEQUILATERAL_ARROWHEAD
   hOWER_LEFT_TRIANGLEmRIGHT_TRIANGLEiZENGEgMEDIUM_DIAMONDoOWN-POINTING_TRIANGLE+j_CENTRED
   nLEFT-POINTING_TRIANGLE+j_CENTREDoOZENGEnRIGHT-POINTING_TRIANGLE+k_CENTREDnSMALL_DIAMONDtLOZENGE
   tSQUAREoQUAREnUP-POINTING_TRIANGLE+h_CENTREDhOON_LILITHgNIBgOCTAGONgPARALLELOGRAMhENNANTjTAGON
   hUSHPINgQUESTION_MARK_ORNAMENTgRECTANGLEhIGHT_POINTING_BACKHAND_INDEXvINDEX
   l-POINTING_DOUBLE_TRIANGLE+k_WITH_VERTICAL_BARvISOSCELES_RIGHT_TRIANGLEvPENTAGONwOINTER
   vSMALL_TRIANGLEvTRIANGLE+d_WITH_DOUBLE_VERTICAL_BARlWARDS_ARROWwHEADrBULLETrEQUILATERAL_ARROWHEAD
   hOSETTEgSAFETY_SCISSORShCISSORShHOGI_PIECEhKULL_AND_CROSSBONEShLIGHTLY_SMALL_CIRCLEvSQUARE
   hMALL_DIAMONDmLOZENGEmSQUAREnTARiILING_FACEhNOWMANhPADE_SUIThQUAREm_BUTTONnCENTREDnFOR_STOPhTAR
   hUN_WITH_RAYSgTELEPHONEhINY_DIAMONDlLOZENGElSQUAREhOUCHTONE_TELEPHONEhRUCK
   hWO-WAY_LEFT_WAY_TRAFFICgUNIVERSAL_RECYCLING_SYMBOLhP_POINTING_BACKHAND_INDEX
   i-POINTING_DOUBLE_TRIANGLEsISOSCELES_RIGHT_TRIANGLEsSMALL_TRIANGLEsTRIANGLEiPER_LEFT_TRIANGLE
   mRIGHT_TRIANGLEiWARDS_EQUILATERAL_ARROWHEADgVERTICAL_ELLIPSEpRECTANGLEjY_SMALL_DIAMONDrLOZENGE
   rSQUAREf-FEATHERED_NORTH_EAST_ARROWqRIGHTWARDS_ARROWqSOUTH_EAST_ARROWgLETTER_CAPITAL_CvHvIvRvZ
   dNK_SYMBOLcOCK_SEXTANT-1p2q3r4s5s6r5s6r6q4r5s6r6q5r6q6p3q4r5s6r6q56q6p4q5r6q6p5q6p6o2p3q4r5s6r6q5
   r6q6p4q5r6p5q6p6o3p4q5r6q6p5q6p6o4p5q6p6o5p6o6dSSOMdWFISHcUE_BOOKfHEARTeBERRIESbOAR
   cLD_EIGHT_SPOKED_ASTERISKfFIVE_SPOKED_ASTERISKfGREEK_CROSSfSALTIREgIX_SPOKED_ASTERISK
   fWHITE_CIRCLElSQUAREcMdBcNEcOKeMARKi_TABSeSdMERANGcPOMOFO_FINAL_LETTER_GwHwKwPwTjLETTER_ArHrIsNN
   rMrNsGsNrUsNNqBrUqCrHqDqErErHrIrNsGsNrRqFqGrHrNrUrWqHqIrHrMrNNtNrRrUqJrIqKrWqLrHqMqNrGsGrNqO
   r_WITH_DOT_ABOVErErMrNGsNrOrUqPqQqRqSrHqTqUrNNqVqXqZrHrIrYcTTLE_WITH_POPPING_CORK
   eOM_ARC_ANTICLOCKWISE_ARROWhCURLY_BRACKEThHALF_BLACK_CIRCLEmINTEGRALmLEFT_PARENTHESIS
   mRIGHT_PARENTHESIShLEFT_CORNERnROPmHALF_BRACKEThPARENTHESIShRIGHT_CORNERoROPnHALF_BRACKET
   hSQUARE_BRACKETv_OVER_TOP_SQUARE_BRACKEThTORTOISE_SHELL_BRACKETcUQUETh_OF_FLOWERScW_AND_ARROW
   dL_OF_HYGIEIAfWITH_SPOONeINGdTIEg_WITH_LEFT_HALF_BLACKmRIGHT_HALF_BLACK
   cX_DRAWINGS_DOUBLE_DOWN_AND_HORIZONTAL+dLEFT+dRIGHTuHORIZONTALuUP_AND_HORIZONTAL+bLEFT+bRIGHT
   uVERTICAL+c_AND_HORIZONTAL+hLEFT+hRIGHTpWN_DOUBLE_AND_HORIZONTAL_SINGLE+dLEFT_SINGLE
   +dRIGHT_SINGLEsHEAVY_AND_HORIZONTAL_LIGHT+cLEFT_LIGHT+hUP_LIGHT+cRIGHT_LIGHT+iUP_LIGHT
   +cUP_HORIZONTAL_LIGHTsLIGHT_AND_HORIZONTAL_HEAVY+cLEFT_HEAVY+hUP_HEAVY+cRIGHT_HEAVY+iUP_HEAVY
   +cUP_HORIZONTAL_HEAVYsSINGLE_AND_HORIZONTAL_DOUBLE+dLEFT_DOUBLE+dRIGHT_DOUBLE
   nHEAVY_DOUBLE_DASH_HORIZONTAL+fVERTICALvWNx_AND_HORIZONTAL+cLEFT+cRIGHTtHORIZONTALtLEFT
   x_AND_LIGHT_RIGHTtQUADRUPLE_DASH_HORIZONTAL+iVERTICALtRIGHTtTRIPLE_DASH_HORIZONTAL+fVERTICALtUP
   v_AND_HORIZONTAL+aLEFT+bIGHT_DOWN+aRIGHTtVERTICAL+b_AND_HORIZONTAL+gLEFT+gRIGHT
   nLEFT_DOWN_HEAVY_AND_RIGHT_UP_LIGHTsHEAVY_AND_RIGHT_DOWN_LIGHT+iUP_LIGHT+iVERTICAL_LIGHT
   sLIGHT_AND_RIGHT_DOWN_HEAVY+iUP_HEAVY+iVERTICAL_HEAVYsUP_HEAVY_AND_RIGHT_DOWN_LIGHT
   oIGHT_ARC_DOWN_AND_LEFT+gRIGHTxUP_AND_LEFT+eRIGHTtDIAGONAL_CROSS+cDIAMOND
   +cMIDDLE_LEFT_TO_LOWER_CENTRE++d_TO_MIDDLE_RIGHT+rUPPER_CENTRE_TO_MIDDLE_RIGHT++t_TO_LOWER_CENTRE
   +jRIGHT_TO_LOWER_CENTRE+sUPPER_CENTRE_TO_MIDDLE_LEFT_TO_LOWER_CENTRE+cUPPER_CENTRE_TO_MIDDLE_LEFT
   ++d_AND_MIDDLE_RIGHT_TO_LOWER_CENTRE++eTO_LOWER_CENTRE++t_TO_MIDDLE_RIGHT+zRIGHT
   ++e_AND_MIDDLE_LEFT_TO_LOWER_CENTRE++fTO_LOWER_CENTRE++u_TO_MIDDLE_LEFT+iLEFT_TO_LOWER_RIGHT
   +iRIGHT_TO_LOWER_LEFTuOUBLE_DASH_HORIZONTAL+fVERTICALvWNx_AND_HORIZONTAL+cLEFT+cRIGHTtHORIZONTAL
   +d_WITH_VERTICAL_STROKEtLEFTx_AND_HEAVY_RIGHTtQUADRUPLE_DASH_HORIZONTAL+iVERTICALtRIGHT
   tTRIPLE_DASH_HORIZONTAL+fVERTICALtUPv_AND_HEAVY_DOWN+bORIZONTAL+aLEFT+aRIGHTtVERTICAL
   +b_AND_HORIZONTAL+gLEFT+gRIGHTnRIGHT_DOWN_HEAVY_AND_LEFT_UP_LIGHTtHEAVY_AND_LEFT_DOWN_LIGHT
   +iUP_LIGHT+iVERTICAL_LIGHTtLIGHT_AND_LEFT_DOWN_HEAVY+iUP_HEAVY+iVERTICAL_HEAVY
   tUP_HEAVY_AND_LEFT_DOWN_LIGHTnUP_DOUBLE_AND_HORIZONTAL_SINGLE+bLEFT_SINGLE+bRIGHT_SINGLE
   qHEAVY_AND_DOWN_HORIZONTAL_LIGHT+aHORIZONTAL_LIGHT+aLEFT_DOWN_LIGHT+fLIGHT+aRIGHT_DOWN_LIGHT
   +gLIGHTqLIGHT_AND_DOWN_HORIZONTAL_HEAVY+aHORIZONTAL_HEAVY+aLEFT_DOWN_HEAVY+fHEAVY
   +aRIGHT_DOWN_HEAVY+gHEAVYqSINGLE_AND_HORIZONTAL_DOUBLE+bLEFT_DOUBLE+bRIGHT_DOUBLE
   nVERTICAL_DOUBLE_AND_HORIZONTAL_SINGLE+hLEFT_SINGLE+hRIGHT_SINGLEwHEAVY_AND_HORIZONTAL_LIGHT
   +gLEFT_LIGHT+gRIGHT_LIGHTwLIGHT_AND_HORIZONTAL_HEAVY+gLEFT_HEAVY+gRIGHT_HEAVY
   wSINGLE_AND_HORIZONTAL_DOUBLE+hLEFT_DOUBLE+hRIGHT_DOUBLEdING_GLOVEcYdS_SYMBOLbPHbRAHMI_DANDA
   iIGIT_EIGHTnFIVEoOURnNINEnONEnSEVENoIXnTHREEoWOnZEROiOUBLE_DANDAhLETTER_ApApIpUoBApHAoCApHAoDApDA
   qHApHAoEoGApHAoHAoIpIoJApHAoKApHAoLApLAoMAoNApGApNApYAoOpLD_TAMIL_LLA+aLAyNNNAyRRAySHORT_E+eOoPA
   pHAoRAoSApHApSAoTApHApTAqHAoUpUoVApOCALIC_LxLwRxRoYAhNUMBER_EIGHTtYoFIFTYqVEpORTYqURoJOINERoNINE
   sTYoONEr_HUNDREDsTHOUSANDoSEVENtTYpIXrTYoTENpHIRTYqREEpWENTYqOhPUNCTUATION_CRESCENT_BARtDOT
   vUBLE_DOTtLINEuOTUShSIGN_ANUSVARAmCANDRABINDUmJIHVAMULIYAmOLD_TAMIL_VIRAMAmUPADHMANIYAmVISARGA
   hVIRAMAiOWEL_SIGN_AAtItUsBHATTIPROLU_AAsEsItIsOtLD_TAMIL_SHORT_E+iOsUtUsVOCALIC_L+bL+aR+bR
   dILLE_PATTERN_BLANKqDOTS-1w2x3y4z5+a6+b7+c8+b8+a7+b8+a8z6+a7+b8+a8z7+a8z8y5z6+a7+b8+a8z7+a8z8y6z7
   +a8z8y7z8y8x4y5z6+a7+b8+a8z7+a8z8y6z7+a8z8y7z8y8x5y6z7+a8z8y7z8y8x6y7z8y8x7y8x8w3x4y5z6+a7+b8+a8
   z7+a8z8y6z7+a8z8y7z8y8x5y6z7+a8z8y7z8y8x6y7z8y8x7y8x8w4x5y6z7+a8z8y7z8y8x6y7z8y8x7y8x8w5x6y7z8y8
   x7y8x8w6x7y8x8w7x8w8v2w3x4y5z6+a7+b8+a8z7+a8z8y6z7+a8z8y7z8y8x5y6z7+a8z8y7z8y8x6y7z8y8x7y8x8w4x5
   y6z7+a8z8y7z8y8x6y7z8y8x7y8x8w5x6y7z8y8x7y8x8w6x7y8x8w7x8w8v3w4x5y6z7+a8z8y7z8y8x6y7z8y8x7y8x8w5
   x6y7z8y8x7y8x8w6x7y8x8w7x8w8v4w5x6y7z8y8x7y8x8w6x7y8x8w7x8w8v5w6x7y8x8w7x8w8v6w7x8w8v7w8v8eNcEAD
   eK_PERMITTED_HEREeST-FEEDINGdVEcICKdDE_WITH_VEILeGE_AT_NIGHTdEFCASEfScOCCOLIdKEN_BAR
   hCIRCLE_WITH_NORTHWEST_ARROWhHEARTdOMdWN_HEARTbSbUBBLE_TEAgScCKETcGdINESE_END_OF_SECTIONjLETTER_A
   qBAqCAqDAqGAqHAqJAqKAqLAqMArPAqNArGAsKArRArYAsCAqPAqRAqSAqTAqVAqYAjPALLAWAjVOWEL_SIGN_AEuEuIuOuU
   cHID_LETTER_AnBAnDAnGAnHAnInKAnLAnMAnNAoGAnPAnRAnSAnTAnUnWAnYAgVOWEL_SIGN_IrUcILDING_CONSTRUCTION
   cLLETg_OPERATOReHORNi_WITH_SOUND_WAVESeSEYEcRRITOcSd_STOPdT_IN_SILHOUETTEeS_IN_SILHOUETTEcTTER
   gFLYbYTE_ORDER_MARKcZANTINE_MUSICAL_SYMBOL_AGOGI_ARGI+iOTERI+fGORGI+jOTERI+fMESI+hTRIA+fPOLI_ARGI
   +kGORGI+aNATRICHISMA+bTIKENOKYLISMA+hMA+aPESO_EKFONITIKON+gXO_NEO+bLI+bODERMA_ARCHAION+iNEO
   +cSTROFOI_SYNDESMOS_NEO+kTELOUS_ICHIMATOS+iS+j_DIPLI+kNEO+cTHEMA+aRGON+dSYNTHETON+bKTIKO_DI+hGA
   +hKE+hNI+hPA+hVOU+hZOzCHAMILI+fON+bOREVMA_ARCHAION+iNEO+bROA_KLITON+fSPATHI+fZYGOSzDASEIA+aIARGON
   +cSTOLI_APLI_MEGALI+oIKRI+iDIPLI+iTHESEOS+bESIS_APLI_DYO_DODEKATA+gDIGRAMMOS_EX_DODEKATA
   +gMONOGRAMMOS_TESSERA_DODEKATA+gTETARTIMORION+hRIGRAMMOS_OKTO_DODEKATA+jTIMORION+bFTOGGOS_OU
   +bGORGON+h_PARESTIGMENON_ARISTERA_ANO++fKATO+wDEXIA+cRAMMA_GG+bPLI+e_ARCHAION+aYOzEKSTREPTON
   +aLAFRON+aNARXIS_KAI_FTHORA_VOU+bDOFONON+aPEGERMA+aTERON_ARGOSYNTHETON+gPARAKALESMA
   +aXO_EKFONITIKONzFANEROSIS_DIFONIAS+jMONOFONIAS+jTETRAFONIAS+aHTORA_SKLIRON_CHROMA_VASIS
   +aTHORA_ARCHAION+o_DEYTEROU_ICHOU+gDIATONIKI_DI+qKE+qNANA+rI_ANO+tKATO+qPA+qZO
   +gENARMONIOS_ANTIFONIA+gI_YFESIS_TETARTIMORION+gMALAKON_CHROMA_DIFONIAS+vMONOFONIAS+gNAOS_ICHOS
   +hENANO+gSKLIRON_CHROMA_SYNAFI+vVASIS+oDIATONON_DIzGENIKI_DIESIS+gYFESIS+aORGON_ARCHAION+gNEO_ANO
   +kKATO+gPARESTIGMENON_ARISTERA+uDEXIA+eSYNTHETON+cTHMIKON_N_APLOUN+mDIPLOUN+aRONTHISMATAzICHADIN
   +aMIDIARGON+cFONON+dTHORA+hON+aSAKIA_TELOUS_ICHIMATOS+bON_ARCHAION+eNEOzKATAVA_TROMIKON+fSMA
   +cHISTI+aENTIMA_ARCHAION+hNEO_ANO+lKATO+lMESO+gTA+i_ARCHAION+jNEO_ANO+nKATO+nMESO+aLASMA+f_ANO
   +gKATO+aONTEVMA+h_ALLO+bRONIS+bUFISMA+aRATIMA_ALLO+iRCHAION+hNEO+gTA+fOKOUFISMA+gYPORROON+bEMASTI
   +aYLISMAzLEIMMA_DYO_CHRONON+gENOS_CHRONOU+gIMISEOS_CHRONOU+gTESSARON_CHRONON+hRION_CHRONON+bMOI
   +aYGISMAzMARTYRIA_ALLI_DEYTEROS_ICHOS+nPROTOS_ICHOS+iDEYTEROS_ICHOS+iLEGETOS_ICHOS+iPLAGIOS_ICHOS
   +qTETARTOS_ICHOS+jROTOS_ICHOS+nVARYS_ICHOS+iTETARTOS_ICHOS+rLEGETOS_ICHOS+jRIFONIAS+lTOS_ICHOS
   +iVARYS_ICHOS+aIKRON_ISONzNANAzOLIGON_ARCHAION+gNEO+aMALON+aXEIA_DIPLI+fEKFONITIKON+fNEO
   +eI_ARCHAION+aYRANISMA_ARCHAION+jNEOzPARAKALESMA_ARCHAION+lNEO+eLITIKI+k_ARCHAION+lNEO+cICHON
   +aELASTON+h_NEO+bRISPOMENI+bTASMA+eTI+fOKOUFISMA+aIASMA_ARCHAION+gNEO+aSIFISTOLYGISMA+hN+i_NEO
   +hPARAKALESMA+hSYNAGMA+cLI+dONzRAPISMA+aEVMAzSAXIMATA+aEISMA+f_NEO+aIMANSIS_ARSEOS+o_DISIMOU
   +pTETRASIMOU+qRISIMOU+iTHESEOS+p_DISIMOU+qTETRASIMOU+rRISIMOU+aTAVROS+g_APODEXIA+bIGMA
   +bRAGGISMATA+aYNAGMA_ARCHAION+hMETA_STAVROU+hNEO+cEVMA+bRMA+eTIKIzTELEIA+bSSERA+bTRAPLI+aHEMA
   +e_APLOUN+eTISMOS_ESO+mXO+cS_KAI_APOTHES+bITA+aINAGMA+aRIA+cGORGON+cPLI+bOMIKOLYGISMA+gN_ALLO
   +jRCHAION+iNEO+gPARAKALESMA+hSIFISTON+gSYNAGMAzVAREIA_DIPLI+gEKFONITIKON+gNEO+fI_ARCHAION+bTHY
   zXIRON_KLASMAzYFEN_ANO+eKATO+cSIS_APLI_DYO_DODEKATA+gDIGRAMMOS_EX_DODEKATA
   +gMONOGRAMMOS_TESSERA_DODEKATA+gTRIGRAMMOS_OKTO_DODEKATA+jTIMORION+aPOKRISIS+i_DIPLI+cRROI+bSILI
   aCACTUScDA_UNAdUCEUScLENDARdL_ME_HANDcMERAg_WITH_FLASHdPINGcNdADIAN_SYLLABICS_AuAvIvYuIvVILIK_BuN
   uTHAPASCAN_M+eSuYtBEAVER_DENE_L+fRuIBLE-CREE_YuLACKFOOT_A+dE+dI+dKA+eE+eI+eO+dNA+eE+eI+eO+dO+dS
   +dW+eA+eE+eI+eOtCuAvAwIvRRIER_CHA+dE+eE+dI+dO+dU+bDEE+dNE_GEE+eTAL_S+cI+cLA+dE+eE+dI+dO+dU+cZA+dE
   +eE+dI+dO+dU+bEE+bGA+dA+cE+dE+cHA+dE+eE+dI+dO+dU+cI+cO+cU+cWA+dU+bH+cEE+cI+cWA+dE+eE+dI+dO+dU+bI
   +cNITIAL_Z+bJA+cE+dE+cI+cJA+dE+eE+dI+dO+dU+cO+cU+cWA+bKHA+dE+eE+dI+dO+dU+cK+dA+dE+eE+dI+dO+dU+bLA
   +cE+dE+cHA+dE+eE+dI+dO+dU+cI+cO+cU+bMA+cE+dE+cI+cO+cU+bNA+cE+dE+cG+cI+cO+cU+bP+cA+cE+dE+cI+cO+cU
   +bRA+cE+dE+cI+cO+cU+bSA+cE+dE+cH+dA+dE+eE+dI+dO+dU+cI+cO+cU+bTHA+dE+eE+dI+dO+dU+cLA+dE+eE+dHA+eE
   +fE+eI+eO+eU+dI+dO+dU+cSA+dE+eE+dI+dO+dU+cTA+dE+eE+dI+dO+dSA+eE+fE+eI+eO+eU+dU+bWA+cE+dE+cI+cO+cU
   +bYA+cE+dE+cI+cO+cU+bZ+cA+cE+dE+cI+cO+cUuEuHI_SIGNuIvIuOvOuWAwAvEvIwIvOwOtEuASTERN_WuNtFuAvAwIuE
   uIvIvNAL_ACUTEzBOTTOM_HALF_RINGzDOUBLE_ACUTE+gSHORT_VERTICAL_STROKES+bWN_TACKzGRAVEzMIDDLE_DOT
   zPLUSzRAISED_DOT+aIGHT_HALF_RING+bNGzSHORT_HORIZONTAL_STROKE+aMALL_RINGzTOP_HALF_RINGuOvO
   uULL_STOPuWAAtGLOTTAL_STOPtHKuYPHENtIuIuNtKuAvAwIvYuEuIvIuOvOuWvAwAwYvEvIwIvOwOtLuAvAwIvYuEuHvAwA
   vIwIvOwOuIvIuOvOuWAwAvEvIwIvOwOtMuAvAwIvYuEvDIAL_L+aRuHuIvIuOvOwSE-CREE_SKuWAwAvEvIwIvOwOtN
   u-CREE_THE+cI+dIuAvAwIvSKAPI_CWAA+bKWAA+bMWAA+bNWAA+bS-W+cCWA+cKW+eA+cPWA+cTWA+cWAA+bTWAA+bWAA
   +cOO+bYWAAvTTILIK_HA+eA+dI+eI+dO+eO+cSHRA+gA+fI+gI+fO+gOvYuEuGvAwAxIwIvIwIvOwOuHuIvIuNGwAxAwIxIwO
   xOuOvOvYuUNAVIK_H+cA+dA+cE+cI+dI+cO+dOyUT_HuWAwAvEvIwIvOwOtOuJIBWAY_C+bK+bM+bN+cWI+eI+dO+eO+bP+bS
   +cH+bTuNuOuYtPuAvAwIvYuEuIvIuOvOvYuWAwAvEvIwIvOwOwYtQuAvAwIvIuIvIuOvOtRu-CREE_RE+bWEuAvAwIvYuEuI
   vIuOvOuWAwAvEEvIwIvOwOtSuAvAwIvYwISI_HA+bE+bI+bO+cO+aJI+bU+cU+aM+aSHA+cE+cI+cO+dO+cWE+aTH+aYIuEuH
   vAwAwYvEvIwIvOwOwYvWAxAwEwIxIwOxOxYuIvIuOvOvUTH-SLAVEY_KAH+hEH+hIH+hOHvYuPAvEvIvOuWvAwAvEvIwIvOwO
   tTuAvAwIvYuEuHv-CREE_TH+dA+eA+dE+dI+eI+dO+eOvAwAvEvIwIvOwOvWAxAwEuIvIuLHAwEwIwOxOwWEuOvOuTAvEvHwA
   xAwEwIwOxOwWEvIvOuWAwAvEvIwIvOwOuYAvEvIvOtWAvAvYuEvST-CREE_CWA+gA+fE+fI+gI+fO+gO+dFWAA+dKWA+gA+fE
   +fI+gI+fO+gO+dL+eA+fA+eE+eO+fO+eWA+gA+fE+fI+gI+fO+gO+dM+eWA+gA+fE+fI+gI+fO+gO+dNWA+gA+fE+dP+eWA
   +gA+fE+fI+gI+fO+gO+dR+eA+eE+eI+eO+eWAA+dSHWA+hA+gE+gI+hI+gO+hO+eWA+gA+fE+fI+gI+fO+gO+dTHWAA+eWA
   +gA+fE+fI+gI+fO+gO+dWA+fA+eE+eI+fI+eO+fO+dY+eWA+gA+fE+fI+gI+fO+gOxERN_WuIvIuOvOwDS-CREE_FINAL_TH
   +eTH+gA+gE+gI+gO+gWA+iA+hEE+hI+iI+hO+iOtYu-CREE_COO+aKOO+aLOO+aMOO+aNOO+aOO+aPOO+bWAA+aSOO+aTOO
   +aW+aYOOuAvAwIvYuEuIvIuOvOvYuWAwAvEvIwIvOwOdCELg_CHARACTERhTAGgLATION_XfRdDLEeYdNED_FOODdOE
   cPITULUMdRICORNcR_SLIDINGdD_FILE_BOXfINDEXk_DIVIDERSdE_OFeTf_INSERTION_POINTdIAN_LETTER_Ap2oB
   oC-18q39oDp2oEp2oGp2oIpIoKp2oLpDq2oMpBq2q3q4oNpDpGpNoOoPp2oQoRpRoSpHq2pSpTq2oTpTq2oUpUqUr2r3rUoX
   dONeUSEL_HORSEdP_STREAMEReENTRY_SAWdRIAGE_RETURNeOTcSTLEcTd_FACEi_WITH_TEARS_OF_JOYoWRY_SMILE
   cUCASIAN_ALBANIAN_CITATION_MARKtLETTER_ALT+bOR+aBET+aCAR+cYN+bHA+dT+cI+cOY+bYAW+dY+aDAT+bYAN+bZAY
   +cYAY+aEB+bYN+aFAM+aGHEYS+bIM+aHEYT+aINYA+bRB+bWN+aJAYN+bHOX+aKAR+bIW+aLAN+bYIT+aMAQ+aNOWC+aON
   +aPEN+bIWR+aQAR+cY+aRAT+aSEYK+bHA+dK+cOY+aTAS+bIWR+bYAY+aVEYZ+aXEYN+aYAYD+bOWD+aZARL+bHA+cIL
   dTION_SIGNbCHbEDI_SIGNeLLAcLTIC_CROSScNT_SIGNeRE_LINE_SYMBOLgLINE_LOW_LINElOVERLINEcRESbGJbHAINS
   eRdKMA_AU_MARKhDANDAiIGIT_EIGHTnFIVEoOURnNINEnONEnSEVENoIXnTHREEoWOnZEROiOUBLE_DANDAhLETTER_AA
   oBAApHAAoCAApHAAoDAApDAAqHAApHAAoEoGAApHAAoHAAoIoJAApHAAoKAApHAAoLAApHAAoMAAoNAApGAApNAApYAAoPAA
   pHAAoRAAoSAAoTAApHAApTAAqHAAoUoVAAoWAAoYAApYAAhMAAYYAAhO_MARKhQUESTION_MARKhSECTION_MARK
   iIGN_ANUSVARAmCANDRABINDUmVISARGAhVIRAMAiOWEL_SIGN_AtAtItUsEtIsItIsOtIsUtU
   dM_CONSONANT_SIGN_FINAL_H+aM+aNGuLAuRAuWAuYAfDIGIT_EIGHTlFIVEmOURlNINElONElSEVENmIXlTHREEmWOlZERO
   fLETTER_AnImBAnBAnHAmCHAoHAmDAnDAnHAmEmFINAL_CHsGsKsLsNtGsPsRsSSsTsYmGAnHAmHAmImJAnHAmKAnHAmLAmMA
   nUEmNAnGAoUEnHAoJAoUEnUEmOmPAnHAnPAmRAmSAnSAmTAnHAmUmVAmYAfPUNCTUATION_DANDAsOUBLE_DANDArSPIRAL
   rTRIPLE_DANDAfVOWEL_SIGN_AArIrUqEIqIrIqOrEqUrEdRACTER_TABULATIONu_SETvWITH_JUSTIFICATIONlIE
   eT_WITH_DOWNWARDS_TRENDlUPWARDS_TRENDy_AND_YEN_SIGNcECK_MARKfER_BOARDn_FILLdERING_MEGAPHONE
   eSE_WEDGEdQUERED_FLAGdROKEE_LETTER_AqDArErIrLArOrUrVqEqGArErIrOrUrVqHArErIrNArOrUrVqIqKAqLArErIrO
   rUrVqMArErIrOrUrVqNAsHrErIrOrUrVqOqQUAsEsIsOsUsVqSrArErIrOrUrVqTArErIrLAsEsIsOsUsVrSAsEsIsOsUsVqU
   qVqWArErIrOrUrVqYArErIrOrUrVjSMALL_LETTER_AwDAxExIxLAxOxUxVwEwGAxExIxOxUxVwHAxExIxNAxOxUxVwIwKA
   wLAxExIxOxUxVwMAxExIxOxUxVwNAyHxExIxOxUxVwOwQUAyEyIyOyUyVwSxAxExIxOxUxVwTAxExIxLAyEyIyOyUyVxSAyE
   yIyOyUyVwUwVwWAxExIxOxUxVwYAxExIxOxUxVeRIESfY_BLOSSOMdSTNUTcI_RHOdCKENdLDfREN_CROSSINGdPMUNKdRON
   cOCOLATE_BARdPSTICKSdRASMIAN_LETTER_ALEPHtYINsBETHsCURLED_WAWsDALETHsGIMELsHEuTHsKAPHsLAMEDHsMEM
   sNUNsPEsRESHsSAMEKHtHINtMALL_ALEPHsTAWsWAWsYODHsZAYINlNUMBER_FOURsONEv_HUNDREDsTENtHREEtWENTYuO
   cRISTMAS_TREEcURCHbINEMAcRCLE_DIVIDED_BY_HORIZONTAL_BAR_AND_TOP_HALF_DIVIDED_BY_VERTICAL_BAR
   hWITH_ALL_BUT_UPPER_LEFT_QUADRANT_BLACKmHORIZONTAL_BARmLEFT_HALF_BLACKnOWER_HALF_BLACK
   mRIGHT_HALF_BLACKmSMALL_CIRCLE_TO_THE_RIGHTnUPERIMPOSED_XmTWO_HORIZONTAL_STROKES_TO_THE_RIGHT
   mUPPER_HALF_BLACKsRIGHT_QUADRANT_BLACKmVERTICAL_FILLgD_ANTICLOCKWISE_ARROWv-ROTATED_DIVISION_SIGN
   jSTERISK_OPERATORiBOLD_XjULLETiC_WITH_OVERLAID_BACKSLASHjCjDjROSS_FORMEEu_WITH_FOUR_DOTS
   +aTWO_DOTSoPOMMEEnING_LANESiDASHjIGIT_EIGHToFIVEpOURoNINEoONEoSEVENpIXoTHREEpWOoZEROkVISION_SIGN
   sLASHjOLLAR_SIGN_WITH_OVERLAID_BACKSLASHkT_OPERATORiEQUALSiGREATER-THANiHANGUL_CHIEUCHw_AqIEUCu_A
   pHIEUHu_ApIEUNGu_AvUpKHIEUKHw_AqIYEOKv_ApMIEUMu_ApNIEUNu_ApPHIEUPHw_AqIEUPu_ApRIEULu_ApSIOSt_A
   pTHIEUTHw_AqIKEUTv_AjEAVY_WHITE_RIGHTWARDS_ARROWjORIZONTAL_BAR_WITH_NOTCHjUMAN_FIGURE
   iIDEOGRAPH_ACCEPTtDVANTAGEtLLIANCEtTTENTIONsCENTREtONGRATULATIONuPYuRRECTsEARTHtIGHTtNTERPRISE
   tXCELLENTsFEMALEtINANCIALuREuVEtOURsHAVEtIGHsITEMsKINDERGARTENtOTOsLABORtEFTtOWsMALEtEDICINEuTAL
   tOONsNAMEtIGHTuNEsONEsPRINTsQUESTIONsRELIGIONuSOURCEvTtIGHTsSCHOOLtECRETuVENtIXtOCIETYtPECIAL
   tTOCKuUDYtUITABLEuNuPERVISEsTENtHREEtWOsWATERtOODjNFORMATION_SOURCEjTALIC_LATIN_CAPITAL_LETTER_C
   +kRiKATAKANA_ArErHAsEsIsOsUrIrKAsEsIsOsUrMAsEsIsOsUrNAsEsIsOsUrOrRAsEsIsOsUrSAsEsIsOsUrTAsEsIsOsU
   rUrWAsEsIsOrYAsOsUjOREAN_CHARACTER_CHAMKOzJUEUIiLATIN_CAPITAL_LETTER_A+dB+dC+dD+dE+dF+dG+dH+dI+dJ
   +dK+dL+dM+dN+dO+dP+dQ+dR+dS+dT+dU+dV+dW+dX+dY+dZoSMALL_LETTER_A+bB+bC+bD+bE+bF+bG+bH+bI+bJ+bK+bL
   +bM+bN+bO+bP+bQ+bR+bS+bT+bU+bV+bW+bX+bY+bZjESS-THANiMINUS
   jULTIPLICATION_SIGN_WITH_CIRCUMFLEX_ACCENTiNUMBER_EIGHTEENuY_ON_BLACK_SQUAREqLEVENpFIFTEENtY
   u_ON_BLACK_SQUAREqORTYu_EIGHTvFIVEwOURvNINEvON_BLACK_SQUARExEvSEVENwIXvTHREEwWOrURTEENpNINETEEN
   pSEVENTEENvY_ON_BLACK_SQUAREqIXTEENtY_ON_BLACK_SQUAREpTENs_ON_BLACK_SQUAREqHIRTEENuYv_EIGHTwFIVE
   xOURwNINEwON_BLACK_SQUAREyEwSEVENxIXwTHREExWOqWELVEsNTYv_EIGHTwFIVExOURwNINEwON_BLACK_SQUAREyE
   wSEVENxIXwTHREExWOiOPEN_CENTRE_EIGHT_POINTED_STARiPARALLELjERPENDICULARjLUSjOSTAL_MARK
   iREVERSE_SOLIDUSjING_OPERATORiSQUAREiTIMESjRIANGLEq_DOWNiVERTICAL_BARiWHITE_BULLEToSTARjZiX
   iZERO_WITH_SLASHeULATION_FUNCTIONfMFLEX_ACCENTfS_TENTcTYSCAPEj_AT_DUSK
   bJK_COMPATIBILITY_IDEOGRAPH-2F800+g1+g2+g3+g4+g5+g6+g7+g8+g9+gA+gB+gC+gD+gE+gF+f10+g1+g2+g3+g4+g5
   +g6+g7+g8+g9+gA+gB+gC+gD+gE+gF+f20+g1+g2+g3+g4+g5+g6+g7+g8+g9+gA+gB+gC+gD+gE+gF+f30+g1+g2+g3+g4
   +g5+g6+g7+g8+g9+gA+gB+gC+gD+gE+gF+f40+g1+g2+g3+g4+g5+g6+g7+g8+g9+gA+gB+gC+gD+gE+gF+f50+g1+g2+g3
   +g4+g5+g6+g7+g8+g9+gA+gB+gC+gD+gE+gF+f60+g1+g2+g3+g4+g5+g6+g7+g8+g9+gA+gB+gC+gD+gE+gF+f70+g1+g2
   +g3+g4+g5+g6+g7+g8+g9+gA+gB+gC+gD+gE+gF+f80+g1+g2+g3+g4+g5+g6+g7+g8+g9+gA+gB+gC+gD+gE+gF+f90+g1
   +g2+g3+g4+g5+g6+g7+g8+g9+gA+gB+gC+gD+gE+gF+fA0+g1+g2+g3+g4+g5+g6+g7+g8+g9+gA+gB+gC+gD+gE+gF+fB0
   +g1+g2+g3+g4+g5+g6+g7+g8+g9+gA+gB+gC+gD+gE+gF+fC0+g1+g2+g3+g4+g5+g6+g7+g8+g9+gA+gB+gC+gD+gE+gF
   +fD0+g1+g2+g3+g4+g5+g6+g7+g8+g9+gA+gB+gC+gD+gE+gF+fE0+g1+g2+g3+g4+g5+g6+g7+g8+g9+gA+gB+gC+gD+gE
   +gF+fF0+g1+g2+g3+g4+g5+g6+g7+g8+g9+gA+gB+gC+gD+gE+gF+e900+g1+g2+g3+g4+g5+g6+g7+g8+g9+gA+gB+gC+gD
   +gE+gF+f10+g1+g2+g3+g4+g5+g6+g7+g8+g9+gA+gB+gC+gD+gE+gF+f20+g1+g2+g3+g4+g5+g6+g7+g8+g9+gA+gB+gC
   +gD+gE+gF+f30+g1+g2+g3+g4+g5+g6+g7+g8+g9+gA+gB+gC+gD+gE+gF+f40+g1+g2+g3+g4+g5+g6+g7+g8+g9+gA+gB
   +gC+gD+gE+gF+f50+g1+g2+g3+g4+g5+g6+g7+g8+g9+gA+gB+gC+gD+gE+gF+f60+g1+g2+g3+g4+g5+g6+g7+g8+g9+gA
   +gB+gC+gD+gE+gF+f70+g1+g2+g3+g4+g5+g6+g7+g8+g9+gA+gB+gC+gD+gE+gF+f80+g1+g2+g3+g4+g5+g6+g7+g8+g9
   +gA+gB+gC+gD+gE+gF+f90+g1+g2+g3+g4+g5+g6+g7+g8+g9+gA+gB+gC+gD+gE+gF+fA0+g1+g2+g3+g4+g5+g6+g7+g8
   +g9+gA+gB+gC+gD+gE+gF+fB0+g1+g2+g3+g4+g5+g6+g7+g8+g9+gA+gB+gC+gD+gE+gF+fC0+g1+g2+g3+g4+g5+g6+g7
   +g8+g9+gA+gB+gC+gD+gE+gF+fD0+g1+g2+g3+g4+g5+g6+g7+g8+g9+gA+gB+gC+gD+gE+gF+fE0+g1+g2+g3+g4+g5+g6
   +g7+g8+g9+gA+gB+gC+gD+gE+gF+fF0+g1+g2+g3+g4+g5+g6+g7+g8+g9+gA+gB+gC+gD+gE+gF+eA00+g1+g2+g3+g4+g5
   +g6+g7+g8+g9+gA+gB+gC+gD+gE+gF+f10+g1+g2+g3+g4+g5+g6+g7+g8+g9+gA+gB+gC+gD+cF900+f1+f2+f3+f4+f5+f6
   +f7+f8+f9+fA+fB+fC+fD+fE+fF+e10+f1+f2+f3+f4+f5+f6+f7+f8+f9+fA+fB+fC+fD+fE+fF+e20+f1+f2+f3+f4+f5
   +f6+f7+f8+f9+fA+fB+fC+fD+fE+fF+e30+f1+f2+f3+f4+f5+f6+f7+f8+f9+fA+fB+fC+fD+fE+fF+e40+f1+f2+f3+f4
   +f5+f6+f7+f8+f9+fA+fB+fC+fD+fE+fF+e50+f1+f2+f3+f4+f5+f6+f7+f8+f9+fA+fB+fC+fD+fE+fF+e60+f1+f2+f3
   +f4+f5+f6+f7+f8+f9+fA+fB+fC+fD+fE+fF+e70+f1+f2+f3+f4+f5+f6+f7+f8+f9+fA+fB+fC+fD+fE+fF+e80+f1+f2
   +f3+f4+f5+f6+f7+f8+f9+fA+fB+fC+fD+fE+fF+e90+f1+f2+f3+f4+f5+f6+f7+f8+f9+fA+fB+fC+fD+fE+fF+eA0+f1
   +f2+f3+f4+f5+f6+f7+f8+f9+fA+fB+fC+fD+fE+fF+eB0+f1+f2+f3+f4+f5+f6+f7+f8+f9+fA+fB+fC+fD+fE+fF+eC0
   +f1+f2+f3+f4+f5+f6+f7+f8+f9+fA+fB+fC+fD+fE+fF+eD0+f1+f2+f3+f4+f5+f6+f7+f8+f9+fA+fB+fC+fD+fE+fF
   +eE0+f1+f2+f3+f4+f5+f6+f7+f8+f9+fA+fB+fC+fD+fE+fF+eF0+f1+f2+f3+f4+f5+f6+f7+f8+f9+fA+fB+fC+fD+fE
   +fF+dA00+f1+f2+f3+f4+f5+f6+f7+f8+f9+fA+fB+fC+fD+fE+fF+e10+f1+f2+f3+f4+f5+f6+f7+f8+f9+fA+fB+fC+fD
   +fE+fF+e20+f1+f2+f3+f4+f5+f6+f7+f8+f9+fA+fB+fC+fD+fE+fF+e30+f1+f2+f3+f4+f5+f6+f7+f8+f9+fA+fB+fC
   +fD+fE+fF+e40+f1+f2+f3+f4+f5+f6+f7+f8+f9+fA+fB+fC+fD+fE+fF+e50+f1+f2+f3+f4+f5+f6+f7+f8+f9+fA+fB
   +fC+fD+fE+fF+e60+f1+f2+f3+f4+f5+f6+f7+f8+f9+fA+fB+fC+fD+e70+f1+f2+f3+f4+f5+f6+f7+f8+f9+fA+fB+fC
   +fD+fE+fF+e80+f1+f2+f3+f4+f5+f6+f7+f8+f9+fA+fB+fC+fD+fE+fF+e90+f1+f2+f3+f4+f5+f6+f7+f8+f9+fA+fB
   +fC+fD+fE+fF+eA0+f1+f2+f3+f4+f5+f6+f7+f8+f9+fA+fB+fC+fD+fE+fF+eB0+f1+f2+f3+f4+f5+f6+f7+f8+f9+fA
   +fB+fC+fD+fE+fF+eC0+f1+f2+f3+f4+f5+f6+f7+f8+f9+fA+fB+fC+fD+fE+fF+eD0+f1+f2+f3+f4+f5+f6+f7+f8+f9
   eRADICAL_BAMBOOnLUEnOLT_OF_CLOTHoNEoXnRUSH_ONEsTWOmC-SIMPLIFIED_BIRDzCARTzDRAGONzEAT+aVENzFISH
   +aLY+aROGzGATE+aOLDzHORSEzLEAF+aONGzSALT+aEE+aHELL+aILK+aPEECHzTANNED_LEATHER+aOOTH+aURTLEzWIND
   nHOKEnITYoVILIANnLIFFoOTHESnOWmDEATHnIVINATIONnOGmEAT_ONEqTHREErWOnWEnYEmFIREnOOTmGHOSTnRASS_ONE
   sTHREEtWOmHANDnEADpRT_ONEsTWOnORNmJ-SIMPLIFIED_DRAGONzEVENzTOOTH+aURTLEnADEmKNIFE_ONEsTWO
   mLAME_FOURrONErTHREEsWOnONG_ONErTWOmMEAToSHnOONoRTARoTHERoUND_ONEsTWOmNET_FOURqONEqTHREErWOmOLD
   mPAW_ONEqTWOnERSONmRAINoMoPnEPEATmSEALoCOND_ONEtTHREEuWOnHEEPnILKoMPLIFIED_HALF_TREE_TRUNKyORN
   xWALKyHEATxYELLOWnMALL_ONEsTWOnNAKEoOUT_ONEsTWOnPIRIT_ONEtTWOnUNmTABLEnHREADnIGERnURTLEmWALK_ONE
   rTWOoTER_ONEsTWOnEST_ONErTWOeSTROKE_BXGlDlHmGmPnWGmXWGmZnGnTnWoGnZoPoZpGlNlPmDmGmZlQlSmGmPmTmWnG
   nZmZnWGnZlTmNlWGlXGbLAMSHELL_MOBILE_PHONEdPPER_BOARDfING_HANDS_SIGNdSSICAL_BUILDING
   cEAR_SCREEN_SYMBOLcINKING_BEER_MUGSjGLASSESdPBOARDcOCK_FACE_EIGHT_OCLOCKq-THIRTYmLEVEN_OCLOCK
   r-THIRTYlFIVE_OCLOCKp-THIRTYmOUR_OCLOCKp-THIRTYlNINE_OCLOCKp-THIRTYlONE_OCLOCKo-THIRTY
   lSEVEN_OCLOCKq-THIRTYmIX_OCLOCKo-THIRTYlTEN_OCLOCKo-THIRTYmHREE_OCLOCKq-THIRTYmWELVE_OCLOCK
   r-THIRTYnO_OCLOCKo-THIRTYfWISE_CLOSED_CIRCLE_ARROWlONTOUR_INTEGRAL
   kDOWNWARDS_AND_UPWARDS_OPEN_CIRCLE_ARROWSkGAPPED_CIRCLE_ARROWkINTEGRALkOPEN_CIRCLE_ARROW
   kRIGHT_AND_LEFT_SEMICIRCLE_ARROWSpWARDS_AND_LEFTWARDS_OPEN_CIRCLE_ARROWS
   ++b_WITH_CIRCLED_ONE_OVERLAYkTOP_SEMICIRCLE_ARROWlRIANGLE-HEADED_OPEN_CIRCLE_ARROWdSE_UPfD_BOOK
   hINTERSECTION_WITH_SERIFShLOCK_WITH_KEYhMAILBOX_WITH_LOWERED_FLAGuRAISED_FLAGhSUBSETn_OR_EQUAL_TO
   jPERSETp_OR_EQUAL_TOhUMBRELLAiNION_WITH_SERIFSy_AND_SMASH_PRODUCTdUDf_WITH_LIGHTNINGlRAINlSNOW
   lTORNADOdWN_FACEbOATcCKROACHeTAIL_GLASSdONUTcFFINcINcLLISION_SYMBOLdONf_EQUALSgSIGN
   cMBINING_ACUTE_ACCENTw_BELOWqTONE_MARKp-GRAVE-ACUTEqMACRONlLMOST_EQUAL_TO_ABOVE+aBELOW
   lNNUITY_SYMBOLmTICLOCKWISE_ARROW_ABOVEyRING_OVERLAYlSTERISK_ABOVEtBELOWkBINDU_BELOWlREVEp_BELOW
   p-MACRONmIDGE_ABOVErBELOWkCANDRABINDUmRONp_BELOWlEDILLAlIRCUMFLEX_ACCENT+b_BELOW
   lLOCKWISE_ARROW_ABOVEuRING_OVERLAYlOMMA_ABOVEv_RIGHTqBELOWmNJOINING_MACRON+b_BELOW
   lYRILLIC_DASIA_PNEUMATAtHUNDRED_MILLIONS_SIGN+bTHOUSANDS_SIGNtKAVYKAtLETTER_A+aBE+bIG_YUS+aCHE
   +aDE+bJERV+aEF+bL+bM+bN+bR+bS+c-TE+aFITA+aGHE+aHA+cRD_SIGN+aI+bE+bOTIFIED_A+jBIG_YUS+jE+aKA
   +aLITTLE_YUS+aMONOGRAPH_UK+aO+bMEGA+aPE+aSHA+cCHA+bOFT_SIGN+aTE+bSE+aU+bKRAINIAN_IE+aVE+aYAT+bERU
   +bI+bU+aZE+bHEtMILLIONS_SIGNtPALATALIZATIONvYEROKuOKRYTIEuSILI_PNEUMATAtTEN_MILLIONS_SIGN
   uHOUSAND_MILLIONS_SIGNuITLOy_LEFT_HALFzRIGHT_HALFtVZMETkDELETION_MARKmVANAGARI_DIGIT_EIGHT+bFIVE
   +cOUR+bNINE+bONE+bSEVEN+cIX+bTHREE+cWO+bZEROvLETTER_A+cKA+cNA+cPA+cRA+cU+cVIvSIGN_AVAGRAHA
   lIAERESISt_BELOWt-RINGlOT_ABOVEt_LEFTuRIGHToBELOWt_LEFTnTED_ACUTE_ACCENTrGRAVE_ACCENT
   mUBLE_ACUTE_ACCENTrBREVEw_BELOWrCIRCUMFLEX_ABOVErGRAVE_ACCENTrINVERTED_BREVE+f_BELOWrLOW_LINE
   rMACRONx_BELOWrOPEN_MARK_BELOWsVERLINErPARENTHESES_ABOVEsLUS_SIGN_ABOVE+bBELOW
   rRIGHTWARDS_ARROW_BELOWtNG_BELOWrTILDEw_LEFT_HALFxRIGHT_HALFrVERTICAL_LINE_ABOVE+fBELOW
   +aSTROKE_OVERLAYqD_CIRCUMFLEX_ACCENTmWN_TACK_BELOWoWARDS_ARROWkENCLOSING_CIRCLE+a_BACKSLASH
   uDIAMONDuKEYCAPuSCREENvQUAREuUPWARD_POINTING_TRIANGLElQUALS_SIGN_BELOWkFERMATAlOUR_DOTS_ABOVE
   kGLAGOLITIC_LETTER_AZU+cBIG_YUS+dUKY+cCHRIVI+cDJERVI+dOBRO+cFITA+dRITU+cGLAGOLI+cHERU+cI
   +dNITIAL_IZHE+dOTATED_BIG_YUS+kSMALL_YUS+dZHE+cKAKO+cLJUDIJE+cMYSLITE+cNASHI+cONU+cPOKOJI+cRITSI
   +cSHA+eTA+dLOVO+dMALL_YUS+cTSI+dVRIDO+cUKU+cVEDE+cYATI+dERI+fU+eSTU+dO+dU+cZEMLJA+dHIVETE
   lRANTHA_DIGIT_FIVEzOURyONEySIXyTHREEzWOyZEROsLETTER_AzKAzNAzPAzVInPHEME_JOINERnVE_ACCENTw_BELOW
   qTONE_MARKp-ACUTE-GRAVEqMACRONmEEK_DIALYTIKA_TONOSqKORONISqMUSICAL_PENTASEMEyTETRASEMEzRISEME
   qPERISPOMENIqYPOGEGRAMMENIkHOMOTHETIC_ABOVEmOK_ABOVEmRNkINFINITYmVERTED_BREVEy_BELOWvIDGE_BELOW
   tDOUBLE_ARCH_ABOVE+fBELOWlS_BELOWkKATAKANA-HIRAGANA_SEMI-VOICED_SOUND_MARK+cVOICED_SOUND_MARK
   mVYKA_ABOVE_LEFTxRIGHTkLATIN_LETTER_SMALL_CAPITAL_G+lL+lM+lN+lRqSMALL_LETTER_A+e_WITH_DIAERESIS
   +eE+eLPHA+eO+eV+dB+eETA+dC+e_CEDILLA+dD+dE+eSH+eTH+dF+eLATTENED_OPEN_A_ABOVE+dG+dH+dI+eNSULAR_D
   +lG+lR+lT+dK+dL+e_WITH_DOUBLE_MIDDLE_TILDE+eONG_S+dM+dN+dO+e_WITH_DIAERESIS
   +kLIGHT_CENTRALIZATION_STROKE+dP+dR+e_BELOW+fROTUNDA+dS+eCHWA+dT+eURNED_W_BELOW+dU
   +e_WITH_DIAERESIS+kLIGHT_CENTRALIZATION_STROKE+dV+dW+e_BELOW+dX+dZlEFT_ANGLE_ABOVEvBELOW
   qRROW_ABOVEvBELOWuHEAD_ABOVEzBELOWpHALF_RING_ABOVEzBELOWrRPOON_ABOVEpPARENTHESIS_ABOVE_LEFT
   +bBELOW_LEFTpRIGHT_ARROW_ABOVE+bBELOWpTACK_BELOWoWARDS_ARROW_OVERLAYuHARPOON_WITH_BARB_DOWNWARDS
   lIGATURE_LEFT_HALF+c_BELOWtRIGHT_HALF+d_BELOWnHT_CENTRALIZATION_STROKE_BELOW
   lONG_DOUBLE_SOLIDUS_OVERLAYpSOLIDUS_OVERLAYqTROKE_OVERLAYpVERTICAL_LINE_OVERLAYmW_LINEkMACRON
   q_BELOWrLEFT_HALF+a_BELOWrRIGHT_HALF+b_BELOWq-ACUTErBREVErGRAVElINUS_SIGN_BELOWkNOT_TILDE_ABOVE
   lUMBER_SIGN_ABOVEkOGONEKq_ABOVElLD_PERMIC_LETTER_AN+cDOI+cNENOE+cSII+cZATAlPEN_MARK_BELOWlVERLINE
   kPALATALIZED_HOOK_BELOWmRENTHESES_ABOVEwBELOWwOVERLAYlLUS_SIGN_ABOVEuBELOWkRETROFLEX_HOOK_BELOW
   mVERSE_SOLIDUS_OVERLAYrD_COMMA_ABOVElIGHT_ARROW_ABOVEwBELOWvHEAD_ABOVE+bND_DOWN_ARROWHEAD_BELOW
   +eUP_ARROWHEAD_BELOW+aBELOWqHALF_RING_ABOVE+aBELOWsRPOON_ABOVEqPARENTHESIS_ABOVE_RIGHT
   +cBELOW_RIGHTqTACK_BELOWpWARDS_HARPOON_WITH_BARB_DOWNWARDSmNG_ABOVEpBELOWpOVERLAYkSEAGULL_BELOW
   lHORT_SOLIDUS_OVERLAYrTROKE_OVERLAYqVERTICAL_LINE_OVERLAYlNAKE_BELOWlQUARE_BELOWsRACKETS_ABOVE
   lTRONG_CENTRALIZATION_STROKE_BELOWlUSPENSION_MARKkTHREE_DOTS_ABOVElILDEp_BELOWqLEFT_HALF_BELOW
   qOVERLAYqRIGHT_HALF_BELOWlRIPLE_ACUTE_ACCENTrDOTrUNDERDOTlURNED_COMMA_ABOVEkUP_TACK_ABOVEsBELOW
   mWARDS_ARROW_BELOWlR_ABOVElS_ABOVEkVERTICAL_LINE_ABOVEyBELOWtTILDEkWIDE_BRIDGE_ABOVE
   pINVERTED_BRIDGE_BELOWmGGLY_LINE_BELOWkX_ABOVEmBELOWl-X_BELOWkZIGZAG_ABOVErBELOWdETdMAeERCIAL_AT
   lMINUS_SIGNdPASSeLEMENTeOSITION_SYMBOLeRESSIONcNFETTI_BALLeOUNDED_FACEeUSED_FACE
   dGRUENT_WITH_DOT_ABOVEdICAL_TAPERdJUNCTIONdSTRUCTION_SIGNnWORKERdTAINS_AS_MEMBERmNORMAL_SUBGROUP
   +b_OR_EQUAL_TOjWITH_LONG_HORIZONTAL_STROKEoOVERBARoVERTICAL_BAR_AT_END_OF_HORIZONTAL_STROKE
   eINUOUS_UNDERLINE_SYMBOLeOUR_INTEGRALeROL_KNOBSiSEQUENCE_INTRODUCERdVENIENCE_STOREcOKED_RICEeIE
   fNGcPTIC_CAPITAL_LETTER_AKHMIMIC_KHEIxLFAwBOHAIRIC_KHEIwCROSSED_SHEIyYPTOGRAMMIC_EIE+kGANGIA+kNI
   +kSHEIwDALDAxEIxIALECT-P_ALEF+gHORI+gKAPA+gNIwEIEwFEIxIwGAMMAyNGIAwHATExORIwIAUDAwKAPAxHEIyIxSI
   wL-SHAPED_HAxAULAwMIwNIwOxLD_COPTIC_AIN+hDJA+hESH+hGANGIA+hHA+jT+iEI+iORI+hOOU+hSHEI+jIMA
   +aNUBIAN_NGI+iYI+hSHIMA+hWAUxOUwPIxSIwROwSAMPIxHEIyIMAxIMAxOUwTAUxHETHEwUAwVIDAwZATA
   iOMBINING_NI_ABOVErSPIRITUS_ASPER+aLENIShEPACT_DIGIT_EIGHTtFIVEuOURtNINEtONEtSEVENuIXtTHREEuWO
   nNUMBER_EIGHT_HUNDREDzYuFIFTYwVE_HUNDREDvORTYwUR_HUNDREDuNINE_HUNDREDyTYuONE_HUNDRED
   uSEVEN_HUNDREDzTYvIX_HUNDREDxTYuTENvHIRTYwREE_HUNDREDvWENTYwO_HUNDREDnTHOUSANDS_MARK
   hFRACTION_ONE_HALFiULL_STOPhMORPHOLOGICAL_DIVIDERhOLD_NUBIAN_DIRECT_QUESTION_MARKsFULL_STOP
   sINDIRECT_QUESTION_MARKsVERSE_DIVIDERhSMALL_LETTER_AKHMIMIC_KHEIvLFAuBOHAIRIC_KHEIuCROSSED_SHEI
   wYPTOGRAMMIC_EIE+iGANGIA+iNI+iSHEIuDALDAvEIvIALECT-P_ALEF+eHORI+eKAPA+eNIuEIEuFEIvIuGAMMAwNGIA
   uHATEvORIuIAUDAuKAPAvHEIwIvSIuL-SHAPED_HAvAULAuMIuNIuOvLD_COPTIC_AIN+fDJA+fESH+fGANGIA+fHA+hT+gEI
   +gORI+fOOU+fSHEI+hIMAyNUBIAN_NGI+gYI+fSHIMA+fWAUvOUuPIvSIuROuSAMPIvHEIwIMAvIMAvOUuTAUvHETHEuUA
   uVIDAuZATAiYMBOL_KAIpHI_ROoMI_ROoPI_ROoSHIMA_SIMApTAUROSoTAU_ROdYLEFT_SYMBOLeRIGHT_SIGNcRAL
   dNISH_VERSE_DIVIDERdRESPONDS_TOcUCH_AND_LAMPdNTERBOREhSINKfING_ROD_TENS_DIGIT_EIGHTyFIVEzOURyNINE
   yONEySEVENzIXyTHREEzWOnUNIT_DIGIT_EIGHTyFIVEzOURyNINEyONEySEVENzIXyTHREEzWOdPLE_WITH_HEARTcW
   d_FACEbRcABcEDIT_CARDdSCENT_MOONcICKETh_BAT_AND_BALLcOCODILEdISSANTdSS_MARKgOF_JERUSALEMjLORRAINE
   gPATTY_WITH_LEFT_CROSSBARrRIGHT_CROSSBARhOMMEEm_WITH_HALF-CIRCLE_BELOWfED_FLAGS
   iNEGATIVE_SQUARED_LATIN_CAPITAL_LETTER_PiSWORDSfING_LANESdWNcUTCHdZEIRO_SIGNcYING_CAT_FACEhFACE
   dSTAL_BALLbSIbUBE_ROOTcCUMBERcNEIFORM_NUMERIC_SIGN_EIGHT_ASH+dDISH+dGESH2+dSHAR2+dU
   +e_VARIANT_FORM+dVARIANT_FORM_USSU+u3yLAMITE_FIFTY+gORTY+fONE_THIRD+fTWO_THIRDSxFIVE_ASH+f_TENU
   +cBAN2+g_VARIANT_FORM+dURU+cDISH+cGESH2+gU+cSHAR2+gU+dIXTHS_DISH+cU+d_VARIANT_FORMyOUR_ASH+f_TENU
   +cBAN2+g_VARIANT_FORM+dURU+cDISH+cGESH2+gU+cSHAR2+gU+cU+d_VARIANT_FORM+cVARIANT_FORM_LIMMU+u_A+vB
   +u4xNIGIDAESH+dMINzNE_ASH+cDISH+cGESH2+cSHAR2+cU+d_VARIANT_FORM+cVARIANT_FORM_ILIMMU+v_A+v3+v4
   xOLD_ASSYRIAN_ONE_QUARTER+oSIXTHyNE_BAN2+cURU+bEIGHTH_ASH+cSHE3+bGESH2+fU+bHALF_GUR+bQUARTER_ASH
   +jGUR+bSHARU+bTHIRD_DISH+hVARIANT_FORM_AxSEVEN_ASH+dDISH+dGESH2+dSHAR2+dU+e_VARIANT_FORM
   +dVARIANT_FORM_IMIN_A+vB+u3yHAR2_TIMES_GAL_PLUS_DISH+sMINyIX_ASH+e_TENU+bDISH+bGESH2+bSHAR2+bU
   +c_VARIANT_FORM+bVARIANT_FORM_ASH9xTHREE_ASH+g_TENU+dBAN2+eURU+h_VARIANT_FORM+dDISH+dGESH2+hU
   +dSHAR2+i_VARIANT_FORM+hU+i_VARIANT_FORM+dVARIANT_FORM_ESH16+t21yWO_ASH+e_TENU+bBAN2+cURU+bESHE3
   +bGESH2+fU+bSHAR2+fU+bTHIRDS_DISH+iVARIANT_FORM_AkPUNCTUATION_SIGN_DIAGONAL_COLON+kQUADCOLON
   +kTRICOLON+bOLD_ASSYRIAN_WORD_DIVIDER+bVERTICAL_COLONkSIGN_Aq_TIMES_AxBADxGAN2_TENUxHAxIGI
   xLAGAR_GUNUxMUSHxSAGq2qBr_GUNUsTIMES_ASH2yDUN3_GUNUyGAL+aN2_TENUyHAyIGI_GUNUzMINyLAGAByNUN+b_TENU
   ySHESH+aU2yU_PLUS_U_PLUS_Ur2s_TIMES_AzBALAGzGAN2_TENUzME_PLUS_ENzSHA3zTAK4qDr_TIMES_ESH2qK
   r_TIMES_ERIN2ySHITA_PLUS_GISHqLr_TIMES_ALyDIM2yGISHyHAyKAD3zIySHEyUSHrANrEPHqMARt_TIMES_KUG+aSHE
   qNr_OVER_ANsPLUS_NAGA_OPPOSING_AN_PLUS_NAGA+cSQUAREDsTHREE_TIMESrSHEqPINqRADt_TIMES_KURrKABqSAL2
   rHs_KABA_TENUtOVER_ASH_OVER_ASH+k_CROSSING_ASH_OVER_ASH_OVER_ASH
   +cTUG2_OVER_TUG2_TUG2_OVER_TUG2_PAPtZIDA_TENUs2sGABpBArDs_TIMES_DISH_TENUrG3rHAR2v_TIMES_AB2+cNI
   +cZArLs_OVER_BALsAGrRsA2qIr_TIMES_AyGARyIGI_GUNUqUr_CROSSING_BUsOVER_BU_AB+aTIMES_NA2+aUNrLUG
   u_OVER_BULUGrRs2pDAr_TIMES_TAK4rGs_KISIM5_TIMES_A_PLUS_MASH+hMAR+gBALAG+hI+gGA+i_PLUS_MASH+hI+iR2
   +hUD+gHA+gIR+i_PLUS_LU+gKAK+gLA+hU+i_PLUS_MASH2+iM+gNE+gPAP_PLUS_PAP+gSI+gTAK4+gU2_PLUS_GIR2
   +oMASH+hSHtTIMES_KURs3rMrRsA3t4qIrBrMs_TIMES_IGIzSHEzU_U_Us2t_TIMES_UDrNs_KASKAL_U_GUNU_DISHrSH
   t_PLUS_SHUqUr_GUNUsOVER_DUsSHESHIGrBs_TIMES_ESH2zSHEs2rGs_TIMES_ANSHE+aSH+c_AT_LEFTzDIN+aUNzERIN2
   zGA+aI+bR2_GUNU+bSHzHA+aIzIGI_GUNUzKASKAL+aUR+bSHU2+f_PLUS_KASKALzLAK-020+bM+c_TIMES_KUR
   +aUH_PLUS_GISHzMASH+aES+aIzNIzPIzSHE+aI_GUNUsUDrHrNs3t_GUNUy_GUNUs4rR2pEq_OVER_E_NUN_OVER_NUN
   rTIMES_PAPq2r_TIMES_A_PLUS_HA_PLUS_DAyGARyKURyMIyPAPySALzHEyUqDINqGIRqLqNr_CROSSING_EN
   sOPPOSING_ENsSQUAREDsTIMES_GAN2+c_TENUyMEqRENrIN2u_XqSH2t_CROSSING_ESH2qZENt_SHESHIG_TIMES_ASH
   +iHI+iIGI_GUNU+iLA+kL+iME+kS+iSUuTIMES_A+b_PLUS_LAL+k_TIMES_LAL+bN+aBAD+aDUN3_GUNU+j_GUNU+aGUD
   +aHA+c_GUNU+aIGI_GUNU+aKASKAL+g_SQUARED+bU3+aLA+cL_TIMES_LAL+bI+bU+aSHE+bU+aU2+bDpGAr_GUNUr2
   s_OVER_GA2tTIMES_A_PLUS_DA_PLUS_HA+gHA+gIGI+aB2_TENU_PLUS_TAB+aN+b_PLUS_KAK_PLUS_A+aSH+c2
   +d_PLUS_GALzBAD+bHAR2+bR_PLUS_RA+aUR+c_PLUS_RAzDA+aI+bM_GUNU+dTIMES_SHE+aUB+bG_TIMES_IGI_GUNU
   +jKASKALzEL+b_PLUS_LA+aN+b_TIMES_GAN2_TENU+aRENzGA+bN2_TENU+bR+c_PLUS_DI+iNE+aI+b4+c_PLUS_A
   +bR2_PLUS_SUzHA_PLUS_A+hLU_PLUS_ESH2+bL+c_PLUS_LA+aI_PLUS_LI+aUB2zIGI_GUNU+aSH_PLUS_HU_PLUS_ASH
   zKAK+bSKAL+aID+c_PLUS_LAL+aU3_PLUS_AN+bSHU2_PLUS_KASKALzLA+bM+c_TIMES_KUR+aUHzME_PLUS_EN+aI+aUSH
   zNE+b_PLUS_E2+hGI+aUN+c_OVER_NUNzPAzSAL+bR+aHE+c_PLUS_TUR+bID+cM+aUMzTAK4zU+aD+b_PLUS_DUzZIZ2rBA
   t_CROSSING_GABAuROTATED_NINETY_DEGREESrDs_OVER_GAD_GAR_OVER_GARrLs_GAD_OVER_GAD_GAR_OVER_GARsAMrM
   rNs2t_CROSSING_GAN2uOVER_GAN2uTENUrRs3rSHANqE22rSHTINw_TIMES_KUR+dUqIr_CROSSING_GIsTIMES_EyUr4
   s_CROSSING_GI4tOVER_GI4rDIMrGrR2t_GUNUs3t_TIMES_A_PLUS_IGI+aGAN2_TENU+aIGI+aLU_PLUS_IGI+aPArSALsH
   t_CROSSING_GISHuTENUvIMES_BAD+aGISH_CROSSING_GISH+aTAK4qUr_CROSSING_GUr2s_GUNUtTIMES_IGI_GUNUzKAK
   +c_TIMES_IGI_GUNUzNUNzSAL_PLUS_TUG2rDs_OVER_GUD_LUGALtPLUS_GISH_TIMES_TAK4tTIMES_A_PLUS_KURzKURrL
   rMs_TIMES_SHErRs7sUNtSHpHAr_GUNUsTENUw_GUNUrLqIr_TIMES_ASH+b_OVER_HI_TIMES_ASH+b2yBADyDISHyGAD
   yKINyNUNySHEyUqUrB2t_TIMES_AN+aHAL+aKASKAL+aLISH+aUDrL2rSHpIq_AqBqDIMt_OVER_IDIM_BUR+eSQUAREDqGrI
   s_DIBtGUNUtOVER_IGI_SHIR_OVER_SHIR_UD_OVER_UDtRIqLr_TIMES_GAN2_TENUr2qMr_CROSSING_IMsOPPOSING_IM
   sSQUAREDsTIMES_TAK4rINqNqRqSHpKAr_TIMES_AzD+a_PLUS_KU3zNSHEzSH2+b3yBAD+aLAG+aRzIzUyERIN2zSH2yGA
   +aL+aN2_TENU+aR+b_PLUS_SHA3_PLUS_AzI+aR2+aSH+c_CROSSING_GISH+dPLUS_SARzU+aD+aR7yHI_TIMES_ASH2yIGI
   zMyKA+aKzI+aDyLIzU+aMyME+a_PLUS_DU+gGI+gTEzI+a_PLUS_NUNUZyNEzUNyPAzIyRUySA+aRzHA+aE+aID+aU+bLzIG
   zUHURyTARzUyUz_U_Uz2zDzMUM_TIMES_PAzR+a2zSHyZIr2s_CROSSING_KA2rBrD2s3s4s5t_OVER_KAD5rK
   s_TIMES_IGI_GUNUrLs_CROSSING_KALtTIMES_BADrM2s4rP_ELAMITErSKALv_LAGAB_TIMES_U_OVER_LAGAB_TIMES_U
   wOVER_KASKAL_LAGAB_TIMES_U_OVER_LAGAB_TIMES_UqESH2qIr_TIMES_BADyUzDrDrNrSALsHsIM5v_OVER_KISIM5qU
   r_OVER_HI_TIMES_ASH2_KU_OVER_HI_TIMES_ASH2r3r4s_VARIANT_FORMr7rLs_GUNUrNrRs_OPPOSING_KURrSHU2
   qWU318pLArGABu_SQUAREDvTIMES_A+c_PLUS_DA_PLUS_HA+iGAR+iLAL+cL+cN+cSH_ZIDA_TENU+bBAD+cI+bDAR+bEN
   +bGA+dR+cI+cUD+e_PLUS_GUD+bHA+dL+cI_TIMES_NUN+bIGI_GUNU+cM+d_PLUS_HA+jLU+bKI+dN+cU3+dL
   +e_PLUS_HI_PLUS_A+bLAGAB+cISH+cU+dL+bME+d_PLUS_EN+cUSH+bNE+bSHE_PLUS_SUM
   +dITA_PLUS_GISH_PLUS_ERIN2+rTENU+dU2+f_PLUS_SHU2+cUM+bTAG+dK4+cE_PLUS_A_PLUS_SU_PLUS_NA+bU
   +c_PLUS_A+iU_PLUS_U+c2_PLUS_ASH+cD+cSH+bZU_OVER_ZUtRu_GUNUz_OVER_LAGAR_GUNU_SHEvTIMES_SHE
   +e_PLUS_SUMrHSHUrK-003u21v5u30u50v1u62u79_OVER_LAK-079_GUNUu80v1_OVER_LAK-081u92t130u42t210v9u20
   v5v8u38u65v6t343v7v8u83v4u90t441v9w_TIMES_GU+dIGI+dPAP_PLUS_LU3+mPAP_PLUS_LU3+dU2_PLUS_BAu50v7u70
   u83u90v2v3v5t550t608u17w_TIMES_ASH+dBAD+dDUN3_GUNU_GUNU+dKU3+dLA+dTAR+eE+dU2+eD+eRUDAu36u48
   w_TIMES_DUB+dGA+dIGI+g_GUNU+dNI+dPAP_PLUS_PAP_PLUS_LU3+dSHESH_PLUS_KI+dUD+eRUDAt724u49rL
   s_TIMES_LALrMs_TIMES_KUR+c_PLUS_RUqIrLrMMU2rSHqUr_TIMES_BADr2s_CROSSING_LU2tGUNU_TIMES_ASH
   tOPPOSING_LU2tSHESHIG+a_TIMES_BADuQUAREDtTENUuIMES_ALzBADzDISHzESH2+d_PLUS_LAL+eTENUzGAN2_TENU
   zHAL+aI_TIMES_BADzIMzKAD2+c3+d_PLUS_ASH+aIzLA_PLUS_ASH+bGABzME_PLUS_ENzNE+aUzPAP
   +c_PLUS_PAP_PLUS_LU3zSHU+aI_PLUS_ASH+bK2_PLUS_BUzTAK4+aUG2r3rGALu_OPPOSING_LUGALwVER_LUGAL
   vSHESHIGrHrLrMs_OVER_LUM+b_GAR_OVER_GARpMAr_GUNUsTIMES_TAK4r2rHrRrSHt2qErSsHqIr_PLUS_ZA7rNqU
   r_OVER_MUrGs_GUNUrNSUBrRGU2rSHt_CROSSING_MUSHuOVER_MUSH+d_TIMES_A_PLUS_NA+kGA+kKAKuTIMES_A+aKUR
   +aZAt3u_GUNUvTIMES_A+c_PLUS_DI+bDI+bZApNAr2r4rGAt_INVERTEDuOPPOSING_NAGAuTIMES_SHU_TENUtRrM
   s_NUTILLUs2qEr_SHESHIGsTIMES_AyUDqIr_TIMES_Er2rMs_TIMES_GAN2_TENU+bR_PLUS_GAN2_TENUrNs9sDA2
   v_TIMES_AN+dSH+f_PLUS_ASH+cBAL+cDIM_GUNU+cGI+eSH+dUD+eL+cHI+cKESH2+cLAK-050+cMASH
   +dE_PLUS_GAN2_TENU+cNE+dUN+cPAP_PLUS_PAP+cSHE+f_PLUS_A_AN+mSH+o_PLUS_ASH+cU+d_PLUS_U+d2_PLUS_ASH
   +dRUDA+dSHrSAGqUr11t_OVER_NU11_BUR_OVER_BURuROTATED_NINETY_DEGREESuTENUrNs_CROSSING_NUN
   +f_LAGAR_OVER_LAGARtLAGAR_TIMES_GAR+fMASH+fSAL+i_OVER_NUN_LAGAR_TIMES_SAL+fUSHtOVER_NUNtTENUsUZ
   u_AB2_TIMES_ASHGAB+fBI+fDUG+fGUD+fIGI_GUNU+fKAD3+fLA+fNE+fSILA3+fU2vKISIM5_TIMES_BI+k_UpPArDrNrP
   qESH2u_ASTERISKqIr_CROSSING_PIsTIMES_AzByBIzUyEyIzByUz2rR2sIGu_OPPOSING_PIRIGvTIMES_KAL+bUD+bZA
   pRArBqIqUpSArGs_GUNUx_TIMES_HAtNUTILLUtOVER_SAGtTIMES_AzDU+bBzENzHAzIGI_GUNUzKAK+aURzLUMzMIzNUN
   zSAL+aHE_AT_LEFT+bIDzTAB+bK4zU2+aB+aM+aR+aSHrLs_LAGAB_TIMES_ASH2rNGA2rRqHAs3t_TIMES_A+aBAD+aGISH
   +aNE+aSHU2+aTUR+aU+b_PLUS_As6t_TENUsB6sR2rEs_HUtOVER_SHE+b_GAD_OVER_GAD_GAR_OVER_GAR
   +cTAB_OVER_TAB_GAR_OVER_GARtPLUS_HUB2yNAM2ySARsG9sNsSHu2uLAMrIDt_TIMES_A+aIMsMt_TIMES_A+aBAL
   +bULUG+aDIN+aGAR+aIGI+d_GUNU+aKUSHU2+aLUL+aMUG+aSALsNIGsRt_OVER_SHIR_BUR_OVER_BURuTENUsTArU
   s_OVER_INVERTED_SHUs2t_PLUS_DUG_TIMES_NIzE2_TIMES_ANsBURqIr_GUNUsTIMES_TAK4rGs4t_OVER_SIG4_SHU2
   rK2rLA3qUr_OVER_SUrDs2rHURrMsASHrRs9pTAr_ASTERISKsGUNUsTIMES_HIyMIrB
   s_OVER_TAB_NI_OVER_NI_DISH_OVER_DISHtSQUAREDrGs_TIMES_BIzGUDzSHE+bUzTUG2zUDrK4t_PLUS_SAGrRqE
   r_GUNUqIr_TENUr2rLrRs_OVER_TIR+b_GAD_OVER_GAD_GAR_OVER_GARtTIMES_TAK4qUrG2rKrMs_TIMES_GAN2_TENU
   zTHREE_DISHrRs_OVER_TUR_ZA_OVER_ZApUq_GUDrOVER_U_PA_OVER_PA_GAR_OVER_GARySUR_OVER_SUR
   yU_REVERSED_OVER_U_REVERSEDrUs_Uq2qBqDr_GUNUsKUSHU2sSHESHIGz_TIMES_BADsTIMES_BADyMI
   yU_PLUS_U_PLUS_U+n_GUNUrUGqMr_TIMES_LAGAByME+a_PLUS_DAySHA3yUrBINrUMt_TIMES_KASKAL+aPAqNr_GUNUqR
   r_CROSSING_URsSHESHIGr2s_INVERTEDtTIMES_A_PLUS_HA+gNA+aLzHAzNUNzU2+b_PLUS_ASH+hBI+aDr4rIs3rU
   s_TIMES_A+aSHGABzBARzDARA3+aUNzGA+bL+bN2_TENU+bR+aUzHAzIGI+aM+aSHzKIzLAK-668+aU3+bMzMINzPAzSHE
   +aIG4zTUzU_PLUS_GUD+aD+aRUDAsDAu_TIMES_UqSHs_TIMES_AzKU+bRzTAK4s2sUMXsXqTUKIqZ3s_TIMES_KASKALrU
   pZAr_SQUARED_TIMES_KURsTENUr7rGrMXqE2qIr_OVER_ZIr3rBs_KABA_TENUrGrZ2qUr_OVER_ZU_PLUS_SARr5
   s_TIMES_AzTHREE_DISH_TENUrBURrMcP_ON_BLACK_SQUAREeWITH_STRAWdCAKEdIDOcRLING_STONE
   eY_BRACKET_EXTENSIONgLOGICAL_ANDoORiOPdRENCY_EXCHANGEjSIGNeY_AND_RICE
   dVED_STEM_PARAGRAPH_SIGN_ORNAMENTcSTARDeOMScT_OF_MEATbYCLONEcLINDRICITYcPRIOT_SYLLABLE_ArErIrJAsO
   rKAsEsIsOsUrLAsEsIsOsUrMAsEsIsOsUrNAsEsIsOsUrOrPAsEsIsOsUrRAsEsIsOsUrSAsEsIsOsUrTAsEsIsOsUrUrWAsE
   sIsOrXAsErZAsOeO-MINOAN_SIGN_CM001w2w4w5w6w7w8w9v10w1w2xBw3w5w7w9v21w3w4w5w6w7w8w9v30w3w4w5w6w7w8
   w9v40w1w4w6w7w9v50w1w2w3w4w5w6w8w9v60w1w2w3w4w6w7w8w9v70w1w2w3w4w5xBw6w8w9v80w1w2w3w4w5w6w7w8w9
   v90w1w2w4w5w6w7w8w9u100w1w2w3w4w5w7w8w9v10w2w4u301w2cRILLIC_CAPITAL_LETTER_Az_WITH_BREVE
   +fDIAERESISzBKHASIAN_CHE+l_WITH_DESCENDER+iDZE+iHAzLEUT_KAyBARRED_O+g_WITH_DIAERESIS+aSHKIR_KAzE
   zIG_YUS+aNOCULAR_OzLENDED_YUSzROAD_OMEGAzYELORUSSIAN-UKRAINIAN_IyCCHEzHE+b_WITH_DESCENDER
   +iIAERESIS+hVERTICAL_STROKEzLOSED_LITTLE_YUSzROSSED_OyDCHEzEzJE+bRVzOUBLE_MONOCULAR_O+fOzWEzZE
   +bLO+aHE+aWE+aZE+bHEyEz_WITH_DIAERESISzFzL+a_WITH_DESCENDER+gHOOK+gMIDDLE_HOOK+gTAILzM
   +a_WITH_TAILzN+a_WITH_DESCENDER+gHOOK+gLEFT_HOOK+gMIDDLE_HOOK+gTAILzR+a_WITH_TICKzS
   +a_WITH_DESCENDERyFITAyGHE+b_WITH_DESCENDER+hMIDDLE_HOOK+hSTROKE+n_AND_HOOK+hUPTURNzJEyHA
   +a_WITH_DESCENDER+gHOOK+gSTROKE+aRD_SIGNzWEyIz_WITH_DIAERESIS+fGRAVE+fMACRONzE+a_WITH_BREVE
   +gGRAVEzO+aTA+bIFIED_A+hBIG_YUS+hCLOSED_LITTLE_YUS+hE+hLITTLE_YUS+hYATzZHITSA
   +f_WITH_DOUBLE_GRAVE_ACCENTyJEyKA+a_WITH_DESCENDER+gHOOK+gSTROKE+gVERTICAL_STROKEzHAKASSIAN_CHE
   zJEzOMI_DE+eJE+eZJE+dLJE+dNJE+dSJE+dTJE+dZJE+aPPAzSIyLHAzITTLE_YUSzJEyMONOCULAR_O+cGRAPH_UK
   yNEUTRAL_YERzJEyOz_WITH_DIAERESISzMEGA+d_WITH_TITLOzTyPE+a_WITH_DESCENDER+gMIDDLE_HOOKzSIyQA
   yREVERSED_DZE+hTSE+hYU+hZEzHAzOUND_OMEGAySCHWA+d_WITH_DIAERESISzEMISOFT_SIGNzHA+aCHA+aHA
   +c_WITH_DESCENDER+aORT_I+f_WITH_TAIL+eU+aWEzOFT_DE+dEL+eM+dSIGNzTRAIGHT_U+i_WITH_STROKEyTCHEzE
   +a_WITH_DESCENDER+gMIDDLE_HOOKzSE+aHE+aSE+aWEzWEyUz_WITH_DIAERESIS+gOUBLE_ACUTE+fMACRONzK
   +aRAINIAN_IEyVEyWEyYA+aE+aTzERU+c_WITH_BACK_YER+iDIAERESISzIzNzUyZE+a_WITH_DESCENDER+hIAERESIS
   +aMLYAzHE+b_WITH_BREVE+hDESCENDER+iIAERESIS+aWEsIGATURE_A_IE+aEN_GHE+aTE_TSEjKAVYKA
   jLETTER_MULTIOCULAR_OqPALOCHKAqSMALL_CAPITAL_ELjPAYEROKjSMALL_LETTER_Ax_WITH_BREVE+dDIAERESIS
   xBKHASIAN_CHE+j_WITH_DESCENDER+gDZE+gHAxLEUT_KAwBARRED_O+e_WITH_DIAERESISySHKIR_KAxExIG_YUS
   yNOCULAR_OxLENDED_YUSxROAD_OMEGAxYELORUSSIAN-UKRAINIAN_IwCCHExHEz_WITH_DESCENDER+gIAERESIS
   +fVERTICAL_STROKExLOSED_LITTLE_YUSxROSSED_OwDCHExExJEzRVxOUBLE_MONOCULAR_O+dOxWExZEzLOyHEyWEyZE
   zHEwEx_WITH_DIAERESISxFxLy_WITH_DESCENDER+eHOOK+eMIDDLE_HOOK+eTAILxMy_WITH_TAILxNy_WITH_DESCENDER
   +eHOOK+eLEFT_HOOK+eMIDDLE_HOOK+eTAILxRy_WITH_TICKxSy_WITH_DESCENDERwFITAwGHEz_WITH_DESCENDER
   +fMIDDLE_HOOK+fSTROKE+l_AND_HOOK+fUPTURNxJEwHAy_WITH_DESCENDER+eHOOK+eSTROKEyRD_SIGNxWEwI
   x_WITH_DIAERESIS+dGRAVE+dMACRONxEy_WITH_BREVE+eGRAVExOyTAzIFIED_A+fBIG_YUS+fCLOSED_LITTLE_YUS+fE
   +fLITTLE_YUS+fYATxZHITSA+d_WITH_DOUBLE_GRAVE_ACCENTwJEwKAy_WITH_DESCENDER+eHOOK+eSTROKE
   +eVERTICAL_STROKExHAKASSIAN_CHExJExOMI_DE+cJE+cZJE+bLJE+bNJE+bSJE+bTJE+bZJEyPPAxSIwLHAxITTLE_YUS
   xJExONG-LEGGED_DEwMONOCULAR_O+aGRAPH_UKwNARROW_OxEUTRAL_YERxJEwOx_WITH_DIAERESISxMEGA
   +b_WITH_TITLOxTwPALOCHKAxEy_WITH_DESCENDER+eMIDDLE_HOOKxSIwQAwREVERSED_DZE+fTSE+fYU+fZExHA
   xOUND_OMEGA+bED_VEwSCHWA+b_WITH_DIAERESISxEMISOFT_SIGNxHAyCHAyHA+a_WITH_DESCENDERyORT_I
   +d_WITH_TAIL+cUyWExOFT_DE+bEL+cM+bSIGNxTRAIGHT_U+g_WITH_STROKEwTALL_HARD_SIGN+bTE+bYATxCHExE
   y_WITH_DESCENDER+eMIDDLE_HOOKxHREE-LEGGED_TExSEyHEySEyWExWEwUx_WITH_DIAERESIS+eOUBLE_ACUTE
   +dMACRONxKyRAINIAN_IExNBLENDED_UKwVEwWExIDE_ESwYAyEyTxERU+a_WITH_BACK_YER+gDIAERESISxIxNxUwZE
   y_WITH_DESCENDER+fIAERESISyMLYAxHEz_WITH_BREVE+fDESCENDER+gIAERESISyWEqIGATURE_A_IEyEN_GHEyTE_TSE
   jTHOUSANDS_SIGNaDAGGERg_KNIFEhWITH_LEFT_GUARDmRIGHT_GUARDcLET_SYMBOLcNCERdGOcRK_SHADEgUNGLASSES
   cSH_SYMBOLfWITH_LEFT_UPTURNeED_LOW_LINEhOVERLINEhTRIANGLE-HEADED_RIGHTWARDS_ARROWcTA_LINK_ESCAPE
   bC1c2c3c4cSbEAF_PERSONcCIDUOUS_TREEeMAL_EXPONENT_SYMBOLiSEPARATOR_KEY_SYMBOL
   dREASE_FONT_SIZE_SYMBOLcERcGREE_CELSIUShFAHRENHEIThSIGNcLdETEdIVERY_TRUCKdTA_EQUAL_TO
   cNTISTRY_SYMBOL_LIGHT_DOWN_AND_HORIZONTAL+q_WITH_CIRCLE+wTRIANGLE+wWAVExUP_AND_HORIZONTAL
   +o_WITH_CIRCLE+uTRIANGLE+uWAVExVERTICAL_AND_BOTTOM_LEFT+rRIGHT+kTOP_LEFT+oRIGHT+kWAVE
   +gWITH_CIRCLE+lTRIANGLEcPARTMENT_STOREcRELICT_HOUSE_BUILDINGcSCENDING_NODEdERET_CAPITAL_LETTER_AY
   xBEExCHEExDEExEFyLyMyNzGyRySzHyTHyWxGAYxHxJEExKAYxLONG_A+dH+cE+cI+cO+dOxOIyWxPEExSHORT_A+eH+dE+dI
   +dO+eOxTEEyHEExVEExWUxYEExZEEyHEEiSMALL_LETTER_AYvBEEvCHEEvDEEvEFwLwMwNxGwRwSxHwTHwWvGAYvHvJEE
   vKAYvLONG_A+bH+aE+aI+aO+bOvOIwWvPEEvSHORT_A+cH+bE+bI+bO+cOvTEEwHEEvVEEvWUvYEEvZEEwHEEfTg_ISLAND
   dKTOP_COMPUTERiWINDOWcVANAGARI_ABBREVIATION_SIGNmCUTE_ACCENTlCARETlDANDAmIGIT_EIGHTrFIVEsOURrNINE
   rONErSEVENsIXrTHREEsWOrZEROmOUBLE_DANDAlGAP_FILLERmRAVE_ACCENTlHEADSTROKElJAIN_OMlLETTER_AtAtItU
   tWtYsBAtBAtHAsCAuNDRA_AzEzOtHAsDAtDAuDAvHAuHAtHAsEsFAsGAtGAtHAuHAtLOTTAL_STOPsHAtEAVY_YAsItIsJA
   tHAtJAsKAtHAuHAsLAtLAuLAsMAuRWARI_DDAsNAtGAtNAuNAtYAsOtEtOEsPAtHAsQAsRAtHAtRAsSAtHAuORT_AyEyOtSA
   sTAtHAtTAuHAsUtEtUuEsVAtOCALIC_L+bL+aR+bRsYAtYAsZAtHAlOMlSIGN_ANUSVARArVAGRAHAqCANDRABINDU
   +b_AVAGRAHA+cTHREE+dWO+cVIRAMAqDOUBLE_CANDRABINDU_VIRAMAqHIGH_SPACING_DOTqINVERTED_CANDRABINDU
   qNUKTAqPUSHPIKAqSIDDHAMrPACING_CANDRABINDUqVIRAMAsSARGAmTRESS_SIGN_ANUDATTAxUDATTAlVOWEL_SIGN_AA
   xIxUxWxYwCANDRA_E+dLONG_E+dOwEwIxIwOxExOEwPRISHTHAMATRA_EwSHORT_E+cOwUxExUyEwVOCALIC_L+fL+eR+fR
   dICE_CONTROL_FOURpONEpSTRINGpTHREEqWObIAERESISdMETER_SIGNeOND_OPERATORiSHAPE_WITH_A_DOT_INSIDE
   iTARGETiWITH_BOTTOM_HALF_BLACKnLEFT_HALF_BLACKnRIGHT_HALF_BLACKnTOP_HALF_BLACKcE_FACE-1j2j3j4j5j6
   dSEL_LOCOMOTIVEcFFERENCE_BETWEENcGIT_EIGHTl_COMMAmFULL_STOPgFIVEk_COMMAlFULL_STOPhOURk_COMMA
   lFULL_STOPgNINEk_COMMAlFULL_STOPgONEj_COMMAkFULL_STOPgSEVENl_COMMAmFULL_STOPhIXj_COMMAkFULL_STOP
   gTHREEl_COMMAmFULL_STOPhWOj_COMMAkFULL_STOPgZEROk_COMMAlFULL_STOPdRAM_FOR_EARTHqLY_HEAVENuUMAN
   lGREATER_YANGuINlHEAVENLY_EARTHmUMAN_EARTHlLESSER_YANGtINcMENSION_ORIGIN
   cNGBAT_CIRCLED_SANS-SERIF_DIGIT_EIGHT+hFIVE+iOUR+hNINE+hONE+hSEVEN+iIX+hTHREE+iWO+hZERO
   +bNUMBER_TENiNEGATIVE_CIRCLED_DIGIT_EIGHT+fFIVE+gOUR+fNINE+fONE+fSEVEN+gIX+fTHREE+gWOzNUMBER_TEN
   zSANS-SERIF_DIGIT_EIGHT+qFIVE+rOUR+qNINE+qONE+qSEVEN+rIX+qTHREE+rWO+qZERO+kNUMBER_TEN
   cRECT_CURRENT_SYMBOL_FORM_TWOhHITcSABLED_CARePPOINTED_BUT_RELIEVED_FACEnFACE
   dCONTINUOUS_UNDERLINE_SYMBOLdGUISED_FACEcTTO_MARKcVES_AKURU_DIGIT_EIGHTsFIVEtOURsNINEsONEsSEVEN
   tIXsTHREEtWOsZEROnOUBLE_DANDAmEND_OF_TEXT_MARKmGAP_FILLERmINITIAL_RAmLETTER_AuAtBAuHAtCAuHAtDAuDA
   vHAuHAtEtGAuHAtHAtIuItJAtKAuHAtLAuLAtMAtNAuGAuNAuYAtOtPAuHAtRAtSAuHAuSAtTAuHAuTAtUuUtVAtYAuYAtZA
   mMEDIAL_RAtYAmPREFIXED_NASAL_SIGNmSIGN_ANUSVARArCANDRABINDUrHALANTArNUKTAmVIRAMAnOWEL_SIGN_AAyIxE
   xIyIxOxUyUdIDESeNG_MASKeSION_SIGNkLASHjTIMESdORCE_SYMBOLcYA_LAMPcZZY_FACEgSYMBOLbLE
   bNA_DOUBLE_HELIXbO_NOT_LITTER_SYMBOLcCUMENTi_WITH_PICTUREoTEXTs_AND_PICTUREcDO
   cES_NOT_CONTAIN_AS_MEMBERuNORMAL_SUBGROUP+j_OR_EQUALjDIVIDEp_WITH_REVERSED_NEGATION_SLASHjFORCE
   jPRECEDEq_OR_EQUALlOVEjSUCCEEDq_OR_EQUALcGd_FACEdRA_ABBREVIATION_SIGNgLETTER_AoAoIoUnBAoHAnCAoHA
   nDAoDApHAoHAnEnGAoHAnHAnIoInJAoHAnKAoHAnLAnMAnNAoGAoNAoYAnOnPAoHAnRAoRAnSAoHAoSAnTAoHAoTApHAnUoU
   nVAnYAgSIGN_ANUSVARAlNUKTAlVIRAMAnSARGAgVOWEL_SIGN_AAsIsUrErIsIrOrUsUrVOCALIC_R+aRcLLAR_SIGNdPHIN
   cMINO_TILE_HORIZONTAL_BACKw-00-00+b1+b2+b3+b4+b5+b6y1-00+b1+b2+b3+b4+b5+b6y2-00+b1+b2+b3+b4+b5+b6
   y3-00+b1+b2+b3+b4+b5+b6y4-00+b1+b2+b3+b4+b5+b6y5-00+b1+b2+b3+b4+b5+b6y6-00+b1+b2+b3+b4+b5+b6
   mVERTICAL_BACKu-00-00z1z2z3z4z5z6w1-00z1z2z3z4z5z6w2-00z1z2z3z4z5z6w3-00z1z2z3z4z5z6w4-00z1z2z3z4
   z5z6w5-00z1z2z3z4z5z6w6-00z1z2z3z4z5z6cNG_SIGNcORcT_ABOVEeMINUSeOPERATORePLUSdTED_CIRCLEiROSS
   hFENCEhLINE_FACEhOBELOShRIGHT-POINTING_ANGLEhSOLIDUSiQUAREhTRANSPOSITION_MARKERcUBLE_ACUTE_ACCENT
   hCIRCLED_DIGIT_EIGHTvFIVEwOURvNINEvONEvSEVENwIXvTHREEwWOpNUMBER_TENiOLON_EQUALiURLY_LOOPhDAGGER
   iOWN_TACKhEXCLAMATION_MARKhHIGH-REVERSED-9_QUOTATION_MARKiYPHENhINTEGRALlRSECTION
   hLEFT_ARC_GREATER-THAN_BRACKETiOGICAL_ANDpORjW_LINEk-9_QUOTATION_MARKlREVERSED-9_QUOTATION_MARK
   hNESTED_GREATER-THANoLESS-THANx_WITH_UNDERBARhOBLIQUE_HYPHENhPLUSiRECEDESjIMEm_QUOTATION_MARK
   hQUESTION_MARKhRIGHT_ARC_LESS-THAN_BRACKEThSOLIDUS_OPERATORiQUARE_INTERSECTIONoUNIONiTACKED_COMMA
   jROKE_NOT_SIGNiUBSETjCCEEDSjPERSETjSPENSION_MARKhUNIONiP_TACKhVERTICAL_BARt_DOUBLE_LEFT_TURNSTILE
   +bRIGHT_TURNSTILEuLEFT_TURNSTILEqLINEhWAVY_OVERLINEg-ENDED_MULTIMAPhLINE_EQUAL_TO_OR_GREATER-THAN
   yLESS-THANmSLANTED_EQUAL_TO_OR_GREATER-THAN+gLESS-THANuGREATER-THAN_OR_EQUAL_TO
   uLESS-THAN_OR_EQUAL_TOhSTRUCK_CAPITAL_CwGAMMAwHwNwPxIwQwRwZoITALIC_CAPITAL_DvSMALL_D+bE+bI+bJ
   oN-ARY_SUMMATIONoSMALL_GAMMAuPIgD_FEMALE_SIGNiMALE_SIGNiSYMBOLdGHNUTcVE_OF_PEACEcWN_ARROWHEAD
   fFISH_TAILfRIGHT_DIAGONAL_ELLIPSISfTACKj_WITH_CIRCLE_BELOWe-POINTING_RED_TRIANGLE
   oSMALL_RED_TRIANGLEoTRIANGLE_WITH_LEFT_HALF_BLACK+cRIGHT_HALF_BLACKeWARD_FACING_HOOKu_WITH_DOT
   qNOTCHED_HOOK+c_WITH_DOTiS_ANCORAlRROWp_AND_RIGHT_ONE_EIGHTH_BLOCKqFROM_BAR
   qLEFTWARDS_OF_UPWARDS_ARROWqTO_BARqWITH_CORNER_LEFTWARDSvDOUBLE_STROKEvEQUILATERAL_ARROWHEAD
   vHORIZONTAL_STROKEvLARGE_TRIANGLE_ARROWHEADvMEDIUM_TRIANGLE_ARROWHEADvNOTCHED_TAIL
   vSMALL_EQUILATERAL_ARROWHEAD+bTRIANGLE_ARROWHEADvTIP_LEFTWARDSzRIGHTWARDSkBLACK_ARROW
   qCIRCLED_WHITE_ARROWkCOMPRESSED_ARROWkDASHED_ARROWlOUBLE_ARROWkFINGER-POST_ARROW
   kHARPOON_WITH_BARB_LEFT_BESIDE_DOWNWARDS_HARPOON_WITH_BARB_RIGHT+oUPWARDS_HARPOON_WITH_BARB_RIGHT
   +hFROM_BAR+hTO_BAR+gWARDS+cRIGHT_FROM_BAR+iTO_BAR+hWARDSlEAVY_ARROWqCOMPRESSED_ARROW
   kPAIRED_ARROWSkQUADRUPLE_ARROWkROCKETkSANS-SERIF_ARROWlQUARED_ARROWkTRIANGLE_ARROWHEAD
   s-HEADED_ARROW+f_LEFTWARDS_OF_UPWARDS_TRIANGLE-HEADED_ARROW+gTO_BAR+gWITH_BOLD_SHAFT
   +lDOUBLE_HORIZONTAL_STROKE+lHEAVY_SHAFT+lLONG_TIP_LEFTWARDS+uRIGHTWARDS+lMEDIUM_SHAFT
   +lNARROW_SHAFT+lVERY_HEAVY_SHAFT+aDASHED_ARROW+aPAIRED_ARROWS+aZIGZAG_ARROWnPLE_ARROW
   lWO_HEADED_ARROWn-HEADED_ARROW_WITH_TRIANGLE_ARROWHEADSkWHITE_ARROWv_WITHIN_TRIANGLE_ARROWHEAD
   kZIGZAG_ARROWbRACHMA_SIGNdFTING_POINT_RIGHTWARDS_ARROWdGONg_FACEcESScIVE_SLOW_SIGNcOMEDARY_CAMEL
   dOLING_FACEdP_OF_BLOODeLETcUM_WITH_DRUMSTICKSbUCKcMPLINGcPLOYAN_AFFIX_ATTACHED_E_HOOKyI_HOOK
   yLEFT-TO-RIGHT_SECANTySECANTyTAIL+aNGENT+f_HOOKpHIGH_ACUTEuCIRCLEuDOTuGRAVEuLINEvONG_GRAVE
   uTIGHT_ACUTEuVERTICAL+c_SECANTuWAVEpLEFT_HORIZONTAL_SECANTqOW_ACUTEuRROWtCIRCLEtDOTtGRAVEtLINE
   uONG_GRAVEtTIGHT_ACUTEtVERTICAL+b_SECANTtWAVEpMID_HORIZONTAL_SECANTtVERTICAL_SECANT
   pRIGHT_HORIZONTAL_SECANTjDOUBLE_MARKjLETTER_ArOUqBqDr_SrHqErErUqFr_NqGr_R_SqHrLqIrEqJr_Mt_SsNt_S
   sSt_WITH_DOTsWITH_DOT+aS_INSIDE_AND_ABOVEqKr_MsR_SrKqLrHrONG_IvUqMr_Nt_SsSsWITH_DOTqNr_Mt_SsS
   sWITH_DOTrASAL_AwIwOwUqOrArOHrUrWqPr_NrERNIN_AMyNqRr_SrHrOMANIAN_IzUqSr_Jt_SsKt_RsMsNsPt_RsSsTt_R
   sWITH_DOT+a_BELOWrHORT_IrLOAN_ANwDHwEExHxNwJwONxWwUqTr_R_SsSrHqUr_NrHrIqVrOCALIC_MqWr_RrArEIrHrI
   rOsWqXrWqYEjPUNCTUATION_CHINOOK_FULL_STOPjSIGN_O_WITH_CROSSjTHICK_LETTER_SELECTORbVD
   aE-MAIL_SYMBOLbAGLEcRd_OF_MAIZEhRICEeWITH_HEARING_AIDdTHf_GLOBE_AMERICASnSIA-AUSTRALIA
   mEUROPE-AFRICAhROUNDcST_SYRIAC_CROSSbDITORIAL_CORONISbGGcYPTIAN_HIEROGLYPH_A001x2x3x4x5yAx6yAyBx7
   x8x9w10x1x2x3x4yAx5x6x7yAx8x9w20x1x2x3x4x5x6x7x8x9w30x1x2yAx3x4x5x6x7x8x9w40yAx1x2yAx3yAx4x5yAx6
   x7x8x9w50x1x2x3x4x5x6x7x8x9w60x1x2x3x4x5x6x7x8x9w70vA001y2y3y4y5y6y7zAzBy8y9x10y1y2y3y4y5y6y7y8y9
   x20y1y2y3y4y5y6y7y8y9x30y1y2uB001x2x3x4x5yAx6x7x8x9vEGIN_SEGMENTuC001x2yAyByCx3x4x5x6x7x8x9w10yA
   x1x2x3x4x5x6x7x8x9w20x1x2x3x4uD001x2x3x4x5x6x7x8yAx9w10x1x2x3x4x5x6x7x8x9w20x1x2x3x4x5x6x7yAx8x9
   w30x1yAx2x3x4yAx5x6x7x8x9w40x1x2x3x4x5x6yAx7x8yAx9w50yAyByCyDyEyFyGyHyIx1x2yAx3x4yAx5x6x7x8x9w60
   x1x2x3x4x5x6x7yAyByCyDyEyFyGyHuE001x2x3x4x5x6x7x8yAx9yAw10x1x2x3x4x5x6yAx7yAx8x9w20yAx1x2x3x4x5x6
   x7x8yAx9w30x1x2x3x4yAx6x7x8vND_SEGMENTuF001yAx2x3x4x5x6x7x8x9w10x1x2x3yAx4x5x6x7x8x9w20x1yAx2x3x4
   x5x6x7x8x9w30x1yAx2x3x4x5x6x7yAx8yAx9w40x1x2x3x4x5yAx6yAx7yAx8x9w50x1yAyByCx2x3uG001x2x3x4x5x6yA
   x7yAyBx8x9w10x1yAx2x3x4x5x6x7x8x9w20yAx1x2x3x4x5x6yAx7x8x9w30x1x2x3x4x5x6yAx7yAx8x9w40x1x2x3yAx4
   x5yAx6x7x8x9w50x1x2x3x4uH001x2x3x4x5x6yAx7x8vORIZONTAL_JOINERuI001x2x3x4x5yAx6x7x8x9yAw10yAx1yAx2
   x3x4x5vNSERT_AT_BOTTOM_END+lSTART+eTOP_END+iSTARTuK001x2x3x4x5x6x7x8uL001x2yAx3x4x5x6yAx7x8uM001
   yAyBx2x3yAx4x5x6x7x8x9w10yAx1x2yAyByCyDyEyFyGyHx3x4x5yAx6yAx7yAx8x9w20x1x2yAx3x4yAx5x6x7x8yAx9w30
   x1yAx2x3yAyBx4x5x6x7x8x9w40yAx1x2x3x4uN001x2x3x4x5x6x7x8x9w10x1x2x3x4x5x6x7x8yAyBx9w20x1x2x3x4x5
   yAx6x7x8x9w30x1x2x3yAx4yAx5yAx6x7yAx8x9w40x1x2vL001y2y3y4y5zAy6y7y8y9x10y1y2y3y4y5y6y7zAy8y9x20
   vU001y2y3y4y5y6y7y8y9x10zAy1zAy2y3y4y5y6y7y8zAy9x20y1y2zAuO001yAx2x3x4x5yAx6yAyByCyDyEyFx7x8x9w10
   yAyByCx1x2x3x4x5x6x7x8x9yAw20yAx1x2x3x4yAx5yAx6x7x8x9yAw30yAx1x2x3yAx4x5x6yAyByCyDx7x8x9w40x1x2x3
   x4x5x6x7x8x9w50yAyBx1vVERLAY_MIDDLEuP001yAx2x3yAx4x5x6x7x8x9w10x1uQ001x2x3x4x5x6x7uR001x2yAx3yAyB
   x4x5x6x7x8x9w10yAx1x2x3x4x5x6yAx7x8x9w20x1x2x3x4x5x6x7x8x9uS001x2yAx3x4x5x6yAx7x8x9w10x1x2x3x4yA
   yBx5x6x7yAx8x9w20x1x2x3x4x5x6yAyBx7x8x9w30x1x2x3x4x5yAx6x7x8x9w40x1x2x3x4x5x6uT001x2x3yAx4x5x6x7
   yAx8yAx9yAw10x1yAx2x3x4x5x6yAx7x8x9w20x1x2x3x4x5x6x7x8x9w30x1x2yAx3yAx4x5x6uU001x2x3x4x5x6yAyBx7
   x8x9w10x1x2x3x4x5x6x7x8x9w20x1x2x3yAx4x5x6x7x8x9yAw30x1x2yAx3x4x5x6x7x8x9w40x1x2uV001yAyByCyDyEyF
   yGyHyIx2yAx3x4x5x6x7yAyBx8x9w10x1yAyByCx2yAyBx3x4x5x6x7x8x9w20yAyByCyDyEyFyGyHyIyJyKyLx1x2x3yAx4
   x5x6x7x8yAx9yAw30yAx1yAx2x3yAx4x5x6x7yAx8x9w40yAvERTICAL_JOINERuW001x2x3yAx4x5x6x7x8x9yAw10yAx1x2
   x3x4yAx5x6x7yAx8yAx9w20x1x2x3x4yAx5uX001x2x3x4yAyBx5x6yAx7x8yAuY001yAx2x3x4x5x6x7x8uZ001x2yAyByC
   yDx3yAyBx4yAx5yAx6x7x8x9w10x1x2x3x4x5yAyByCyDyEyFyGyHyIx6yAyByCyDyEyFyGyH
   bIGHT_PETALLED_OUTLINED_BLACK_FLORETTEhOINTED_BLACK_STARoPINWHEEL_STARoRECTILINEAR_BLACK_STAR
   gSPOKED_ASTERISKgTEARDROP-SPOKED_PROPELLER_ASTERISKfH_NOTEbJECT_SYMBOLbLBASAN_LETTER_ApBEpCEqHE
   pDEqHEpEqIpFEpGEqHAMMArEqJEpHEpIpJEpKEqHEpLEqLEpMEpNAqDEqEqJEpOpPEpQEpREqREpSEqHEpTEqHEpUpVEpXEpY
   pZEqHEcECTRIC_ARROWjLIGHT_BULBjPLUGjTORCHiAL_INTERSECTIONdMENT_OFk_OPENING_DOWNWARDStUPWARDS
   lWITH_DOT_ABOVEqLONG_HORIZONTAL_STROKEqOVERBARqTWO_HORIZONTAL_STROKESqUNDERBAR
   qVERTICAL_BAR_AT_END_OF_HORIZONTAL_STROKEdPHANTdVATORcFcYMAIC_LETTER_ALEPHqYINpBETHpDALETHpGIMEL
   pHErTHpKAPHpLAMEDHpMEMpNUNpPEpQOPHpRESHpSADHErMEKHqHINpTAWqETHpWAWpYODHpZAYINjIGATURE_ZAYIN-YODH
   bM_DASHdQUADdSPACEcOJI_COMPONENT_BALDqCURLY_HAIRqRED_HAIRqWHITE_HAIR
   gMODIFIER_FITZPATRICK_TYPE-1-2+g3+g4+g5+g6cPHASIS_SYMBOLdTY_DOCUMENTgNESThOTEk_PADnGEgPAGEkSgSET
   j_WITH_LEFT_ARROW_ABOVEpOVERBARpRIGHT_ARROW_ABOVEpSMALL_CIRCLE_ABOVEbN_DASHdQUADdSPACE
   cD_OF_GUARDED_AREAhLINEhMEDIUMhPROOFkTECTED_AREAhSELECTED_AREAhTEXTiRANSMISSIONt_BLOCK
   eWITH_LEFTWARDS_ARROW_ABOVEcQdUIRYcTER_SYMBOLcVELOPEi_WITH_DOWNWARDS_ARROW_ABOVEoLIGHTNINGbOLcMcT
   bPAbQUAL_AND_PARALLEL_TOgTO_BY_DEFINITIONjOR_GREATER-THANmLESS-THANmPRECEDESmSUCCEEDSfS_COLON
   hSIGNl_ABOVE_LEFTWARDS_ARROWsPLUS_SIGNsRIGHTWARDS_ARROWsTILDE_OPERATORnND_SLANTED_PARALLEL
   +g_WITH_TILDE_ABOVEmWITH_BUMPY_ABOVErDOT_BELOWrINFINITY_BELOWrTWO_DOTS_ABOVE_AND_TWO_DOTS_BELOW
   hWITH_ASTERISKdIANGULAR_TOeVALENT_TOlWITH_FOUR_DOTS_ABOVEbRASE_TO_THE_LEFTnRIGHTcIS_FORM_ONEkTWO
   cROR-BARRED_BLACK_CIRCLEtDIAMONDtSQUAREnWHITE_CIRCLEtDIAMONDtSQUAREbSAcCdAPEcTIMATED_SYMBOLiSbTB
   cHIOPIC_COLONlMBINING_GEMINATION_AND_VOWEL_LENGTH_MARK+eMARKtVOWEL_LENGTH_MARKmMAjDIGIT_EIGHT
   pFIVEqOURpNINEpONEpSEVENqIXpTHREEqWOjFULL_STOPjNUMBER_EIGHTYqFIFTYrORTYqHUNDREDqNINETYqSEVENTY
   rIXTYqTENt_THOUSANDrHIRTYrWENTYjPARAGRAPH_SEPARATORkREFACE_COLONjQUESTION_MARKjSECTION_MARK
   lMICOLONkYLLABLE_BAuAtBAvAuEvEuIuOuUtEuEtItOuAtUtWAuEvEuIsCAuAtCAvAuEvEuHAwAvEwEvHAxAwExEwIwOwUvI
   vOvUuIuOuUtEuEtHAvAuEvEuIuOvAuUuWAtItOuAtUtWAsDAuAtDAvAuEvEuHAAvEwEvIvOvUuIuOvAuUuWAtEuEtItOuAtU
   tWAtZAAuEvEuIuOuUsFAuAtEuEtItOtUtWAuEvEuItYAsGAuAtEuEtGAvAuEvEuIuOuUuWAwAvEwEvItItLOTTAL_A+bA+aE
   +bE+aI+aO+bA+aU+aWAtOuAtUuRAGE_BWEE+bIzFWEE+bIzGWE+cE+bIzHHWAzKWE+cE+bIzMWEE+bIzPWEE+bIzQWE+cE+bI
   tWAvAuEvEuItYAvAuEvEuIuOuUsHAuAtEuEtHAvAuEvEuIuOuUuWAvEwEvIuYAwAvEwEvIvOvUtItOuAtUsJAuAtEuEtItOuA
   tUtWAsKAuAtEuEtItOuAtUtWAvAuEvEuItXAvAuEvEuIuOuUuWAwAvEwEvItYAvAuEvEuIuOuUsLAuAtEuEtItOuAtUtWAsMA
   uAtEuEtItOuAtUtWAuEvEuItYAsNAuAtEuEtItOuAtUtWAtYAvAuEvEuIuOvAuUuWAsPAuAtEuEtHAvAvRYNGEAL_A+eA+dE
   +eE+dI+dO+dUuEvEuIuOvAuUuWAtItOuAtUtWAuEvEuIsQAuAtEuEtHAvAuEvEuIuOuUuWAwAvEwEvItItOuAtUtWAvAuEvE
   uItYAvAuEvEuIuOuUsRAuAtEuEtItOuAtUtWAtYAsSAuAtEuBATBEIT_BWA+cFWA+cMWA+cPWAuEtHAvAuEvEuIuOvAuUuWA
   tItOuAtSAvAuEvEuIuOuUtUtWAtZAvAuEvEuIuOuUuWAsTAuAtEuEtHAvAuEvEuIuOvAuUuWAtItOuAtSAvAuEvEuIuOuUuWA
   tTHAAvEwEvIvOvUtUtWAtZAvAuEvEuIuOvAuUsVAuAtEuEtItOtUtWAsWAuAtEuEtItOuAtUsXAuAtEuEtItOuAtUtWAvAuE
   vEuItYAvAuEvEuIuOuUsYAuAtEuEtItOuAtUsZAuAtEuEtHAvAuEvEuIuOuUuWAtItOuAtUtWAtZAvAuEvEuIuOuU
   jTONAL_MARK_CHIRETuDERETz-HIDETvIFATuHIDETuKENATvURTuRIKRIKuSHORT_RIKRIKuYIZETjWORDSPACEcX
   bULER_CONSTANTcRO_SIGNe-CURRENCY_SIGNePEAN_CASTLEjPOST_OFFICEbVERGREEN_TREEbXCESSdLAMATION_MARK
   mQUESTION_MARKcPRESSIONLESS_FACEcTENDED_ARABIC-INDIC_DIGIT_EIGHT+cFIVE+dOUR+cNINE+cONE+cSEVEN+dIX
   +cTHREE+dWO+cZEROdRATERRESTRIAL_ALIENeEMELY_HEAVY_FIVE_SPOKED_ASTERISKqGREEK_CROSSqSALTIRE
   rIX_SPOKED_ASTERISKqWHITE_CIRCLEwSQUAREbYEdGLASSESdSaFACE_HOLDING_BACK_TEARSfMASSAGEfPALM
   fSAVOURING_DELICIOUS_FOODgCREAMING_IN_FEARfTHROWING_A_KISSfWITH_COLD_SWEATmWBOY_HAT
   kDIAGONAL_MOUTHkFINGER_COVERING_CLOSED_LIPSkHEAD-BANDAGEkLOOK_OF_TRIUMPHkMEDICAL_MASKlONOCLE
   kNO_GOOD_GESTUREkOK_GESTURElNE_EYEBROW_RAISEDlPEN_EYES_AND_HAND_OVER_MOUTHpMOUTHu_AND_COLD_SWEAT
   vVOMITINGkPARTY_HORN_AND_PARTY_HATlEEKING_EYElLEADING_EYESkROLLING_EYESkSTUCK-OUT_TONGUE
   +a_AND_TIGHTLY-CLOSED_EYES+fWINKING_EYEkTEARS_OF_JOYlHERMOMETERkUNEVEN_EYES_AND_WAVY_MOUTH
   jOUT_MOUTHdSIMILE_SIGNdTORYcIRYcLAFELdLEN_LEAFeING_DIAGONAL_CROSSING_NORTH_EAST_ARROW
   +aRISING_DIAGONALrIN_WHITE_CIRCLE_IN_BLACK_SQUAREcMILYcRSI_SYMBOLcTHER_CHRISTMAScX_ICONeMACHINE
   bEARFUL_FACEdTHERcMALE_SIGNdININE_ORDINAL_INDICATORcNCERcRRIS_WHEELeYbF
   bIELD_HOCKEY_STICK_AND_BALLcGURE_DASHhSPACEcLE_CABINETfFOLDERfSEPARATORdM_FRAMESfPROJECTOR
   cNITE_PART_INTEGRALcREe_ENGINEgXTINGUISHEReCRACKEReWORK_SPARKLERiSdST_PLACE_MEDALgQUARTER_MOON
   s_SYMBOLtWITH_FACEgSTRONG_ISOLATEcSHe_CAKE_WITH_SWIRL_DESIGNeEYEeING_POLE_AND_FISHdTED_HAND_SIGN
   cVE_DOT_MARKjPUNCTUATIONbLAG_IN_HOLEdMINGOdT_SHOEeBREADeNESScEUR-DE-LISdXED_BICEPScOPPY_DISK
   dRAL_HEARTdWERg_PLAYING_CARDSiUNCTUATION_MARKcUSHED_FACEcYdING_DISChENVELOPEhSAUCERbOGdGYcLDER
   cNDUEcOTePRINTScR_ALLdCESdK_AND_KNIFEo_WITH_PLATEeED_PARAGRAPHOSeINGdM_FEEDdTUNE_COOKIEcUNTAIN
   dR_BALLOON-SPOKED_ASTERISKfCLUB-SPOKED_ASTERISKgORNER_ARROWS_CIRCLING_ANTICLOCKWISEfDOT_MARK
   jPUNCTUATIONfLEAF_CLOVERfPOINTED_BLACK_STARfTEARDROP-SPOKED_ASTERISKe-PER-EM_SPACEeTH_ROOTcX_FACE
   bRACTION_NUMERATOR_ONEjSLASHdME_WITH_AN_XlPICTURElTILEScEEZING_FACEdNCH_FRANC_SIGNjIEScIED_SHRIMP
   cOG_FACEdNT-FACING_BABY_CHICKgTILTED_SHADOWED_WHITE_RIGHTWARDS_ARROWdWNfING_FACE_WITH_OPEN_MOUTH
   bScIbUEL_PUMPcLL_BLOCKfMOON_SYMBOLkWITH_FACEfOUTER_JOINfSTOPeWIDTH_AMPERSANDlPOSTROPHElSTERISK
   kBROKEN_BARkCENT_SIGNlIRCUMFLEX_ACCENTlOLONmMMAoERCIAL_ATkDIGIT_EIGHTqFIVErOURqNINEqONEqSEVENrIX
   qTHREErWOqZEROlOLLAR_SIGNkEQUALS_SIGNlXCLAMATION_MARKkFULL_STOPkGRAVE_ACCENTmEATER-THAN_SIGN
   kHYPHEN-MINUSkLATIN_CAPITAL_LETTER_A+fB+fC+fD+fE+fF+fG+fH+fI+fJ+fK+fL+fM+fN+fO+fP+fQ+fR+fS+fT+fU
   +fV+fW+fX+fY+fZqSMALL_LETTER_A+dB+dC+dD+dE+dF+dG+dH+dI+dJ+dK+dL+dM+dN+dO+dP+dQ+dR+dS+dT+dU+dV+dW
   +dX+dY+dZlEFT_CURLY_BRACKETpPARENTHESISpSQUARE_BRACKETpWHITE_PARENTHESISmSS-THAN_SIGNlOW_LINE
   kMACRONkNOT_SIGNlUMBER_SIGNkPERCENT_SIGNlLUS_SIGNlOUND_SIGNkQUESTION_MARKmOTATION_MARK
   kREVERSE_SOLIDUSlIGHT_CURLY_BRACKETqPARENTHESISqSQUARE_BRACKETqWHITE_PARENTHESISkSEMICOLONlOLIDUS
   kTILDEkVERTICAL_LINEkWON_SIGNkYEN_SIGNcNCTION_APPLICATIONdERAL_URNcSEbVS1d2d3d4aGAME_DIEcRLICbEAR
   e_WITH_HANDLESjOUT_HUBcM_STONEdINIcNIEcOMETRIC_PROPORTIONjALLY_EQUAL_TOrIVALENT_TO
   dRGIAN_CAPITAL_LETTER_AENzNyBANyCANzHAR+aINzILyDONyENyGANzHANyHAE+aRzEzIEzOEyINyJHANzILyKANzHAR
   yLASyMANyNARyONyPARzHARyQARyRAEySANzHINyTAN+aRyUNyVINyWEyXANyYNyZENzHARjLETTER_AENrINrNqBANqCAN
   rHARsINrILqDONqELIFIrNqFIqGANrHANqHAEsRtD_SIGNrErIErOEqINqJHANrILqKANrHARqLABIAL_SIGNsSqMANqNAR
   qONqPARrHARqQARqRAEqSANrHINqTANsRrURNED_GANqUNqVINqWEqXANqYNqZENrHARjMTAVRULI_CAPITAL_LETTER_AEN
   +iIN+iN+hBAN+hCAN+iHAR+jIN+iIL+hDON+hELIFI+iN+hFI+hGAN+iHAN+hHAE+jR+kD_SIGN+iE+iIE+iOE+hIN+hJHAN
   +iIL+hKAN+iHAR+hLABIAL_SIGN+jS+hMAN+hNAR+hON+hPAR+iHAR+hQAR+hRAE+hSAN+iHIN+hTAN+jR+iURNED_GAN+hUN
   +hVIN+hWE+hXAN+hYN+hZEN+iHARjPARAGRAPH_SEPARATORjSMALL_LETTER_AENxNwBANwCANxHARyINxILwDONwENwGAN
   xHANwHAEyRxExIExOEwINwJHANxILwKANxHARwLASwMANwNARwONwPARxHARwQARwRAEwSANxHINwTANyRwUNwVINwWEwXAN
   wYNwZENxHARcRMAN_PENNY_SIGNcTA_MARKbHOSTbIMEL_SYMBOLcRAFFE_FACEdLeS_SYMBOL
   bLAGOLITIC_CAPITAL_LETTER_AZU+aBIG_YUS+bUKY+aCAUDATE_CHRIVI+bHRIVI+aDJERVI+bOBRO+bZELO+aFITA
   +bRITU+aGLAGOLI+aHERU+aI+bNITIAL_IZHE+bOTATED_BIG_YUS+iSMALL_YUS+bZHE+dITSA+aKAKO
   +aLATINATE_MYSLITE+bJUDIJE+aMYSLITE+aNASHI+aONU+bTU+aPE+bOKOJI+aRITSI+aSHA+cTA+ePIC+bLOVO
   +bMALL_YUS+j_WITH_TAIL+bPIDERY_HA+aTROKUTASTI_A+bSI+bVRIDO+aUKU+aVEDE+aYATI+bERI+dU+cSTU+bO+bU
   +aZEMLJA+bHIVETElSMALL_LETTER_AZUyBIG_YUSzUKYyCAUDATE_CHRIVIzHRIVIyDJERVIzOBROzZELOyFITAzRITU
   yGLAGOLIyHERUyIzNITIAL_IZHEzOTATED_BIG_YUS+gSMALL_YUSzZHE+bITSAyKAKOyLATINATE_MYSLITEzJUDIJE
   yMYSLITEyNASHIyONUzTUyPEzOKOJIyRITSIySHA+aTA+cPICzLOVOzMALL_YUS+h_WITH_TAILzPIDERY_HA
   yTROKUTASTI_AzSIzVRIDOyUKUyVEDEyYATIzERI+bU+aSTUzOzUyZEMLJAzHIVETEdSS_OF_MILKcEICH_STARK
   cOBE_WITH_MERIDIANSdVESdWING_STARbOAL_NETdTcGGLEScLFERcRILLAcTHIC_LETTER_AHSApIHVUSoBAIRKANoDAGS
   oEISoFAIHUoGIBAoHAGLpWAIRoIGGWSpUJAoJERoKUSMAoLAGUSoMANNAoNAUTHSpINE_HUNDREDsTYoOTHALoPAIRTHRA
   oQAIRTHRAoRAIDAoSAUILoTEIWSpHIUTHoURUSoWINJAbRADUATION_CAPdNTHA_AU_LENGTH_MARKiLETTER_AqAqIqUpBA
   qHApCAqHApDAqDArHAqHApEEpGAqHApHApIqIpJAqHApKAqHApLAqLApMApNAqGAqNAqYApOOpPAqHApRApSAqHAqSApTAqHA
   qTArHApUqUpVAqEDIC_ANUSVARAvDOUBLE_ANUSVARAqOCALIC_LyLxRyRpYAiOMiSIGN_ANUSVARAoVAGRAHA
   nCANDRABINDUoOMBINING_ANUSVARA_ABOVEnNUKTAnPLUTAnVIRAMApSARGAiVOWEL_SIGN_AAuIuUtEEtIuItOOtUuU
   tVOCALIC_L+cL+bR+cRdPESdVE_ACCENTcEATER-THAN_ABOVE_DOUBLE-LINE_EQUAL_ABOVE_LESS-THAN
   tLESS-THAN_ABOVE_DOUBLE-LINE_EQUALtRIGHTWARDS_ARROWtSIMILAR_ABOVE_LESS-THAN+bOR_EQUAL
   uLANTED_EQUAL_ABOVE_LESS-THAN_ABOVE_SLANTED_EQUALoND_NOT_APPROXIMATErSINGLE-LINE_NOT_EQUAL_TO
   nBESIDE_LESS-THANoUT_NOT_EQUAL_TOyIVALENT_TOnCLOSED_BY_CURVE+c_ABOVE_SLANTED_EQUAL
   nEQUAL_TO_OR_LESS-THANnOR_APPROXIMATEqEQUAL_TOtIVALENT_TOqLESS-THANqSLANTED_EQUAL_TO
   +g_WITH_DOT_ABOVE+v_LEFT+qINSIDEoVER_EQUAL_TOrLAPPING_LESS-THANnSIGNnWITH_CIRCLE_INSIDEsDOT
   sQUESTION_MARK_ABOVEdEK_ACROPHONIC_ATTIC_FIFTY+c_STATERS+dTALENTS+eHOUSAND+l_STATERSzVE+b_HUNDRED
   +j_STATERS+kTALENTS+cSTATERS+cTALENTS+dHOUSAND+k_TALENTSxONE_DRACHMA+bHALF+cUNDRED_STATERS
   +jTALENTS+bQUARTER+bTHOUSAND_STATERS+kTALENTSxTEN_MNAS+bSTATERS+bTALENTS+cHOUSAND_STATERS
   rCARYSTIAN_FIVE_HUNDREDsYRENAIC_TWO_DRACHMASrDELPHIC_FIVE_MNASrEPIDAUREAN_FIVE_HUNDRED+cTWO
   +f_DRACHMASrHERAEUM_ONE_PLETHRONuMIONIAN_FIFTY+cONE+cTENrMESSENIAN_TENrNAXIAN_FIVE_HUNDRED
   rSTRATIAN_FIFTY_MNASrTHESPIAN_FIFTY+cVE_HUNDRED+fTHOUSAND+aONE+d_HUNDRED+eTHOUSAND+aTEN+bHIRTY
   +cREE_HUNDRED+bWOsROEZENIAN_FIFTY+h_ALTERNATE_FORM+eVE+g_HUNDRED+cTEN+f_ALTERNATE_FORMhNO_TELEIA
   hROURA_SIGNiTABE_SIGNgBETA_SYMBOLgCAPITAL_DOTTED_LUNATE_SIGMA_SYMBOLoKAI_SYMBOLoLETTER_ALPHA
   +a_WITH_DASIA+l_AND_OXIA+u_AND_PROSGEGRAMMENI+qPERISPOMENI++b_AND_PROSGEGRAMMENI+rROSGEGRAMMENI
   +qVARIA+v_AND_PROSGEGRAMMENI+gMACRON+gOXIA+gPROSGEGRAMMENI+hSILI+l_AND_OXIA+u_AND_PROSGEGRAMMENI
   +qPERISPOMENI++b_AND_PROSGEGRAMMENI+rROSGEGRAMMENI+qVARIA+v_AND_PROSGEGRAMMENI+gTONOS+gVARIA
   +hRACHYwRCHAIC_SAMPIvBETAvCHIvDELTAvEPSILON+c_WITH_DASIA+n_AND_OXIA+sVARIA+iOXIA+iPSILI
   +n_AND_OXIA+sVARIA+iTONOS+iVARIAwTAy_WITH_DASIA+j_AND_OXIA+s_AND_PROSGEGRAMMENI+oPERISPOMENI
   +z_AND_PROSGEGRAMMENI+pROSGEGRAMMENI+oVARIA+t_AND_PROSGEGRAMMENI+eOXIA+ePROSGEGRAMMENI+fSILI
   +j_AND_OXIA+s_AND_PROSGEGRAMMENI+oPERISPOMENI+z_AND_PROSGEGRAMMENI+pROSGEGRAMMENI+oVARIA
   +t_AND_PROSGEGRAMMENI+eTONOS+eVARIAvGAMMAvHETAvIOTAz_WITH_DASIA+k_AND_OXIA+pPERISPOMENI+pVARIA
   +gIALYTIKA+fMACRON+fOXIA+fPSILI+k_AND_OXIA+pPERISPOMENI+pVARIA+fTONOS+fVARIA+gRACHYvKAPPAvLAMDA
   vMUvNUvOMEGA+a_WITH_DASIA+l_AND_OXIA+u_AND_PROSGEGRAMMENI+qPERISPOMENI++b_AND_PROSGEGRAMMENI
   +rROSGEGRAMMENI+qVARIA+v_AND_PROSGEGRAMMENI+gOXIA+gPROSGEGRAMMENI+hSILI+l_AND_OXIA
   +u_AND_PROSGEGRAMMENI+qPERISPOMENI++b_AND_PROSGEGRAMMENI+rROSGEGRAMMENI+qVARIA
   +v_AND_PROSGEGRAMMENI+gTONOS+gVARIAxICRON+c_WITH_DASIA+n_AND_OXIA+sVARIA+iOXIA+iPSILI+n_AND_OXIA
   +sVARIA+iTONOS+iVARIAvPAMPHYLIAN_DIGAMMAwHIwIwSIvRHOy_WITH_DASIAvSANwHOwIGMAvTAUwHETAvUPSILON
   +c_WITH_DASIA+n_AND_OXIA+sPERISPOMENI+sVARIA+jIALYTIKA+iMACRON+iOXIA+iTONOS+iVARIA+jRACHYvXIvYOT
   vZETApUNATE_SIGMA_SYMBOLoREVERSED_DOTTED_LUNATE_SIGMA_SYMBOLxLUNATE_SIGMA_SYMBOLoTHETA_SYMBOL
   gDASIAl_AND_OXIAqPERISPOMENIqVARIAhIALYTIKA_AND_OXIAuPERISPOMENIuVARIAqTONOShRACHMA_SIGN
   gFIVE_OBOLS_SIGNhOUR_OBOLS_SIGNgGRAMMA_SIGNgINDICTION_SIGNiSTRUMENTAL_NOTATION_SYMBOL-1+k1+k2+k3
   +k4+k7+k8+k9+j2+k3+k4+k5+k6+k7+k9+j30+k2+k6+k7+k8+k9+j4+k0+k2+k3+k5+k7+k8+k9+j5+k0+k1+k2+k3+k4+j7
   +j8gKAI_SYMBOLiPPA_SYMBOLhORONIShYATHOS_BASE_SIGNgLETTER_ARCHAIC_KOPPAnDIGAMMAnKOPPAnSAMPI
   oMALL_CAPITAL_GAMMA+bLAMDA+bOMEGA+bPI+cSI+bRHOoTIGMAnYOThITRA_SIGNhOWER_NUMERAL_SIGN
   hUNATE_EPSILON_SYMBOLnSIGMA_SYMBOLgMETRETES_SIGNhUSICAL_LEIMMAgNUMERAL_SIGNgOBOL_SIGN
   hNE_HALF_SIGNt_ALTERNATE_FORMkQUARTER_SIGNhUNKIA_SIGNhXIAgPERISPOMENIhHI_SYMBOLhI_SYMBOL
   hROSGEGRAMMENIhSILIl_AND_OXIAqPERISPOMENIqVARIAgQUESTION_MARKgREVERSED_LUNATE_EPSILON_SYMBOL
   hHO_SYMBOLkWITH_STROKE_SYMBOLgSINUSOID_SIGNhMALL_DOTTED_LUNATE_SIGMA_SYMBOLmLETTER_ALPHA
   y_WITH_DASIA+j_AND_OXIA+s_AND_YPOGEGRAMMENI+oPERISPOMENI+z_AND_YPOGEGRAMMENI+oVARIA
   +t_AND_YPOGEGRAMMENI+oYPOGEGRAMMENI+eMACRON+eOXIA+i_AND_YPOGEGRAMMENI+ePERISPOMENI
   +p_AND_YPOGEGRAMMENI+fSILI+j_AND_OXIA+s_AND_YPOGEGRAMMENI+oPERISPOMENI+z_AND_YPOGEGRAMMENI+oVARIA
   +t_AND_YPOGEGRAMMENI+oYPOGEGRAMMENI+eTONOS+eVARIA+j_AND_YPOGEGRAMMENI+fRACHY+eYPOGEGRAMMENI
   uRCHAIC_KOPPA+bSAMPItBETAtCHItDELTAuIGAMMAtEPSILON+a_WITH_DASIA+l_AND_OXIA+qVARIA+gOXIA+gPSILI
   +l_AND_OXIA+qVARIA+gTONOS+gVARIAuTAw_WITH_DASIA+h_AND_OXIA+q_AND_YPOGEGRAMMENI+mPERISPOMENI
   +x_AND_YPOGEGRAMMENI+mVARIA+r_AND_YPOGEGRAMMENI+mYPOGEGRAMMENI+cOXIA+g_AND_YPOGEGRAMMENI
   +cPERISPOMENI+n_AND_YPOGEGRAMMENI+dSILI+h_AND_OXIA+q_AND_YPOGEGRAMMENI+mPERISPOMENI
   +x_AND_YPOGEGRAMMENI+mVARIA+r_AND_YPOGEGRAMMENI+mYPOGEGRAMMENI+cTONOS+cVARIA+h_AND_YPOGEGRAMMENI
   +cYPOGEGRAMMENItFINAL_SIGMAtGAMMAtHETAtIOTAx_WITH_DASIA+i_AND_OXIA+nPERISPOMENI+nVARIA+eIALYTIKA
   +m_AND_OXIA+rPERISPOMENI+rTONOS+rVARIA+dMACRON+dOXIA+dPERISPOMENI+eSILI+i_AND_OXIA+nPERISPOMENI
   +nVARIA+dTONOS+dVARIA+eRACHYtKAPPAuOPPAtLAMDAtMUtNUtOMEGAy_WITH_DASIA+j_AND_OXIA
   +s_AND_YPOGEGRAMMENI+oPERISPOMENI+z_AND_YPOGEGRAMMENI+oVARIA+t_AND_YPOGEGRAMMENI+oYPOGEGRAMMENI
   +eOXIA+i_AND_YPOGEGRAMMENI+ePERISPOMENI+p_AND_YPOGEGRAMMENI+fSILI+j_AND_OXIA+s_AND_YPOGEGRAMMENI
   +oPERISPOMENI+z_AND_YPOGEGRAMMENI+oVARIA+t_AND_YPOGEGRAMMENI+oYPOGEGRAMMENI+eTONOS+eVARIA
   +j_AND_YPOGEGRAMMENI+eYPOGEGRAMMENIvICRON+a_WITH_DASIA+l_AND_OXIA+qVARIA+gOXIA+gPSILI+l_AND_OXIA
   +qVARIA+gTONOS+gVARIAtPAMPHYLIAN_DIGAMMAuHIuIuSItRHOw_WITH_DASIA+cPSILItSAMPIvNuHOuIGMAuTIGMAtTAU
   uHETAtUPSILON+a_WITH_DASIA+l_AND_OXIA+qPERISPOMENI+qVARIA+hIALYTIKA+p_AND_OXIA+uPERISPOMENI
   +uTONOS+uVARIA+gMACRON+gOXIA+gPERISPOMENI+hSILI+l_AND_OXIA+qPERISPOMENI+qVARIA+gTONOS+gVARIA
   +hRACHYtXItZETAmREVERSED_DOTTED_LUNATE_SIGMA_SYMBOLvLUNATE_SIGMA_SYMBOL
   hUBSCRIPT_SMALL_LETTER_BETA+dCHI+dGAMMA+dPHI+dRHOhYMBOL_TAU_RHOgTALENT_SIGNhHETA_SYMBOL
   iREE_OBOLS_SIGNmQUARTERS_SIGNhONOShRYBLION_BASE_SIGNhWO_OBOLS_SIGNkTHIRDS_SIGN
   gUPSILON_WITH_ACUTE_AND_HOOK_SYMBOLtDIAERESIS_AND_HOOK_SYMBOLtHOOK_SYMBOLgVARIA
   hOCAL_NOTATION_SYMBOL-1+d0+d1+d2+d3+d4+d5+d6+d7+d8+d9+c2+d0+d1+d2+d3+d4+c3+c4+c5+d0+d1+d2+d3+d4
   +c6+c7+c8+c9gXESTES_SIGNgYEAR_SIGNhPOGEGRAMMENIgZERO_SIGNeN_APPLEgBOOKgHEARTgSALADcIMACING_FACE
   dNNING_CAT_FACE_WITH_SMILING_EYESjFACEn_WITH_ONE_LARGE_AND_ONE_SMALL_EYEtSMILING_EYESuTAR_EYES
   cOUP_MARKgSEPARATORdWING_HEARTbSbUARANI_SIGNeDSMANcIDE_DOGdTARcJARATI_ABBREVIATION_SIGN
   jDIGIT_EIGHTpFIVEqOURpNINEpONEpSEVENqIXpTHREEqWOpZEROjLETTER_ArArIrUqBArHAqCArHAqDArDAsHArHAqEqGA
   rHAqHAqIrIqJArHAqKArHAqLArLAqMAqNArGArNArYAqOqPArHAqRAqSArHArSAqTArHArTAsHAqUrUqVArOCALIC_LzLyRzR
   qYAqZHAjOMjRUPEE_SIGNjSIGN_ANUSVARApVAGRAHAoCANDRABINDUpIRCLE_NUKTA_ABOVEoMADDAHoNUKTAoSHADDA
   pUKUNoTHREE-DOT_NUKTA_ABOVEpWO-CIRCLE_NUKTA_ABOVEoVIRAMAqSARGAjVOWEL_CANDRA_EwOpSIGN_AAvIvU
   uCANDRA_E+bOuEuIvIuOuUvUuVOCALIC_L+dL+cR+dRcNJALA_GONDI_DIGIT_EIGHTuFIVEvOURuNINEuONEuSEVENvIX
   uTHREEvWOuZEROoLETTER_AwAwIwUvBAwHAvCAwHAvDAwDAxHAwHAvEEvGAwHAvHAvIwIvJAwHAvKAwHAvLAwLAvMAvNAwGA
   vOOvPAwHAvRAvSAvTAwHAwTAxHAvUwUvVAvYAoOMoSIGN_ANUSVARAtVISARGAoVIRAMApOWEL_SIGN_AA+aI+aUzEEzI+aI
   zOOzU+aUcRMUKHI_ABBREVIATION_SIGNkDDAKjDIGIT_EIGHTpFIVEqOURpNINEpONEpSEVENqIXpTHREEqWOpZERO
   jEK_ONKARjIRIjLETTER_ArArIrUqBArHAqCArHAqDArDAsHArHAqEEqFAqGArHAsHAqHAqIrIqJArHAqKArHAsHAqLArLA
   qMAqNArGArNArYAqOOqPArHAqRArRAqSArHAqTArHArTAsHAqUrUqVAqYAqZAjSIGN_ADAK_BINDIoBINDIoNUKTAoUDAAT
   oVIRAMAqSARGAoYAKASHjTIPPIjURAjVOWEL_SIGN_AAvIvUuEEuIvIuOOuUvUaHADEScIR_SPACEeCUT
   cLFWIDTH_BLACK_SQUAREkDOWNWARDS_ARROWkFORMS_LIGHT_VERTICALkHANGUL_FILLERrLETTER_AzEyCHIEUCHzIEUC
   yEzOzUyHIEUHyIzEUNGyKHIEUKHzIYEOK+e-SIOSyMIEUMyNIEUN+d-CIEUC+eHIEUHyOzEyPHIEUPHzIEUP+d-SIOSyRIEUL
   +d-HIEUH+eKIYEOK+eMIEUM+ePHIEUPH+fIEUP+eSIOS+eTHIEUTHySIOSzSANGCIEUC+dKIYEOK+dPIEUP+dSIOS+dTIKEUT
   yTHIEUTHzIKEUTyUyWA+aEzE+aOzIyYA+aEzE+aOzIzOzUkIDEOGRAPHIC_COMMAwFULL_STOPkKATAKANA_LETTER_A+aE
   +aHA+bE+bI+bO+bU+aI+aKA+bE+bI+bO+bU+aMA+bE+bI+bO+bU+aN+bA+bE+bI+bO+bU+aO+aRA+bE+bI+bO+bU+aSA+bE
   +bI+bMALL_A+gE+gI+gO+gTU+gU+gYA+hO+hU+bO+bU+aTA+bE+bI+bO+bU+aU+aWA+bO+aYA+bO+bUtMIDDLE_DOT
   tSEMI-VOICED_SOUND_MARKtVOICED_SOUND_MARKs-HIRAGANA_PROLONGED_SOUND_MARKkLEFT_CORNER_BRACKET
   oWARDS_ARROWkRIGHT_CORNER_BRACKETpWARDS_ARROWkUPWARDS_ARROWkWHITE_CIRCLEcMBURGERdMERg_AND_PICK
   lSICKLElWRENCHdSAeTER_FACEcND_WITH_INDEX_AND_MIDDLE_FINGERS_CROSSEDqFINGER_AND_THUMB_CROSSEDeBAG
   gLLeSHAKEdGUL_CHOSEONG_CEONGCHIEUMCHIEUCH+cIEUC+bSIOS+cSANGCIEUC+gSIOSrHIEUCHx-HIEUHyKHIEUKH
   tTUEUMCHIEUCHzIEUCySIOSzSANGCIEUC+dSIOSrIEUCv-IEUNGqFILLERqHIEUHv-SIOSqIEUNGv-CHIEUCHxIEUCwHIEUH
   wKIYEOKwMIEUMwPANSIOSxHIEUPHxIEUPwRIEULwSIOSwTHIEUTHxIKEUTqKAPYEOUNMIEUMyPHIEUPHzIEUPyRIEUL
   ySSANGPIEUPrHIEUKHrIYEOKw-TIKEUTqMIEUMv-KIYEOKwPIEUPwSIOSwTIKEUTqNIEUNv-CIEUCwHIEUHwKIYEOKwPIEUP
   wSIOSwTIKEUTqPANSIOSrHIEUPHx-HIEUHyPIEUPrIEUPv-CHIEUCHxIEUCwHIEUHwKHIEUKHxIYEOKwNIEUNwPHIEUPH
   wSIOS+a-CIEUC+bKIYEOK+bPIEUP+bTHIEUTH+cIKEUTxSANGSIOSwTHIEUTHxIKEUTqRIEULv-CIEUCwHIEUH
   wKAPYEOUNPIEUPxHIEUKHxIYEOKwMIEUMwNIEUNwPIEUPwSIOSxSANGKIYEOK+bPIEUP+bTIKEUTwTIKEUTqSIOSu-CHIEUCH
   wIEUCvHIEUHvIEUNGvKHIEUKHwIYEOKvMIEUMvNIEUNvPHIEUPHwIEUP+a-KIYEOKvRIEULvSSANGSIOSvTHIEUTHwIKEUT
   rSANGCIEUC+a-HIEUHvHIEUHvIEUNGvKIYEOKvNIEUNvPIEUPvRIEULvSIOSz-PIEUPvTHIEUTHwIKEUTvYEORINHIEUH
   qTHIEUTHrIKEUTw-CIEUCxKIYEOKxMIEUMxPIEUPxRIEULxSIOSqYEORINHIEUHsSIEUNGhDOUBLE_DOT_TONE_MARK
   hFILLERhJONGSEONG_CHIEUCHsIEUCw-PIEUPxSSANGPIEUPrHIEUHw-MIEUMxNIEUNxPIEUPxRIEULrIEUNGw-KHIEUKH
   yIYEOKxSSANGKIYEOKrKAPYEOUNMIEUMzPHIEUPH+aIEUPzRIEULsHIEUKHsIYEOKx-CHIEUCHyHIEUHyKHIEUKHyNIEUN
   yPIEUPyRIEULySIOS+c-KIYEOKrMIEUMw-CHIEUCHyIEUCxHIEUHxKIYEOKxNIEUNxPANSIOSyIEUP+c-SIOSxRIEULxSIOS
   ySANGNIEUN+cSIOSrNIEUNw-CHIEUCHyIEUCxHIEUHxKIYEOKxPANSIOSxRIEULxSIOSxTHIEUTHyIKEUTrPANSIOS
   y-KAPYEOUNPIEUPzPIEUPsHIEUPHy-PIEUPzSIOSzTHIEUTHsIEUPw-CHIEUCHyIEUCxHIEUHxMIEUMxPHIEUPHxRIEUL
   +c-PHIEUPHxSIOS+b-TIKEUTxTIKEUTrRIEULw-HIEUHxKAPYEOUNPIEUPyHIEUKHyIYEOK+d-HIEUH+eSIOSxMIEUM
   +c-HIEUH+dKIYEOK+dSIOSxNIEUNxPANSIOSyHIEUPHyIEUP+c-HIEUH+dPHIEUPH+dSIOS+dTIKEUTxSIOSySANGKIYEOK
   +cSIOSxTHIEUTHyIKEUT+d-HIEUHxYEORINHIEUH+i-HIEUHzSIEUNGrSIOSv-CHIEUCHxIEUCwHIEUHwKAPYEOUNPIEUP
   xIYEOKwMIEUMwPANSIOSxIEUPwRIEULwTHIEUTHxIKEUTsSANGCIEUCwIEUNGwKIYEOKwMIEUMwNIEUNwPIEUPwRIEUL
   +b-KHIEUKHwSIOS+a-KIYEOK+bTIKEUTwTIKEUT+c-PIEUPwYESIEUNGrTHIEUTHsIKEUTx-CHIEUCHzIEUCyKIYEOKyPIEUP
   yRIEULySIOS+c-KIYEOKyTHIEUTHrYEORINHIEUHtSIEUNGz-HIEUH+aKHIEUKH+bIYEOK+aMIEUM+aPANSIOS+aSIOS
   +bSANGKIYEOKiUNGSEONG_As-EUtOtUsEsRAEAw-AxEyOxIxUrEsOt-EUuOuUsUt-AuEvOvUuOuUrFILLERrIs-AuRAEAtEU
   tItOu-ItUtYAv-OvEuEvOuOuUrOs-EuOtOu-ItUtYAvEuEvOsErSSANGARAEArUs-AuEtEO-EUtI-ItUtYEvOrWAtEsEtOsI
   rYAt-OuUuYOtEsEtOu-OvUvYAsIt-UsOt-AvEuEOuIuOuYAwEvEOsUt-AvEuEvOuIuOuUuYEwOhLETTER_ApEpRAEAtE
   oCHIEUCHpIEUCoEpOpUoHIEUHoIpEUNGoKAPYEOUNMIEUMwPHIEUPHxIEUPwSSANGPIEUPpHIEUKHpIYEOKu-SIOSoMIEUM
   t-PANSIOSvIEUPuSIOSoNIEUNt-CIEUCuHIEUHuPANSIOSuSIOSuTIKEUToOpEoPANSIOSpHIEUPHpIEUPt-CIEUCuKIYEOK
   uSIOSy-KIYEOKzTIKEUTuTHIEUTHvIKEUToRIEULt-HIEUHuKIYEOK+a-SIOSuMIEUMuPANSIOSvHIEUPHvIEUPz-SIOS
   uSIOSuTHIEUTHvIKEUTuYEORINHIEUHoSIOSs-CIEUCtKIYEOKtNIEUNtPIEUPtTIKEUTpSANGCIEUCtHIEUHtIEUNG
   tKIYEOKtNIEUNtPIEUPtSIOStTIKEUToTHIEUTHpIKEUToUoWAqEpEqOpIoYAqEpEqOrRINHIEUHqSIEUNGw-PANSIOSxSIOS
   pIpOq-IrYAtEpUq-IrYEtOhSINGLE_DOT_TONE_MARKeZHOU_NUMERAL_EIGHTrFIVEsOURrNINErONErSEVENsIXrTEN
   sHIRTYtREEsWENTYtOdIFI_ROHINGYA_DIGIT_EIGHTwFIVExOURwNINEwONEwSEVENxIXwTHREExWOwZEROqLETTER_AxBA
   xCAxDAyDAxFAxGAxHAxJAxKAyHAyINNA_WA+dYAxLAxMAxNAyGAyYAxPAxRAyRAxSAyHAxTAyTAxVAxWAxYAxZA
   qMARK_NA_KHONNAvSAKINqSIGN_HARBAHAYvTAHALAxNAxSSIqVOWEL_AwEwIwOwUdUNOO_LETTER_ApBApDApGApHApIpKA
   pLApMApNAqGApPApRApSApTApUpWApYAiSIGN_PAMUDPODiVOWEL_SIGN_ItUcPPY_PERSON_RAISING_ONE_HANDcRD_DISK
   cTCHING_CHICKdRAN_LETTER_ALEPHpYNoBETHoDALETH-RESHoGIMELoHEqTHoKAPHoLAMEDHoMEMoNUNoPEoQOPHoSADHE
   qMEKHpHINoTAWpETHoWAWoYODHoZAYNhNUMBER_FIVEoONEr_HUNDREDoTENpWENTYbEADPHONEeSTONE
   j_GRAVEYARD_SYMBOLdR-NO-EVIL_MONKEYeT_DECORATIONgHANDSgWITH_ARROWlRIBBONlTIP_ON_THE_LEFT
   dVY_AMPERSAND_ORNAMENThRROW_SHAFT_WIDTH_ONE+b_HALF+cTHIRDyTWO_THIRDShSTERISKgBALLOT_X
   hLACK_CURVED_DOWNWARDS_AND_RIGHTWARDS_ARROWtUPWARDS_AND_RIGHTWARDS_ARROWmHEART
   l-FEATHERED_NORTH_EAST_ARROWwRIGHTWARDS_ARROWwSOUTH_EAST_ARROWgCHECK_MARKjVRON_SNOWFLAKEhIRCLE
   m_WITH_CIRCLE_INSIDEsSTROKE_AND_TWO_DOTS_ABOVEmD_SALTIREhONCAVE-POINTED_BLACK_RIGHTWARDS_ARROW
   gDASHED_TRIANGLE-HEADED_RIGHTWARDS_ARROWhIVISION_SIGNhOLLAR_SIGN
   iUBLE_COMMA_QUOTATION_MARK_ORNAMENTnTURNED_COMMA_QUOTATION_MARK_ORNAMENT
   iWNWARDS_ARROW_WITH_EQUILATERAL_ARROWHEAD+bLARGE_EQUILATERAL_ARROWHEADgEIGHT_POINTED_BLACK_STAR
   uPINWHEEL_STARuRECTILINEAR_BLACK_STARmSPOKED_ASTERISKmTEARDROP-SPOKED_PROPELLER_ASTERISK
   hQUALS_SIGNhXCLAMATION_MARK_ORNAMENTxSYMBOLgFIVE_POINTED_BLACK_STARlSPOKED_ASTERISK
   hOUR_BALLOON-SPOKED_ASTERISKgGREEK_CROSSgHEART_EXCLAMATION_MARK_ORNAMENThORIZONTAL_FILL
   gINTERROBANG_ORNAMENTgLARGE_CIRCLEiTIN_CROSShEFT-POINTING_ANGLE_BRACKET_ORNAMENT
   +aQUOTATION_MARK_ORNAMENTkWARDS_ARROW_WITH_EQUILATERAL_ARROWHEAD+bLARGE_EQUILATERAL_ARROWHEAD
   hIGATURE_OPEN_ET_ORNAMENThOW_DOUBLE_COMMA_QUOTATION_MARK_ORNAMENT
   kSINGLE_COMMA_QUOTATION_MARK_ORNAMENTjER_RIGHT-SHADOWED_WHITE_RIGHTWARDS_ARROWgMINUS_SIGN
   hULTIPLICATION_XgNORTH_EAST_ARROWrPOINTING_BUD+aVINE_LEAFmWEST_POINTING_BUD+aVINE_LEAF
   gOPEN_CENTRE_CROSShUTLINED_BLACK_STARhVAL_WITH_OVAL_INSIDEgPLUS_SIGN
   gRIGHT-POINTING_ANGLE_BRACKET_ORNAMENT+bQUOTATION_MARK_ORNAMENTlWARDS_ARROW
   w_WITH_EQUILATERAL_ARROWHEAD+cLARGE_EQUILATERAL_ARROWHEADhOUND-TIPPED_RIGHTWARDS_ARROWgSALTIRE
   iNS-SERIF_INTERROBANG_ORNAMENThCRIPT_LIGATURE_ET_ORNAMENThINGLE_COMMA_QUOTATION_MARK_ORNAMENT
   nTURNED_COMMA_QUOTATION_MARK_ORNAMENTiX_POINTED_BLACK_STARkSPOKED_ASTERISKhOUTH_EAST_ARROW
   rPOINTING_BUD+aVINE_LEAFmWEST_POINTING_BUD+aVINE_LEAFhPARKLEgTEARDROP-SHANKED_RIGHTWARDS_ARROW
   qPOKED_ASTERISKwPINWHEEL_ASTERISKhRIANGLE-HEADED_RIGHTWARDS_ARROWhWELVE_POINTED_BLACK_STAR
   vPINWHEEL_STARgUPPER_RIGHT-SHADOWED_WHITE_RIGHTWARDS_ARROWiWARDS_ARROW_WITH_EQUILATERAL_ARROWHEAD
   zLARGE_EQUILATERAL_ARROWHEADgVERTICAL_BARgWEDGE-TAILED_RIGHTWARDS_ARROWhHITE_CIRCLE
   mDOWN-POINTING_TRIANGLEmSQUAREhIDE-HEADED_RIGHTWARDS_ARROWcBREW_ACCENT_ATNAH_HAFUKHoDARGApEHI
   oETNAHTAoGERESHu_MUQDAMrSHAYIMoILUYoMAHAPAKHpERKHAu_KEFULApUNAHoOLEoPASHTAqZERoQADMAqRNEY_PARA
   oREVIAoSEGOLpHALSHELEToTELISHA_GEDOLAwQETANAqVIRpIPEHAoYERAH_BEN_YOMOqTIVoZAQEF_GADOLuQATANqRQA
   pINORhLETTER_ALEFs_WITH_MAPIQyPATAHyQAMATSqTERNATIVE_AYIN+aPLUS_SIGNpYINoBETr_WITH_DAGESHxRAFE
   oDALETt_WITH_DAGESHoFINAL_KAFx_WITH_DAGESHuMEMuNUNuPEw_WITH_DAGESHuTSADIoGIMELt_WITH_DAGESHoHE
   q_WITH_MAPIQqToKAFr_WITH_DAGESHxRAFEoLAMEDt_WITH_DAGESHoMEMr_WITH_DAGESHoNUNr_WITH_DAGESHoPE
   q_WITH_DAGESHwRAFEoQOFr_WITH_DAGESHoRESHs_WITH_DAGESHoSAMEKHu_WITH_DAGESHpHINs_WITH_DAGESH
   +e_AND_SHIN_DOT+kIN_DOTySHIN_DOTzIN_DOToTAVr_WITH_DAGESHpETr_WITH_DAGESHpSADIt_WITH_DAGESHoVAV
   r_WITH_DAGESHxHOLAMoWIDE_ALEFtDALETtFINAL_MEMtHEtKAFtLAMEDtRESHtTAVoYODr_WITH_DAGESHxHIRIQoZAYIN
   t_WITH_DAGESHiIGATURE_ALEF_LAMEDqYIDDISH_DOUBLE_VAV+fYODyVAV_YODyYOD_YOD_PATAHhMARK_LOWER_DOT
   mMASORA_CIRCLEmUPPER_DOThPOINT_DAGESH_OR_MAPIQnHATAF_PATAHtQAMATStSEGOLoIRIQoOLAMs_HASER_FOR_VAV
   nJUDEO-SPANISH_VARIKAnMETEGnPATAHnQAMATSt_QATANoUBUTSnRAFEnSEGOLoHEVApIN_DOToIN_DOTnTSERE
   iUNCTUATION_GERESHwSHAYIMtMAQAFtNUN_HAFUKHAtPASEQtSOF_PASUQhYOD_TRIANGLEcDGEHOGcLICOPTER
   dLSCHREIBER_PAUSE_SYMBOLdM_SYMBOLeET_WITH_WHITE_CROSScNTAIGANA_LETTER_A-1u2u3uWOsE-1u2u3u4u5u6
   sHA-1w0w1v2v3v4v5v6v7v8v9tE-1v2v3v4v5v6v7tI-1v2v3v4v5v6v7tO-1v2v3v4v5v6v7v8tU-1v2v3sI-1u2u3u4
   sKA-1w0w1v2v3v4v5v6v7v8v9vKEtE-1v2v3v4v5v6tI-1v2v3v4v5v6v7v8tO-1v2v3vKItU-1v2v3v4v5v6v7sMA-1v2v3
   v4v5v6v7tE-1v2vMAtI-1v2v3v4v5v6v7tO-1v2v3v4v5v6tU-1v2v3v4sN-MU-MO-1+a2tA-1v2v3v4v5v6v7v8v9tE-1v2
   v3v4v5v6vKOtI-1v2v3v4v5v6v7vTEtO-1v2v3v4v5tU-1v2v3sO-1u2u3sRA-1v2v3v4tE-1v2v3v4tI-1v2v3v4v5v6v7
   tO-1v2v3v4v5v6tU-1v2v3v4v5v6sSA-1v2v3v4v5v6v7v8tE-1v2v3v4v5tI-1v2v3v4v5v6tO-1v2v3v4v5v6v7tU-1v2v3
   v4v5v6v7v8sTA-1v2v3v4tE-1v2v3v4v5v6v7v8v9tI-1v2v3v4v5v6v7tO-1v2v3v4v5v6vRAtU-1v2v3v4vTOsU-1u2u3u4
   u5sWA-1v2v3v4v5tE-1v2v3v4tI-1v2v3v4v5tO-1v2v3v4v5v6v7sYA-1v2v3v4v5vYOtO-1v2v3v4v5v6tU-1v2v3v4cRB
   dMITIAN_CONJUGATE_MATRIXcXAGRAM_FOR_ABUNDANCEoFTER_COMPLETIONoPPROACHnBEFORE_COMPLETION
   oITING_THROUGHoREAKTHROUGHnCOMING_TO_MEETpNFLICTqTEMPLATIONnDARKENING_OF_THE_LIGHToECREASE
   pLIVERANCEpVELOPMENToIFFICULTY_AT_THE_BEGINNINGpSPERSIONoURATIONnENTHUSIASMnFELLOWSHIPoOLLOWING
   nGATHERING_TOGETHERoRACEpEAT_POSSESSIONvWERuREPONDERANCEtTAMINGnHOLDING_TOGETHERnINCREASEpFLUENCE
   pNER_TRUTHqOCENCEnLIMITATIONnMODESTYpUTH_CORNERSnOBSTRUCTIONoPPOSITIONqRESSIONnPEACEoROGRESS
   oUSHING_UPWARDnRETREATqURNpVOLUTIONnSMALL_PREPONDERANCEtTAMINGoPLITTING_APARToTANDSTILL
   nTHE_ABYSMAL_WATERsRMYtOUSING_THUNDERrCAULDRONsLINGING_FIREsREATIVE_HEAVENrFAMILYrGENTLE_WIND
   rJOYOUS_LAKErKEEPING_STILL_MOUNTAINrMARRYING_MAIDENrRECEPTIVE_EARTHrWANDERERsELLoREADINGnWAITING
   oORK_ON_THE_DECAYEDnYOUTHFUL_FOLLYbIBISCUScGH_BRIGHTNESS_SYMBOLfOCTET_PRESETfVOLTAGE_SIGN
   e-HEELED_SHOEfSPEED_TRAINq_WITH_BULLET_NOSEcKING_BOOTcNDU_TEMPLEcPPOPOTAMUScRAGANA_DIGRAPH_YORI
   jITERATION_MARKjLETTER_ArRCHAIC_WUyYEqBArErIrOrUqDArErIrOrUqEqGArErIrOrUqHArErIrOrUqIqKArErIrOrU
   qMArErIrOrUqNrArErIrOrUqOqPArErIrOrUqRArErIrOrUqSArErIrMALL_AwEwIwKAxEwOwTUwUwWAxExIxOwYAxOxUrOrU
   qTArErIrOrUqUqVUqWArErIrOqYArOrUqZArErIrOrUjVOICED_ITERATION_MARKcSTORIC_SITEbOCHOcLE
   dLOW_QUILT_SQUARE_ORNAMENT+c_IN_BLACK_SQUAREcMOTHETICcNEY_POTfBEEcOKcPcRIZONTAL_BARmLACK_HEXAGON
   rOCTAGONlELLIPSISlLINE_EXTENSIONlMALE_WITH_STROKE_SIGNlONE_EIGHTH_BLOCK-1358+c2+c3+c4+c5+c6+c7
   lSCAN_LINE-1v3v7v9lTAB_KEYoULATIONv_SETwWITH_JUSTIFICATIONmRAFFIC_LIGHTdSEf_FACEgRACINGcSPITAL
   cT_BEVERAGEeDOGePEPPEReSPRINGSdELcURGLASSj_WITH_FLOWING_SANDdSEf_BUILDINGoSgWITH_GARDEN
   bRYVNIA_SIGNbTcJcSbUGGING_FACEcNDRED_POINTS_SYMBOLcSHED_FACEcTbYGIEAcPHENg_BULLEThWITH_DIAERESIS
   g-MINUSgATION_POINTdODIASTOLEcSTERESIS_SYMBOLaI_LOVE_YOU_HAND_SIGNbCE_CREAMfUBE
   eHOCKEY_STICK_AND_PUCKeSKATEbDENTICAL_TOm_AND_SLANTED_PARALLELkWITH_DOT_ABOVEgFICATION_CARD
   dOGRAPHIC_ANNOTATION_BOTTOM_MARKxEARTH_MARKxFIRST_MARKyOUR_MARK+bTH_MARKxHEAVEN_MARKxLINKING_MARK
   xMAN_MARKyIDDLE_MARKxONE_MARKxREVERSE_MARKxSECOND_MARKxTHIRD_MARKzREE_MARKyOP_MARKyWO_MARK
   mCLOSING_MARKnOMMAmDEPARTING_TONE_MARKoSCRIPTION_CHARACTER_ABOVE_TO_BELOW+rMIDDLE_AND_BELOW
   +iFULL_SURROUND+iLEFT_TO_MIDDLE_AND_RIGHT+qRIGHT+iOVERLAID+iSURROUND_FROM_ABOVE+wBELOW+wLEFT
   +xOWER_LEFT+wUPPER_LEFT++cRIGHTmENTERING_TONE_MARKmFULL_STOPmHALF_FILL_SPACEmITERATION_MARK
   mLEVEL_TONE_MARKmNUMBER_ZEROmRISING_TONE_MARKmSPACEmTALLY_MARK_FIVEyOURxONExTHREEyWO
   nELEGRAPH_LINE_FEED_SEPARATOR_SYMBOLwSYMBOL_FOR_APRIL+iUGUST+hDAY_EIGHT+qEEN+mLEVEN+lFIFTEEN+nVE
   +mOUR+pTEEN+lNINE+pTEEN+lONE+lSEVEN+qTEEN+mIX+oTEEN+lTEN+mHIRTEEN+qY+r-ONE+nREE+mWELVE+oNTY
   +r-EIGHT+sFIVE+tOUR+sNINE+sONE+sSEVEN+tIX+sTHREE+tWO+nO+iECEMBER+hFEBRUARY+hHOUR_EIGHT+rEEN
   +nLEVEN+mFIFTEEN+oVE+nOUR+qTEEN+mNINE+qTEEN+mONE+mSEVEN+rTEEN+nIX+pTEEN+mTEN+nHIRTEEN+oREE+nWELVE
   +pNTY+s-FOUR+tONE+tTHREE+uWO+oO+mZERO+hJANUARY+iULY+jNE+hMARCH+jY+hNOVEMBER+hOCTOBER+hSEPTEMBER
   mVARIATION_INDICATORbMAGE_OFi_OR_APPROXIMATELY_EQUAL_TOcPdERIAL_ARAMAIC_LETTER_ALEPHzYINyBETH
   yDALETHyGIMELyHE+aTHyKAPHyLAMEDHyMEMyNUNyPEyQOPHyRESHySADHE+aMEKHzHINyTAWzETHyWAWyYODHyZAYIN
   rNUMBER_ONE+b_HUNDRED+cTHOUSANDyTEN+b_THOUSANDzHREEzWENTY+aOrSECTION_SIGNbNBOX_TRAY
   cCOMING_ENVELOPEfPLETE_INFINITYdREASE_FONT_SIZE_SYMBOLiS_ASfMENTcDdEXf_POINTING_AT_THE_VIEWER
   dIAN_RUPEE_SIGNeC_SIYAQ_ALTERNATE_LAKH_MARKmFRACTION_ONE_HALFzQUARTERvTHREE_QUARTERSmLAKH_MARK
   mNUMBER_ALTERNATE_ONE+dTEN_THOUSAND+eWOtEIGHTy_HUNDREDzTHOUSANDyYz_THOUSANDtFIFTYy_THOUSANDvVE
   x_HUNDREDyTHOUSANDuORTYy_THOUSANDvURx_HUNDREDyTHOUSANDtKARORyANtLAKHxANtNINEx_HUNDREDyTHOUSANDxTY
   z_THOUSANDtONEw_HUNDREDxTHOUSANDtPREFIXED_EIGHT+cFIVE+dOUR+cNINE+cONE+cSEVEN+dIX+cTHREE+dWOtSEVEN
   y_HUNDREDzTHOUSANDyTY+a_THOUSANDuIXw_HUNDREDxTHOUSANDwTYy_THOUSANDtTENw_THOUSANDuHIRTYz_THOUSAND
   vREEy_HUNDREDzTHOUSANDuWENTYz_THOUSANDvOw_HUNDREDxTHOUSANDmPLACEHOLDERmRUPEE_MARKcFINITY
   i_NEGATED_WITH_VERTICAL_BARdORMATION_DESK_PERSONmSEPARATOR_FOURwONEwTHREExWOnOURCE
   cHIBIT_ARABIC_FORM_SHAPINGiSYMMETRIC_SWAPPINGcPUT_SYMBOL_FOR_LATIN_CAPITAL_LETTERSxLETTERS
   xSMALL_LETTERSrNUMBERSrSYMBOLScSCRIPTIONAL_PAHLAVI_LETTER_ALEPH+dBETH+dDALETH+dGIMEL+dHE+fTH
   +dKAPH+dLAMEDH+dMEM-QOPH+dNUN+dPE+dSADHE+fMEKH+eHIN+dTAW+eETH+dWAW-AYIN-RESH+dYODH+dZAYIN
   wNUMBER_FOUR+dONE+g_HUNDRED+hTHOUSAND+dTEN+eHREE+eWENTY+fOqRTHIAN_LETTER_ALEPH+fYIN+eBETH+eDALETH
   +eGIMEL+eHE+gTH+eKAPH+eLAMEDH+eMEM+eNUN+ePE+eQOPH+eRESH+eSADHE+gMEKH+fHIN+eTAW+fETH+eWAW+eYODH
   +eZAYINxNUMBER_FOUR+eONE+h_HUNDRED+iTHOUSAND+eTEN+fHREE+fWENTY+gOdERTION_SYMBOLcTEGRAL
   i_AROUND_A_POINT_OPERATORkVERAGE_WITH_SLASHjEXTENSIONjWITH_DOUBLE_STROKEoINTERSECTION
   oLEFTWARDS_ARROW_WITH_HOOKoOVERBARoTIMES_SIGNoUNDERBARqIONeRCALATEfIOR_PRODUCT
   fLINEAR_ANNOTATION_ANCHORxSEPARATORxTERMINATORgOCKED_FEMALE_AND_MALE_SIGNfROBANGfSECTION
   m_ABOVE_BAR_ABOVE_UNIONtUNIONnBESIDE_AND_JOINED_WITH_INTERSECTIONnWITH_DOTsLOGICAL_ANDsOVERBAR
   cVERSE_BULLETiCHECK_MARKnER_BOARD_FILLiDOWNWARDS_ARROW_WITH_TIP_LEFTWARDSiMEDIUM_SHADE
   iWHITE_CIRCLEfTED_EXCLAMATION_MARKjINTERROBANGjLAZY_SkOW_KAVYKAt_WITH_KAVYKA_ABOVEjOHM_SIGN
   jPENTAGRAMjQUESTION_MARKjUNDERTIEdISIBLE_PLUSkSEPARATORkTIMESbZAKAYA_LANTERNaJACK-O-LANTERN
   cPANESE_BANK_SYMBOLjCASTLEjDOLLSjGOBLINjINDUSTRIAL_STANDARD_SYMBOLjOGREjPOST_OFFICE
   jSYMBOL_FOR_BEGINNERcRcVANESE_CONSONANT_SIGN_CAKRAyKERETyPENGKALjDIGIT_EIGHTpFIVEqOURpNINEpONE
   pSEVENqIXpTHREEqWOpZEROjLEFT_RERENGGANlTTER_ArIqBAs_MURDAqCAs_MURDAqDAs_MAHAPRANArDAt_MAHAPRANAqE
   qGAs_MURDAqHAqIr_KAWIrIqJAs_MAHAPRANAqKAs_MURDAtSASAKqLAqMAqNAs_MURDArGAt_LELETz_RASWADIrYA
   t_MURDAqOqPAs_CEREKtMURDAqRAs_AGUNGqSAs_MAHAPRANAuURDAqTAs_MURDArTAt_MAHAPRANAqUqWAqYAjPADA_ADEG
   s_ADEGpNDAPoISEN-ISENoLINGSApUHURqNGSIoMADYAoPANGKATpISELEHoTIRTA_TUMETESoWINDUlNGKONnRANGKEP
   jRIGHT_RERENGGANjSIGN_CECAKt_TELUoLAYARoPANYANGGAoWIGNYANjTURNED_PADA_PISELEH
   jVOWEL_SIGN_DIRGA_MUREuPEPETuSUKUy_MENDUTuTALINGwRUNGvOLONGuWULUy_MELIKbEANSbIGSAW_PUZZLE_PIECE
   bOINcYSTICKbUGGLINGcNOcPITERaKAABAcITHI_ABBREVIATION_SIGNhDANDAiOUBLE_DANDAoSECTION_MARK
   hENUMERATION_SIGNhLETTER_ApApIpUoBApHAoCApHAoDApDAqDHAqHApHAoEoGApHAoHAoIpIoJApHAoKApHAoLAoMAoNA
   pGApNApYAoOoPApHAoRApHAoSApHApSAoTApHApTAqHAoUpUoVAoYAhNUMBER_SIGNs_ABOVEhSECTION_MARK
   iIGN_ANUSVARAmCANDRABINDUmNUKTAmVIRAMAoSARGAhVOWEL_SIGN_AAtItUsEsItIsOsUtUsVOCALIC_RcNGAROO
   eXI_RADICAL_AGAINqNDqRRIVEsOWqXEpBADGERrMBOOqEANqIGrRDrTTERqLACKrOODrUEqOATrDYrLT_OF_CLOTHrNErW
   qRANCHrISTLErUSHpCARTrULDRONrVEqHILDqITYqLANsWrIFFrOTHESqOLORrMPARErRPSErVERrWpDEATHrERqIPPERrSH
   sTINGUISHrVINATIONqO_NOTrGrORrTsTED_CLIFFwTENTrUBLE_XrWN_BOXqRAGONrUMrYpEARsTHrTqIGHTqMBROIDERY
   qNCLOSURErTERqVENtINGqYEpFACErNGrTHERqEATHERqIELDrGHTrRErSHqLUTErYqOOTqRAGRANTrOGqURpGATEqHOSTqO
   r_SLOWLYrLDqRAINsSSpHAIRrLBERDsF_TREE_TRUNKrNDqEADsRTrMPqIDING_ENCLOSUREqOOKrRNsSEpICEqNCHrSECT
   pJADErRpKNIFEpLACKrMEqEAFsTHERrEKrGSqIDrFErNEqONGt_STRIDEpMANqEATrLONqILLETrNISTERqOONrRNINGsTAR
   rUNDtTAINsTHpNETqOSErTpOLDqNEsSELFqPEN_BOXrPOSEpPIGqLOWqOWERqRIVATErOFOUNDpRAINrPrTqEDqICE
   rGHT_OPEN_BOXrVERqOOFqUNpSACRIFICIAL_WINErLTrYqCHOLARrRIPTqEALrCONDrErLFqHEEPsLLrOOT
   sRT_TAILED_BIRDwHREADqICKNESSrLKqKINqLASHsVErICEqMALLqNOUTqOUNDqPEARsECHrIRITrOONrROUTqQUAREqTAND
   rEAMsPrONEsPtPINGqUNqWEETpTABLErLLrNNED_LEATHERqENqIGERrLEqONGUErOTHqRACKrEErIPODqURBANsTLEqWO
   s_HANDSpUSEpVALLEYqILLAGEpWALKt_ENCLOSURErTERqEAPONrSTqHEATrITEqINDsEqOMANrRKqRAPrONGpYELLOW
   dNADA_AI_LENGTH_MARKiDIGIT_EIGHToFIVEpOURoNINEoONEoSEVENpIXoTHREEpWOoZEROiLENGTH_MARKkTTER_AqAqI
   qUpBAqHApCAqHApDAqDArHAqHApEqEpFApGAqHApHApIqIpJAqHApKAqHApLAqLArLApMApNArKAARA_POLLUqGAqNAqYApO
   qOpPAqHApRAqRApSAqHAqSApTAqHAqTArHApUqUpVAqOCALIC_LyLxRyRpYAiSIGN_ANUSVARAoVAGRAHAnCANDRABINDU
   nJIHVAMULIYAnNUKTAnSIDDHAMoPACING_CANDRABINDUnUPADHMANIYAnVIRAMApSARGAiVOWEL_SIGN_AAuIuUtEuEtIuI
   tOuOtUuUtVOCALIC_L+cL+bR+cRcTAKANA_DIGRAPH_KOTOjITERATION_MARKjLETTER_ArRCHAIC_EyWUyYEzIqBArErIrO
   rUqDArErIrOrUqEqGArErIrOrUqHArErIrOrUqIqKArErIrOrUqMArErIsNNAN_NASALIZED_TONE-1+m2+m3+m4+m5+m7+m8
   xTONE-2+c3+c4+c5+c7+c8rOrUqNrArErIrOrUqOqPArErIrOrUqRArErIrOrUqSArErIrMALL_AwEwHAxExIxOxUwIwKAxE
   xUwMUwNxUwOwRAxExIxOxUwSIxUwTOxUwUwWAxExIxOwYAxOxUrOrUqTArErIrOrUqUqVArErIrOrUqWArErIrOqYArOrUqZA
   rErIrOrUjMIDDLE_DOTjVOICED_ITERATION_MARKi-HIRAGANA_DOUBLE_HYPHENsPROLONGED_SOUND_MARK
   sSEMI-VOICED_SOUND_MARKsVOICED_SOUND_MARKcYAH_LI_DIGIT_EIGHTpFIVEqOURpNINEpONEpSEVENqIXpTHREEqWO
   pZEROjLETTER_AqBAqCAqDAqGAqHArTAqIqKArHAqLAqMAqNArGArYAqOErOqPArHAqRAqSArHAqTArHAqVAqWAqYAqZA
   jSIGN_CWIoSHYAjTONE_CALYAt_PLOPHUoPLOPHUjVOWEL_EqEpOpUqEbELVIN_SIGNcYdBOARDi_AND_MOUSEdCAP_TEN
   bHAROSHTHI_DIGIT_FOURrONErTHREEsWOlFRACTION_ONE_HALFlLETTER_AsBAtHAsCAtHAsDAtDAuHAtHAsGAtHAsHAsJA
   sKAtHAtKAsLAsMAsNAtNAtYAsPAtHAsRAsSAtHAtSAsTAtHAtTAuHAuTAvHAsVAtHAsYAsZAlNUMBER_ONE_HUNDRED
   wTHOUSANDsTENtWENTYlPUNCTUATION_CIRCLEyRESCENT_BARxDANDAyOTzUBLE_DANDAxLINESyOTUSxMANGALAM
   xSMALL_CIRCLElSIGN_ANUSVARAqBAR_ABOVEqCAUDAqDOT_BELOWsUBLE_RING_BELOWqVISARGAlVIRAMA
   mOWEL_LENGTH_MARKrSIGN_EwIwOwUwVOCALIC_RcITAN_SMALL_SCRIPT_CHARACTER-18B00+i1+i2+i3+i4+i5+i6+i7
   +i8+i9+iA+iB+iC+iD+iE+iF+h10+i1+i2+i3+i4+i5+i6+i7+i8+i9+iA+iB+iC+iD+iE+iF+h20+i1+i2+i3+i4+i5+i6
   +i7+i8+i9+iA+iB+iC+iD+iE+iF+h30+i1+i2+i3+i4+i5+i6+i7+i8+i9+iA+iB+iC+iD+iE+iF+h40+i1+i2+i3+i4+i5
   +i6+i7+i8+i9+iA+iB+iC+iD+iE+iF+h50+i1+i2+i3+i4+i5+i6+i7+i8+i9+iA+iB+iC+iD+iE+iF+h60+i1+i2+i3+i4
   +i5+i6+i7+i8+i9+iA+iB+iC+iD+iE+iF+h70+i1+i2+i3+i4+i5+i6+i7+i8+i9+iA+iB+iC+iD+iE+iF+h80+i1+i2+i3
   +i4+i5+i6+i7+i8+i9+iA+iB+iC+iD+iE+iF+h90+i1+i2+i3+i4+i5+i6+i7+i8+i9+iA+iB+iC+iD+iE+iF+hA0+i1+i2
   +i3+i4+i5+i6+i7+i8+i9+iA+iB+iC+iD+iE+iF+hB0+i1+i2+i3+i4+i5+i6+i7+i8+i9+iA+iB+iC+iD+iE+iF+hC0+i1
   +i2+i3+i4+i5+i6+i7+i8+i9+iA+iB+iC+iD+iE+iF+hD0+i1+i2+i3+i4+i5+i6+i7+i8+i9+iA+iB+iC+iD+iE+iF+hE0
   +i1+i2+i3+i4+i5+i6+i7+i8+i9+iA+iB+iC+iD+iE+iF+hF0+i1+i2+i3+i4+i5+i6+i7+i8+i9+iA+iB+iC+iD+iE+iF
   +gC00+i1+i2+i3+i4+i5+i6+i7+i8+i9+iA+iB+iC+iD+iE+iF+h10+i1+i2+i3+i4+i5+i6+i7+i8+i9+iA+iB+iC+iD+iE
   +iF+h20+i1+i2+i3+i4+i5+i6+i7+i8+i9+iA+iB+iC+iD+iE+iF+h30+i1+i2+i3+i4+i5+i6+i7+i8+i9+iA+iB+iC+iD
   +iE+iF+h40+i1+i2+i3+i4+i5+i6+i7+i8+i9+iA+iB+iC+iD+iE+iF+h50+i1+i2+i3+i4+i5+i6+i7+i8+i9+iA+iB+iC
   +iD+iE+iF+h60+i1+i2+i3+i4+i5+i6+i7+i8+i9+iA+iB+iC+iD+iE+iF+h70+i1+i2+i3+i4+i5+i6+i7+i8+i9+iA+iB
   +iC+iD+iE+iF+h80+i1+i2+i3+i4+i5+i6+i7+i8+i9+iA+iB+iC+iD+iE+iF+h90+i1+i2+i3+i4+i5+i6+i7+i8+i9+iA
   +iB+iC+iD+iE+iF+hA0+i1+i2+i3+i4+i5+i6+i7+i8+i9+iA+iB+iC+iD+iE+iF+hB0+i1+i2+i3+i4+i5+i6+i7+i8+i9
   +iA+iB+iC+iD+iE+iF+hC0+i1+i2+i3+i4+i5+i6+i7+i8+i9+iA+iB+iC+iD+iE+iF+hD0+i1+i2+i3+i4+i5uFILLER
   cMER_CURRENCY_SYMBOL_RIELgDIGIT_EIGHTmFIVEnOURmNINEmONEmSEVENnIXmTHREEnWOmZERO
   gINDEPENDENT_VOWEL_LY+aYyQAA+aI+aQ+aUzEzI+aIzOO_TYPE_ONE+hTWOzU+aK+aU+bVyRY+aYgLETTER_BAnCAoHApO
   oOnDAoOnHAnKAoHApOoOnLAoOnMOnNGOoNOoOoYOnPHApOoOnQAnROnSAoHAoSOnTAoHApOoOoTHAqOnVOnYOgSIGN_AHSDA
   mTTHACANmVAKRAHASANYAlBANTOCnRIYOOSANnTHAMASATmEYYALlCAMNUC_PII_KUUHmOENGlKAKABATmHANmOOMUUT
   lLEK_TOOlMUUSIKATOANlNIKAHITlPHNAEK_MUANlREAHMUKmOBATlSAMYOK_SANNYAlTOANDAKHIATmRIISAPlVIRIAM
   lYUUKALEAPINTUhYMBOL_BEI_KOETrROCoUON_KOETsROCnDAP_KOETrROCq-BEI_KOETvROCsUON_KOETwROCrMUOY_KOET
   wROCrPII_KOETvROCsRAM_KOETwROCnLEK_ATTAK_BEIyUONxMUOYxPIIyRAM+b-BEI+dUON+cMUOY+cPIIxSONnMUOY_KOET
   sROCnPATHAMASAToII_KOETrROCoRAM_KOETsROCr-BEI_KOETwROCtUON_KOETxROCsMUOY_KOETxROCsPII_KOETwROC
   nTUTEYASATgVOWEL_INHERENT_AAwQmSIGN_AAsEsIsUrErIsEsIrOEsOrUsAsUrYsAsYcOJKI_ABBREVIATION_SIGN
   hDANDAiOUBLE_DANDAoSECTION_MARKhLETTER_ApApIpUoBApBApHAoCApHAoDApDAqDAqHApHAoEoGApGApHAoHAoIoJA
   pJAoKApHAoLApLAoMAoNApGApNApYAoOoPApHAoRAoSAoTApHApTAqHAoUoVAoYAhSECTION_MARKiIGN_ANUSVARAmNUKTA
   mSHADDAnUKUNmVIRAMAhVOWEL_SIGN_AAtItUsEsItIsOsUhWORD_SEPARATORcUDAWADI_DIGIT_EIGHTqFIVErOURqNINE
   qONEqSEVENrIXqTHREErWOqZEROkLETTER_AsAsIsUrBAsBAsHArCAsHArDAsDAtDAtHAsHArErGAsGAsHArHArIsIrJAsHA
   sJArKAsHArLArMArNAsGAsNAsYArOrPAsHArRAsRArSAsHArTAsHAsTAtHArUsUrVArYAkSIGN_ANUSVARApNUKTApVIRAMA
   kVOWEL_SIGN_AAwIwUvEvIwIvOvUwUbIMONOcP_SIGNcSSe_MARKeING_CAT_FACE_WITH_CLOSED_EYESiFACE
   m_WITH_CLOSED_EYESsSMILING_EYEScTEcWIFRUITbNEELING_PERSONcOTbOALAcREAN_STANDARD_SYMBOLbRONOS
   aL_B_BAR_SYMBOLbAB_COATdELcCROSSE_STICK_AND_BALLcDDERdY_BEETLEcNGUAGE_TAGcO_CANCELLATION_MARK
   eDIGIT_EIGHTkFIVElOURkNINEkONEkSEVENlIXkTHREElWOkZEROeELLIPSISeHO_MOhNOeKO_LAeLETTER_BOlCOlDO
   lFO_FAYpONoSUNGoTAMlHO_SUNGoTAMlKHMU_GOqNYOnO_SUNGpTAMmOlLOn_LINGpOOTlMOlNGOmOmYOlOlPALI_BHAqCHA
   qDDAsHArHAqGHAqJHAqLLAqNNArYAqTTAsHAmHO_SUNGpTAMmOlROlSANSKRIT_SHAvSAmO_SUNGoTAMlTHO_SUNGpTAMmO
   lWOlYOeNIGGAHITAeSEMIVOWEL_SIGN_LOtNYOfIGN_PALI_VIRAMAeTONE_MAI_CATAWAnEKnTHOoIeVOWEL_SIGN_AqAqI
   qMqYpEqIpIqIpMAI_KANuONpOpUqUpYqYcRGE_BLUE_CIRCLElDIAMONDlSQUAREhROWN_CIRCLEmSQUAREgCIRCLE
   gDOWN_TACKgGREEN_CIRCLEmSQUAREgLEFT_TRIANGLE_OPERATORgONE_DOT_OVER_TWO_DOTS_PUNCTUATION
   kRING_OVER_TWO_RINGS_PUNCTUATIONhRANGE_CIRCLEnDIAMONDnSQUAREgPURPLE_CIRCLEnSQUAREgRED_CIRCLE
   kSQUAREgTRIPLE_VERTICAL_BAR_OPERATORhWO_DOTS_OVER_ONE_DOT_PUNCTUATION
   kRINGS_OVER_ONE_RING_PUNCTUATIONgUP_TACKgYELLOW_CIRCLEnSQUAREfR_THANl_OR_EQUAL_TOdI_SIGN
   cST_QUARTER_MOONr_SYMBOLsWITH_FACEcTIN_CAPITAL_LETTER_Aw_WITH_ACUTE+cBREVE+h_AND_ACUTE+mDOT_BELOW
   +mGRAVE+mHOOK_ABOVE+mTILDE+cCARON+dIRCUMFLEX+m_AND_ACUTE+rDOT_BELOW+rGRAVE+rHOOK_ABOVE+rTILDE
   +cDIAERESIS+l_AND_MACRON+dOT_ABOVE+l_AND_MACRON+gBELOW+eUBLE_GRAVE+cGRAVE+cHOOK_ABOVE
   +cINVERTED_BREVE+cMACRON+cOGONEK+cRING_ABOVE+m_AND_ACUTE+hBELOW+cSTROKE+cTILDEwAwEx_WITH_ACUTE
   +dMACRONwFRICAN_DwLPHAwNGLICANA_WwOwUwVx_WITH_HORIZONTAL_BARwYvBw_WITH_DOT_ABOVE+gBELOW+cFLOURISH
   +cHOOK+cLINE_BELOW+cSTROKE+cTOPBARwETAwROKEN_LvCw_WITH_ACUTE+cBAR+cCARON+dEDILLA+j_AND_ACUTE
   +dIRCUMFLEX+cDOT_ABOVE+cHOOK+cPALATAL_HOOK+cSTROKEwHIwLOSED_INSULAR_GwONwUATRILLO+e_WITH_COMMAvD
   w_WITH_CARON+dEDILLA+dIRCUMFLEX_BELOW+cDOT_ABOVE+gBELOW+cHOOK+cLINE_BELOW+cSHORT_STROKE_OVERLAY
   +dMALL_LETTER_Z+q_WITH_CARON+dTROKE+cTOPBARwZx_WITH_CARONvEw_WITH_ACUTE+cBREVE+cCARON+dEDILLA
   +j_AND_BREVE+dIRCUMFLEX+m_AND_ACUTE+rDOT_BELOW+rGRAVE+rHOOK_ABOVE+rTILDE+nBELOW+cDIAERESIS
   +dOT_ABOVE+gBELOW+eUBLE_GRAVE+cGRAVE+cHOOK_ABOVE+cINVERTED_BREVE+cMACRON+i_AND_ACUTE+nGRAVE
   +cOGONEK+cSTROKE+cTILDE+h_BELOWwGYPTOLOGICAL_AIN+kLEFwNGwSHwTxHwZHy_REVERSEDzWITH_CARONvF
   w_WITH_DOT_ABOVE+cHOOK+cSTROKEvGw_WITH_ACUTE+cBREVE+cCARON+dEDILLA+dIRCUMFLEX+cDOT_ABOVE+cHOOK
   +cMACRON+cOBLIQUE_STROKE+cSTROKEwAMMAwHAwLOTTAL_A+dI+dSTOP+dUvHw_WITH_BREVE_BELOW+cCARON+dEDILLA
   +dIRCUMFLEX+cDESCENDER+dIAERESIS+dOT_ABOVE+gBELOW+cHOOK+cSTROKEwALF_HwENGwWAIRvIw_WITH_ACUTE
   +cBREVE+cCARON+dIRCUMFLEX+cDIAERESIS+l_AND_ACUTE+dOT_ABOVE+gBELOW+eUBLE_GRAVE+cGRAVE+cHOOK_ABOVE
   +cINVERTED_BREVE+cMACRON+cOGONEK+cSTROKE+cTILDE+h_BELOWwNSULAR_D+dF+dG+dR+dS+dTwOTAwSvJ
   w_WITH_CIRCUMFLEX+dROSSED-TAIL+cSTROKEvKw_WITH_ACUTE+cCARON+dEDILLA+cDESCENDER+dIAGONAL_STROKE
   +dOT_BELOW+cHOOK+cLINE_BELOW+cOBLIQUE_STROKE+cSTROKE+i_AND_DIAGONAL_STROKEvLw_WITH_ACUTE+cBAR
   +dELT+cCARON+dEDILLA+dIRCUMFLEX_BELOW+cDOT_BELOW+l_AND_MACRON+eUBLE_BAR+cHIGH_STROKE+cLINE_BELOW
   +cMIDDLE_DOT+jTILDE+cSMALL_LETTER_J+dTROKEwJvMw_WITH_ACUTE+cDOT_ABOVE+gBELOW+cHOOKwIDDLE_SCOTS_S
   +b-WELSH_LL+iVvNw_WITH_ACUTE+cCARON+dEDILLA+dIRCUMFLEX_BELOW+cDESCENDER+dOT_ABOVE+gBELOW+cGRAVE
   +cLEFT_HOOK+dINE_BELOW+dONG_RIGHT_LEG+cOBLIQUE_STROKE+cSMALL_LETTER_J+cTILDEwJvOw_WITH_ACUTE
   +cBREVE+cCARON+dIRCUMFLEX+m_AND_ACUTE+rDOT_BELOW+rGRAVE+rHOOK_ABOVE+rTILDE+cDIAERESIS
   +l_AND_MACRON+dOT_ABOVE+l_AND_MACRON+gBELOW+eUBLE_ACUTE+jGRAVE+cGRAVE+cHOOK_ABOVE+eRN+g_AND_ACUTE
   +lDOT_BELOW+lGRAVE+lHOOK_ABOVE+lTILDE+cINVERTED_BREVE+cLONG_STROKE_OVERLAY+eOP+cMACRON
   +i_AND_ACUTE+nGRAVE+dIDDLE_TILDE+cOGONEK+i_AND_MACRON+cSTROKE+i_AND_ACUTE+cTILDE+h_AND_ACUTE
   +mDIAERESIS+mMACRONwIwLD_POLISH_OwMEGAwOwPEN_E+aOwUvPw_WITH_ACUTE+cDOT_ABOVE+cFLOURISH+cHOOK
   +cSQUIRREL_TAIL+dTROKE+i_THROUGH_DESCENDERvQw_WITH_DIAGONAL_STROKE+cSTROKE_THROUGH_DESCENDERvR
   w_ROTUNDAxWITH_ACUTE+cCARON+dEDILLA+cDOT_ABOVE+gBELOW+l_AND_MACRON+eUBLE_GRAVE+cINVERTED_BREVE
   +cLINE_BELOW+cOBLIQUE_STROKE+cSTROKE+cTAILwEVERSED_C_WITH_DOT+eE+eHALF_H+eOPEN_EwUM_ROTUNDAvS
   w_WITH_ACUTE+h_AND_DOT_ABOVE+cCARON+h_AND_DOT_ABOVE+dEDILLA+dIRCUMFLEX+dOMMA_BELOW+cDOT_ABOVE
   +gBELOW+l_AND_DOT_ABOVE+cHOOK+cOBLIQUE_STROKE+cSHORT_STROKE_OVERLAY+dWASH_TAILwALTILLOwCHWA
   xRIPT_GwHARP_SwIGMOID_SwMALL_CAPITAL_I+bQ_WITH_HOOK_TAILvTw_WITH_CARON+dEDILLA+dIRCUMFLEX_BELOW
   +dOMMA_BELOW+cDIAGONAL_STROKE+dOT_ABOVE+gBELOW+cHOOK+cLINE_BELOW+cRETROFLEX_HOOK+cSTROKEwHORN
   +a_WITH_STROKE+m_THROUGH_DESCENDERwONE_FIVE+aSIX+aTWOwRESILLOwURNED_A+dLPHA+cH+cINSULAR_G+cK+cL
   +cM+cT+cVwZvUw_BARxWITH_ACUTE+cBREVE+cCARON+dIRCUMFLEX+m_BELOW+cDIAERESIS+l_AND_ACUTE+qCARON
   +qGRAVE+qMACRON+mBELOW+dOT_BELOW+eUBLE_ACUTE+jGRAVE+cGRAVE+cHOOK_ABOVE+eRN+g_AND_ACUTE+lDOT_BELOW
   +lGRAVE+lHOOK_ABOVE+lTILDE+cINVERTED_BREVE+cMACRON+i_AND_DIAERESIS+cOGONEK+cRING_ABOVE+cSTROKE
   +cTILDE+h_AND_ACUTE+iBELOWwPSILONvVw_WITH_DIAGONAL_STROKE+dOT_BELOW+cHOOK+cTILDEwENDwISIGOTHIC_Z
   wOLAPUK_AE+dOE+dUEwYvWw_WITH_ACUTE+cCIRCUMFLEX+cDIAERESIS+dOT_ABOVE+gBELOW+cGRAVE+cHOOKwYNNvX
   w_WITH_DIAERESIS+dOT_ABOVEvYw_WITH_ACUTE+cCIRCUMFLEX+cDIAERESIS+dOT_ABOVE+gBELOW+cGRAVE+cHOOK
   +g_ABOVE+cLOOP+cMACRON+cSTROKE+cTILDEwOGHvZw_WITH_ACUTE+cCARON+dIRCUMFLEX+cDESCENDER+dOT_ABOVE
   +gBELOW+cHOOK+cLINE_BELOW+cPALATAL_HOOK+cSTROKE+dWASH_TAILpIGATURE_IJxOEhROSS
   gEPIGRAPHIC_LETTER_ARCHAIC_MyI_LONGAzNVERTED_MyREVERSED_F+hPySIDEWAYS_IgLETTER_AINoLVEOLAR_CLICK
   nBIDENTAL_PERCUSSIVEpLABIAL_CLICKwPERCUSSIVEnDENTAL_CLICKnGLOTTAL_STOPz_WITH_STROKE
   nINVERTED_GLOTTAL_STOP+i_WITH_CURL+oSTROKEnLATERAL_CLICKnPHARYNGEAL_VOICED_FRICATIVE
   nRETROFLEX_CLICK+c_WITH_RETROFLEX_HOOKpVERSED_ESH_LOOPwGLOTTAL_STOP_WITH_STROKEnSINOLOGICAL_DOT
   oMALL_CAPITAL_A+cE+bB+cARRED_B+bC+bD+bE+cTH+cZH+bF+bG+c_WITH_HOOK+bH+bI+cNVERTED_R+bJ+bK+bL
   +c_WITH_BELT+iSTROKE+bM+bN+bO+cE+cPEN_O+cU+bP+bQ+bR+c_WITH_RIGHT_LEG+cEVERSED_N+kR+cUM+bS+bT
   +cURNED_E+iG+iK+iM+iR+bU+bV+bW+bY+bZoTRETCHED_Cy_WITH_CURLnTWO_WITH_STROKE
   nVOICED_LARYNGEAL_SPIRANTnWYNNnYRgSMALL_CAPITAL_LETTER_I_WITH_STROKE+bU_WITH_STROKEmLETTER_A
   u_REVERSED-SCHWAvWITH_ACUTE+aBREVE+f_AND_ACUTE+kDOT_BELOW+kGRAVE+kHOOK_ABOVE+kTILDE+aCARON
   +bIRCUMFLEX+k_AND_ACUTE+pDOT_BELOW+pGRAVE+pHOOK_ABOVE+pTILDE+aDIAERESIS+j_AND_MACRON+bOT_ABOVE
   +j_AND_MACRON+eBELOW+cUBLE_GRAVE+aGRAVE+aHOOK_ABOVE+aINVERTED_BREVE+aMACRON+aOGONEK
   +aRETROFLEX_HOOK+bIGHT_HALF_RING+cNG_ABOVE+k_AND_ACUTE+fBELOW+aSTROKE+aTILDEuAuEv_WITH_ACUTE
   +bMACRONuLPHAy_WITH_RETROFLEX_HOOKuNGLICANA_WuOuUuVv_WITH_HORIZONTAL_BARuYtBu_WITH_DOT_ABOVE
   +eBELOW+aFLOURISH+aHOOK+aLINE_BELOW+aMIDDLE_TILDE+aPALATAL_HOOK+aSTROKE+aTOPBARuARRED_ALPHA+aE+aO
   vSELINE_ESHuETAuLACKLETTER_E+fO+g_WITH_STROKEuOTTOM_HALF_OuROKEN_LtCu_WITH_ACUTE+aBAR+aCARON
   +bEDILLA+h_AND_ACUTE+bIRCUMFLEX+bURL+aDOT_ABOVE+aHOOK+aPALATAL_HOOK+aRETROFLEX_HOOK+aSTROKEuHI
   w_WITH_LOW_LEFT_SERIF+gRIGHT_RINGuLOSED_INSULAR_G+aOMEGA+bPEN_E+aREVERSED_OPEN_EuONuUATRILLO
   +c_WITH_COMMAtDu_WITH_CARON+bEDILLA+bIRCUMFLEX_BELOW+bURL+aDOT_ABOVE+eBELOW+aHOOK+e_AND_TAIL
   +aLINE_BELOW+aMIDDLE_TILDE+aPALATAL_HOOK+aSHORT_STROKE_OVERLAY+bTROKE+aTAIL+bOPBARuB_DIGRAPHuELTA
   vZH_DIGRAPH+f_WITH_PALATAL_HOOK+lRETROFLEX_HOOKuOTLESS_I+bJ+c_WITH_STROKE+o_AND_HOOKvUBLE_R
   +b_WITH_CROSSED-TAIL+aTHORN+aWYNNuUMuZv_DIGRAPH+d_WITH_CURL+jRETROFLEX_HOOKwWITH_CARONtE
   u_WITH_ACUTE+aBREVE+aCARON+bEDILLA+h_AND_BREVE+bIRCUMFLEX+k_AND_ACUTE+pDOT_BELOW+pGRAVE
   +pHOOK_ABOVE+pTILDE+lBELOW+aDIAERESIS+bOT_ABOVE+eBELOW+cUBLE_GRAVE+aFLOURISH+aGRAVE+aHOOK_ABOVE
   +aINVERTED_BREVE+aMACRON+g_AND_ACUTE+lGRAVE+aNOTCH+aOGONEK+aRETROFLEX_HOOK+aSTROKE+aTILDE+f_BELOW
   uGYPTOLOGICAL_AIN+iLEFuNGw_WITH_CROSSED-TAIL+cPALATAL_HOOKuSHw_WITH_CURL+cDOUBLE_BAR+m_AND_CURL
   +cPALATAL_HOOK+cRETROFLEX_HOOKuTvHuZHw_REVERSEDxWITH_CARON+dURL+cPALATAL_HOOK+cRETROFLEX_HOOK
   +cTAILtFu_WITH_DOT_ABOVE+aHOOK+aMIDDLE_TILDE+aPALATAL_HOOK+aSTROKEuENG_DIGRAPH+f_WITH_TRILLtG
   u_WITH_ACUTE+aBREVE+aCARON+bEDILLA+bIRCUMFLEX+aDOT_ABOVE+aHOOK+aMACRON+aOBLIQUE_STROKE
   +aPALATAL_HOOK+aSTROKEuAMMAuHAuLOTTAL_A+bI+bSTOP+bUtHu_WITH_BREVE_BELOW+aCARON+bEDILLA+bIRCUMFLEX
   +aDESCENDER+bIAERESIS+bOT_ABOVE+eBELOW+aHOOK+aLINE_BELOW+aPALATAL_HOOK+aSTROKEuALF_HuENG
   x_WITH_HOOKuVtIu_WITH_ACUTE+aBREVE+aCARON+bIRCUMFLEX+aDIAERESIS+j_AND_ACUTE+bOT_BELOW+cUBLE_GRAVE
   +aGRAVE+aHOOK_ABOVE+aINVERTED_BREVE+aMACRON+aOGONEK+aRETROFLEX_HOOK+aSTROKE+g_AND_RETROFLEX_HOOK
   +aTILDE+f_BELOWuNSULAR_D+bF+bG+bR+bS+bTvVERTED_ALPHA+cOEuOTAx_WITH_STROKEwIFIED_EuStJu_WITH_CARON
   +bIRCUMFLEX+bROSSED-TAIL+aSTROKEtKu_WITH_ACUTE+aCARON+bEDILLA+aDESCENDER+bIAGONAL_STROKE
   +bOT_BELOW+aHOOK+aLINE_BELOW+aOBLIQUE_STROKE+aPALATAL_HOOK+aSTROKE+g_AND_DIAGONAL_STROKEuRAtL
   u_WITH_ACUTE+aBAR+bELT+e_AND_PALATAL_HOOK+aCARON+bEDILLA+bIRCUMFLEX_BELOW+bURL+aDOT_BELOW
   +j_AND_MACRON+cUBLE_BAR+hMIDDLE_TILDE+aFISHHOOK+aHIGH_STROKE+aINVERTED_LAZY_S+aLINE_BELOW
   +aMIDDLE_DOT+hRING+hTILDE+aPALATAL_HOOK+aRETROFLEX_HOOK+o_AND_BELT+aSTROKEuAMBDA_WITH_STROKE
   uENIS_FvZHx_WITH_RETROFLEX_HOOKuJuONG_Sz_WITH_DIAGONAL_STROKE+gOT_ABOVE+fHIGH_STROKEuS_DIGRAPHuUM
   uZ_DIGRAPHtMu_WITH_ACUTE+aCROSSED-TAIL+aDOT_ABOVE+eBELOW+aHOOK+aMIDDLE_TILDE+aPALATAL_HOOK
   uIDDLE_SCOTS_Sz-WELSH_LL+gVuUMtNu_PRECEDED_BY_APOSTROPHEvWITH_ACUTE+aCARON+bEDILLA
   +bIRCUMFLEX_BELOW+bROSSED-TAIL+bURL+aDESCENDER+bOT_ABOVE+eBELOW+aGRAVE+aLEFT_HOOK+bINE_BELOW
   +bONG_RIGHT_LEG+aMIDDLE_TILDE+aOBLIQUE_STROKE+aPALATAL_HOOK+aRETROFLEX_HOOK+aTILDEuJuUMtO
   u_WITH_ACUTE+aBREVE+aCARON+bIRCUMFLEX+k_AND_ACUTE+pDOT_BELOW+pGRAVE+pHOOK_ABOVE+pTILDE+aDIAERESIS
   +j_AND_MACRON+bOT_ABOVE+j_AND_MACRON+eBELOW+cUBLE_ACUTE+hGRAVE+aGRAVE+aHOOK_ABOVE+cRN+e_AND_ACUTE
   +jDOT_BELOW+jGRAVE+jHOOK_ABOVE+jTILDE+aINVERTED_BREVE+aLONG_STROKE_OVERLAY+cOP+cW_RING_INSIDE
   +aMACRON+g_AND_ACUTE+lGRAVE+aOGONEK+g_AND_MACRON+aRETROFLEX_HOOK+aSTROKE+g_AND_ACUTE+aTILDE
   +f_AND_ACUTE+kDIAERESIS+kMACRONuIuLD_POLISH_OuMEGAuOuPEN_Ez_WITH_RETROFLEX_HOOKyO
   z_WITH_RETROFLEX_HOOK+fSTROKEzEuUtPu_WITH_ACUTE+aDOT_ABOVE+aFLOURISH+aHOOK+aMIDDLE_TILDE
   +aPALATAL_HOOK+aSQUIRREL_TAIL+bTROKE+g_THROUGH_DESCENDERuHItQu_WITH_DIAGONAL_STROKE+aHOOK+e_TAIL
   +aSTROKE_THROUGH_DESCENDERuP_DIGRAPHtRu_ROTUNDAvWITH_ACUTE+aCARON+bEDILLA+bROSSED-TAIL+aDOT_ABOVE
   +eBELOW+j_AND_MACRON+cUBLE_GRAVE+aFISHHOOK+i_AND_MIDDLE_TILDE+nPALATAL_HOOK+aINVERTED_BREVE
   +aLINE_BELOW+bONG_LEG+aMIDDLE_TILDE+aOBLIQUE_STROKE+aPALATAL_HOOK+aSTROKE+aTAILzOUT_HANDLE
   uAMS_HORNuEVERSED_C+d_WITH_DOT+cE+dNG+cHALF_H+cK+cOPEN_E+i_WITH_HOOK+oRETROFLEX_HOOK
   +cR_WITH_FISHHOOK+cSCRIPT_GuUMw_ROTUNDAtSu_WITH_ACUTE+f_AND_DOT_ABOVE+aCARON+f_AND_DOT_ABOVE
   +bEDILLA+bIRCUMFLEX+bOMMA_BELOW+bURL+aDOT_ABOVE+eBELOW+j_AND_DOT_ABOVE+aHOOK+aMIDDLE_TILDE
   +aOBLIQUE_STROKE+aPALATAL_HOOK+aSHORT_STROKE_OVERLAY+bWASH_TAILuAKHA_YATvLTILLOuCHWAy_WITH_HOOK
   +eRETROFLEX_HOOKvRIPT_G+b_WITH_CROSSED-TAIL+aR+b_WITH_RINGuHARP_SuIDEWAYS_DIAERESIZED_U+cO
   +d_WITH_STROKE+dPEN_O+cTURNED_M+cUvGMOID_SuQUAT_REVERSED_ESHuTIRRUP_RtTu_WITH_CARON+bEDILLA
   +bIRCUMFLEX_BELOW+bOMMA_BELOW+bURL+aDIAERESIS+dGONAL_STROKE+bOT_ABOVE+eBELOW+aHOOK
   +e_AND_RETROFLEX_HOOK+aLINE_BELOW+aMIDDLE_TILDE+aPALATAL_HOOK+aRETROFLEX_HOOK+aSTROKEuAILLESS_PHI
   uC_DIGRAPH_WITH_CURLuESH_DIGRAPH+f_WITH_PALATAL_HOOK+lRETROFLEX_HOOKuH_WITH_STRIKETHROUGHvORN
   y_WITH_STROKE+k_THROUGH_DESCENDERuONE_FIVEySIXyTWOvP_HALF_OuRESILLOuS_DIGRAPH
   +d_WITH_RETROFLEX_HOOKuUMvRNED_A+bE+bLPHA+aDELTA+aE+aG+aH+b_WITH_FISHHOOK+p_AND_TAIL+aI+bNSULAR_G
   +aK+aL+aM+b_WITH_LONG_LEG+aO_OPEN-O+i_WITH_STROKE+bE+c_WITH_HORIZONTAL_STROKE+iSTROKE+bPEN_E+aR
   +b_WITH_HOOK+hLONG_LEG+p_AND_RETROFLEX_HOOK+hMIDDLE_TILDE+hPALATAL_HOOK+hTAIL+aT+b_WITH_CURL+aUI
   +aV+aW+aY+b_WITH_BELTuZtUu_BARy_WITH_SHORT_RIGHT_LEGvWITH_ACUTE+aBREVE+aCARON+bIRCUMFLEX+k_BELOW
   +aDIAERESIS+j_AND_ACUTE+oCARON+oGRAVE+oMACRON+kBELOW+bOT_BELOW+cUBLE_ACUTE+hGRAVE+aGRAVE
   +aHOOK_ABOVE+cRN+e_AND_ACUTE+jDOT_BELOW+jGRAVE+jHOOK_ABOVE+jTILDE+aINVERTED_BREVE+aLEFT_HOOK
   +aMACRON+g_AND_DIAERESIS+aOGONEK+aRETROFLEX_HOOK+bING_ABOVE+aSHORT_RIGHT_LEG+bTROKE+aTILDE
   +f_AND_ACUTE+gBELOWuEuIuMuOuPSILON+a_WITH_STROKEtVu_WITH_CURL+aDIAGONAL_STROKE+bOT_BELOW+aHOOK
   +aPALATAL_HOOK+aRIGHT_HOOK+aTILDEuENDuISIGOTHIC_ZuOLAPUK_AE+bOE+bUEuYtWu_WITH_ACUTE+aCIRCUMFLEX
   +aDIAERESIS+bOT_ABOVE+eBELOW+aGRAVE+aHOOK+aRING_ABOVEtXu_WITH_DIAERESIS+bOT_ABOVE+aLONG_LEFT_LEG
   +n_AND_LOW_RIGHT_RING+oWITH_SERIF+cW_RIGHT_RING+aPALATAL_HOOKtYu_WITH_ACUTE+aCIRCUMFLEX
   +aDIAERESIS+bOT_ABOVE+eBELOW+aGRAVE+aHOOK+e_ABOVE+aLOOP+aMACRON+aRING_ABOVE+aSHORT_RIGHT_LEG
   +bTROKE+aTILDEuOGHtZu_WITH_ACUTE+aCARON+bIRCUMFLEX+bURL+aDESCENDER+bOT_ABOVE+eBELOW+aHOOK
   +aLINE_BELOW+aMIDDLE_TILDE+aPALATAL_HOOK+aRETROFLEX_HOOK+aSTROKE+bWASH_TAILnIGATURE_FFxIxLwIwLvIJ
   vLONG_S_TvOEvSThUBSCRIPT_SMALL_LETTER_A+dE+dH+dI+dJ+dK+dL+dM+dN+dO+dP+dR+dS+eCHWA+dT+dU+dV+dX
   bEAF_FLUTTERING_IN_WINDeY_GREENcDGERcFT_AND_LOWER_AND_RIGHT_TRIANGULAR_THREE_QUARTERS_BLOCK
   pONE_EIGHTH_BLOCKjRIGHT_DOUBLE_TURNSTILEpTACKqRIANGULAR_HALF_BLOCK
   jUPPER_AND_RIGHT_TRIANGULAR_THREE_QUARTERS_BLOCKpONE_EIGHTH_BLOCKhGER_BUBBLEiLE_BRACKETs_WITH_DOT
   gRC_LESS-THAN_BRACKEThROW_WITH_CIRCLED_PLUSqSMALL_CIRCLEfBARB_DOWN_RIGHT_BARB_DOWN_HARPOON
   +aUP_HARPOONkUP_RIGHT_BARB_DOWN_HARPOONyUP_HARPOONgLACK_LENTICULAR_BRACKETlTORTOISE_SHELL_BRACKET
   fCEILINGgLOSED_ENTRYgORNER_BRACKETgURLY_BRACKETs_LOWER_HOOKtMIDDLE_PIECEtUPPER_HOOK
   fDOTTED_SUBSTITUTION_BRACKEThUBLE_ANGLE_BRACKETmPARENTHESISmQUOTATION_MARKmWIGGLY_FENCEfFISH_TAIL
   hVE_EIGHTHS_BLOCKgLOORfHALF_BLACK_CIRCLEqSTARmOCKkCIRCLEq_WITH_DOTwFOUR_DOTSwTHREE_DOTSxWO_DOTS
   kFOLDERkINVERSE_MEDIUM_SHADE_AND_RIGHT_HALF_BLOCKkMEDIUM_SHADEkRUNNING_MANhND_TELEPHONE_RECEIVER
   fLOW_PARAPHRASE_BRACKETgUGGAGEfMULTIMAPfNORMAL_FACTOR_SEMIDIRECT_PRODUCTfONE_EIGHTH_BLOCK
   jQUARTER_BLOCKgUTER_JOINfPARENTHESISq_EXTENSIONrLOWER_HOOKrUPPER_HOOKfRAISED_OMISSION_BRACKET
   gIGHT_ARROWq_THROUGH_SMALL_CIRCLErWITH_DOUBLE_VERTICAL_STROKEwSTROKEwVERTICAL_STROKElBLACK_ARROW
   lDOUBLE_ARROWx_WITH_STROKE+dVERTICAL_STROKElOPEN-HEADED_ARROWlSANS-SERIF_ARROW
   lTRIANGLE-HEADED_ARROWlWAVE_ARROWmHITE_ARROWfS-SHAPED_BAG_DELIMITERgEMIDIRECT_PRODUCT
   hVEN_EIGHTHS_BLOCKgIDEWAYS_U_BRACKEThNGLE_QUOTATION_MARKgPEECH_BUBBLEgQUARE_BRACKETt_EXTENSION
   uLOWER_CORNERuUPPER_CORNERuWITH_DOUBLE_STROKEzQUILLzSTROKEzTICK_IN_BOTTOM_CORNER+hTOP_CORNER
   zUNDERBARgUBSTITUTION_BRACKETfTACKgHIRD_WHITE_RIGHT_POINTING_INDEXhOUGHT_BUBBLEhREE_EIGHTHS_BLOCK
   lQUARTERS_BLOCKgORTOISE_SHELL_BRACKETgRANSPOSITION_BRACKEThIANGLE_BESIDE_VERTICAL_BAR
   lULAR_ONE_QUARTER_BLOCKfVERTICAL_BAR_WITH_QUILLpOX_LINEfWHITE_CORNER_BRACKETmURLY_BRACKET
   lLENTICULAR_BRACKETlPARENTHESISlSQUARE_BRACKETlTORTOISE_SHELL_BRACKETgIGGLY_FENCEgRITING_HAND
   e-FACING_ARMENIAN_ETERNITY_SIGNmFISTmSVASTI_SIGNx_WITH_DOTSfHANDED_INTERLACED_PENTAGRAM
   fPOINTING_ANGLE_BRACKEToCURVED_ANGLE_BRACKEToDOUBLE_ANGLE_QUOTATION_MARKoMAGNIFYING_GLASS
   fSHADED_WHITE_RIGHTWARDS_ARROWgIDE_ARC_ANTICLOCKWISE_ARROWfTO-RIGHT_EMBEDDINGoISOLATEoMARK
   oOVERRIDEeWARDS_ARROWp_ABOVE_ALMOST_EQUAL_TOwREVERSE_ALMOST_EQUAL_TO+eTILDE_OPERATOR
   wSHORT_RIGHTWARDS_ARROWwTILDE_OPERATORrND_UPPER_AND_LOWER_ONE_EIGHTH_BLOCKqFROM_BAR
   y_TO_BLACK_DIAMONDqOVER_RIGHTWARDS_ARROWqTHROUGH_LESS-THANySUBSETyXrO_BAR
   w_OVER_RIGHTWARDS_ARROW_TO_BARuLACK_DIAMONDqWITH_DOTTED_STEMxUBLE_VERTICAL_STROKE
   vEQUILATERAL_ARROWHEADvHOOKvLARGE_TRIANGLE_ARROWHEADwOOPvMEDIUM_TRIANGLE_ARROWHEADvNOTCHED_TAIL
   vPLUS_BELOWvSMALL_EQUILATERAL_ARROWHEAD+bTRIANGLE_ARROWHEADwTROKEvTAIL
   z_WITH_DOUBLE_VERTICAL_STROKE+fVERTICAL_STROKEwIP_DOWNWARDSzUPWARDSvVERTICAL_STROKEp-TAIL
   kBACK-TILTED_SHADOWED_WHITE_ARROWlLACK_ARROWqCIRCLED_WHITE_ARROWlOTTOM-SHADED_WHITE_ARROW
   kCOMPRESSED_ARROWkDASHED_ARROWlOUBLE_ARROWw_FROM_BARxWITH_STROKE+cVERTICAL_STROKEw-TAIL
   rDASH_ARROWkFINGER-POST_ARROWlRONT-TILTED_SHADOWED_WHITE_ARROWkHANDmRPOON_OVER_RIGHTWARDS_HARPOON
   sWITH_BARB_DOWN_ABOVE_RIGHTWARDS_HARPOON_WITH_BARB_DOWN+hBELOW_LONG_DASH+hFROM_BAR+hTO_BAR+gWARDS
   +cUP_ABOVE_LEFTWARDS_HARPOON_WITH_BARB_DOWN+mONG_DASH+lRIGHTWARDS_HARPOON_WITH_BARB_UP+fFROM_BAR
   +fTO_BAR+eWARDSlEAVY_ARROWqCOMPRESSED_ARROWkLEFT-SHADED_WHITE_ARROWkOPEN-HEADED_ARROW
   kPAIRED_ARROWSkQUADRUPLE_ARROWkRIGHT-SHADED_WHITE_ARROWlOCKETkSANS-SERIF_ARROWlQUARED_ARROW
   nIGGLE_ARROWkTOP_SHADED_WHITE_ARROWlRIANGLE_ARROWHEADs-HEADED_ARROW
   +f_OVER_RIGHTWARDS_TRIANGLE-HEADED_ARROW+gTO_BAR+gWITH_BOLD_SHAFT+lDOUBLE_HORIZONTAL_STROKE
   +sVERTICAL_STROKE+lHEAVY_SHAFT+lLONG_TIP_DOWNWARDS+uUPWARDS+lMEDIUM_SHAFT+lNARROW_SHAFT
   +lVERY_HEAVY_SHAFT+aDASHED_ARROW+aPAIRED_ARROWSnPLE_ARROWrDASH_ARROWlWO_HEADED_ARROW
   n-HEADED_ARROW_FROM_BAR+bWITH_DOUBLE_VERTICAL_STROKE+gTAIL+k_WITH_DOUBLE_VERTICAL_STROKE
   +qVERTICAL_STROKE+hRIANGLE_ARROWHEADS+gVERTICAL_STROKEvTRIPLE_DASH_ARROWkWAVE_ARROWlHITE_ARROW
   v_WITHIN_TRIANGLE_ARROWHEADcGcMONcOdPARDcPCHA_CONSONANT_SIGN_KxANGwLwMwNxYIN-DOwPwRwThDIGIT_EIGHT
   nFIVEoOURnNINEnONEnSEVENoIXnTHREEoWOnZEROhLETTER_AoBApLAoCApHAoDApDApZAoFApLAoGApLAoHApLAoJAoKA
   pHApLAoLAoMApLAoNApGApYAoPApHApLAoRAoSApHAoTApHApSAqHApTAqHAoVAoWAoYAhPUNCTUATION_CER-WA
   tNYET_THYOOM_TA-ROLtTA-ROLuSHOOKz_CER-WAhSIGN_NUKTAmRANiUBJOINED_LETTER_RAyYAhVOWEL_SIGN_AAsEsIsO
   tOsUtUcSS-THAN_ABOVE_DOUBLE-LINE_EQUAL_ABOVE_GREATER-THANqGREATER-THAN_ABOVE_DOUBLE-LINE_EQUAL
   qLEFTWARDS_ARROWqSIMILAR_ABOVE_GREATER-THANyOR_EQUAL
   rLANTED_EQUAL_ABOVE_GREATER-THAN_ABOVE_SLANTED_EQUALlND_NOT_APPROXIMATEoSINGLE-LINE_NOT_EQUAL_TO
   kBUT_NOT_EQUAL_TOvIVALENT_TOkCLOSED_BY_CURVEz_ABOVE_SLANTED_EQUALkEQUAL_TO_OR_GREATER-THAN
   kOR_APPROXIMATEnEQUAL_TOqIVALENT_TOnGREATER-THANnSLANTED_EQUAL_TO+d_WITH_DOT_ABOVE+s_RIGHT
   +nINSIDElVER_EQUAL_TOkSIGNkWITH_CIRCLE_INSIDEpDOTpQUESTION_MARK_ABOVEcVEL_SLIDERbFbIBRA
   cGATURE_OPEN_ET_ORNAMENTdHT_CHECK_MARKgEIGHT_SPOKED_ASTERISKgFIVE_POINTED_BLACK_STAR
   lSPOKED_ASTERISKhOUR_POINTED_BLACK_CUSPzSTARgGREEK_CROSSgLEFT_TORTOISE_SHELL_BRACKET_ORNAMENT
   gRAILhIGHT_TORTOISE_SHELL_BRACKET_ORNAMENTgSALTIREhHADEhIX_SPOKED_ASTERISK
   gTHREE_POINTED_BLACK_STARhWELVE_POINTED_BLACK_STARgVERTICAL_BARgWHITE_SQUAREfNINGj_MOODo_BUBBLE
   cMBU_DIGIT_EIGHTmFIVEnOURmNINEmONEmSEVENnIXmTHREEnWOmZEROgEXCLAMATION_MARKgLETTER_BAoHAnCAoHAnDA
   oHAnGAoHAoYANnHAnJAoHAnKAoHAnLAnMAnNAoGAnPAoHAnRAnSAoHAoSAnTAoHAoRAnWAnYApNgQUESTION_MARK
   gSIGN_KEMPHRENGlLOOlMUKPHRENGlSA-IhMALL_LETTER_ANUSVARAtKAtLAtMAtNAuGAtPAtRAtTA
   hUBJOINED_LETTER_RAxWAxYAgVOWEL_SIGN_AsIsUrEsErIrOsOrUl-CARRIER_LETTERdITED_LIABILITY_SIGN
   cNE_FEEDfINTEGRATION_NOT_INCLUDING_THE_POLErWITH_RECTANGULAR_PATH_AROUND_POLE
   wSEMICIRCULAR_PATH_AROUND_POLEfSEPARATORfTABULATIONp_SETeAR_A_SIGN_A028Bp100-102q20Bq31Cp301r2r3
   r4r5r6r7r8r9AsBsCq10r1r2r3AsBsCr4r5r6r7r8r9q20r1r2r3r4r5r6r7r8r9q30r1r2r3r4r5r6r7r8r9q40r1r2r3r4
   r5r6r7r8r9q50r1r2r3r4r5r6r7r8r9q60r1r2r3r4r5r6r7r8r9q70r1p400-VASr1-VASr2-VASr3-VASr4-VASr5-VAS
   r6-VASr7-VASr8-VASr9-VASq10-VASr1-VASr2-VASr3-VASr4-VASr5-VASr6-VASr7-VASr8-VASp501r2r3r4r5r6r8r9
   q10r1r2r3r5r6q20r1r3r4r5r6r7r8r9q30r1r2r4r5r6r7r8r9q40r1r2r5r7r8r9q50r1r2r3r4r5r6r7r9q63r4r5r6r8
   r9q70r1r2r3r4r5r6r7r8r9q80r1r2r3r4r5r6r7r8r9q91r2r4r5r6r8p600r1r2r3r4r6r8r9q10r1r2r3r4r5r6r7r8r9
   q20r1r2r3r4r6r7r8r9q34r7r8q40r2r3r4r5r6r8r9q51r2r3r4r5r6r7r8r9q60r1r2r3r4p701_Ar2_Br3_Dr4_Er5_F
   r6_Hr7_Jr8_Kr9_Ls-2_L2t3_L3t4_L4t6_L6q10_Wr1_Xr2_Yr3_OMEGAr4_ABBr5_BBr7_DDq26_EYYYq32_JEp800r1r2
   r3r4r5r6r7pB001s2s3s4s5s6s7s8s9r10s1s3s6s7r20s1tFtMs2tFtMs3tMs4s6s7s8s9r30s1s4s7s8s9r40s1s4s5s6s7
   s8s9r50s1s3s4s5s6s7s8s9r60s1s5s6s7s9r70s3s4s6s7s8s9r80s1s2s5s6s7q118r20s2s3r31AtBr64r71r80s8r91
   hB_IDEOGRAM_B100_MANv2_WOMANv4_DEERv5_EQUIDwF_MAREwM_STALLIONv6F_EWEwM_RAMv7F_SHE-GOATwM_HE-GOAT
   v8F_SOWwM_BOARv9F_COWwM_BULLu20_WHEATv1_BARLEYv2_OLIVEv3_SPICEv5_CYPERUSu30_OILv1_WINEv2
   u40_BRONZEv1_GOLDv2v5_WOOLv6u50v1_HORNv2v3v4v7v8v9_CLOTHu60v1v2_GARMENTv3_ARMOURv4v5v6v7v8v9u70v1
   v2v3_MONTHv4v6_TREEv7v8v9u80v1v2v3v4v5v9u90v1_HELMETt220_FOOTSTOOLv5_BATHTUBu30_SPEARv1_ARROWv2
   v3_SWORDv4v6u40_WHEELED_CHARIOTv1_CHARIOTv2_CHARIOT_FRAMEv3_WHEELv5v6v8v9u51v2v3v4_DARTv5v6v7v8v9
   sVESSEL_B155+a200+c1+c2+c3+c4+c5+c6+c7+c8+c9+b10+c1+c2+c3+c4+c5+c6+c7+c8+c9+b21+c2+c6+c7+c8+c9
   +b50+a305jMONOGRAM_B127_KAPOv8_KANAKOu33_AREPAv5_MERIu56_TURO2t247_DIPTEjSYLLABLE_B001_DAv2_RO
   v3_PAv4_TEv5_TOv6_NAv7_DIv8_Av9_SEu10_Uv1_POv2_SOv3_MEv4_DOv5_MOv6_QAv7_ZAu20_ZOv1_QIv3_MUv4_NE
   v5_A2v6_RUv7_REv8_Iv9_PU2u30_NIv1_SAv2_QOv3_RA3v6_JOv7_TIv8_Ev9_PIu40_WIv1_SIv2_WOv3_A3v4_KEv5_DE
   v6_JEv8_NWAu50_PUv1_DUv2_NOv3_RIv4_WAv5_NUv7_JAv8_SUv9_TAu60_RAv1_Ov2_PTEv5_JUv6_TA2v7_KIv8_RO2
   v9_TUu70_KOv1_DWEv2_PEv3_MIv4_ZEv5_WEv6_RA2v7_KAv8_QEu80_MAv1_KUv5_AUv7_TWEu90_DWOv1_TWO
   lMBOL_B018t9s22s34s47t9s56s63t4s79s82t3t6t9dK_SYMBOLeED_PAPERCLIPScON_FACEcPSeTICKcRA_SIGN
   cSU_LETTER_AnEmBAmCAnHAmDAnZAmEnUmFAmGAnHAmHAnHAmImJAmKAnHAmLAmMAmNAnGAmOnEmPAnHAmSAnHAmTAnHA
   nONE_MYA_BOvCYAvJEUvNAvTIrNA_POnSAoHAmUnEnHmWAmXAmYAnHAmZAnHAfPUNCTUATION_COMMArFULL_STOP
   cVRE_TOURNOIS_SIGNcZARDbLAMAbOBSTERcCKe_WITH_INK_PENeING-SHIFT_ONEoZEROcGICAL_ANDl_WITH_DOT_ABOVE
   tUBLE_OVERBARyUNDERBARrHORIZONTAL_DASHrMIDDLE_STEMrUNDERBARiORk_OVERLAPPING_LOGICAL_AND
   lWITH_DOT_ABOVEsUBLE_OVERBARxUNDERBARqHORIZONTAL_DASHqMIDDLE_STEMcLLIPOP
   cNG_DASH_FROM_LEFT_MEMBER_OF_DOUBLE_VERTICALgIVISIONgRUMfLEFT_RIGHT_ARROWqDOUBLE_ARROWkTACK
   jWARDS_ARROWu_FROM_BARpDOUBLE_ARROW+b_FROM_BARpSQUIGGLE_ARROWfRIGHT_TACKkWARDS_ARROWv_FROM_BAR
   qDOUBLE_ARROW+c_FROM_BARqSQUIGGLE_ARROWcTION_BOTTLEdUScUDLY_CRYING_FACEcVE_HOTELfLETTER
   cW_ASTERISKeBATTERYfRIGHTNESS_SYMBOLeDOUBLE_PRIME_QUOTATION_MARKeKAVYKAk_WITH_DOTeLINE
   dER_BLADE_SCISSORSgFIVE_EIGHTHS_BLOCKgHALF_BLOCKlCIRCLElINVERSE_WHITE_CIRCLElMEDIUM_SHADE
   gLEFT_BALLPOINT_PENmLOCK_DIAGONAL_LOWER_MIDDLE_LEFT_TO_LOWER_CENTRE++bRIGHT
   +aUPPER_CENTRE_TO_LOWER_MIDDLE_RIGHT+wRIGHT+qUPPER_MIDDLE_RIGHT+gLEFT_TO_LOWER_CENTRE
   +uMIDDLE_RIGHT+oUPPER_MIDDLE_RIGHT+gMIDDLE_LEFT_TO_LOWER_CENTRE++bMIDDLE_RIGHT++bRIGHTlCRAYON
   lFOUNTAIN_PENlPAINTBRUSHmENCILlQUADRANT_CIRCULAR_ARClSEMICIRCULAR_ANTICLOCKWISE_ARROWlTRIANGLE
   rULAR_MEDIUM_SHADEgONE_EIGHTH_BLOCKkQUARTER_BLOCK
   gRIGHT_BLOCK_DIAGONAL_LOWER_CENTRE_TO_LOWER_MIDDLE_RIGHT+rUPPER_MIDDLE_RIGHT+xRIGHT
   +hLEFT_TO_LOWER_MIDDLE_RIGHT+pUPPER_CENTRE+vMIDDLE_RIGHT+hMIDDLE_LEFT_TO_UPPER_CENTRE
   ++cMIDDLE_RIGHT++cRIGHT+bUPPER_MIDDLE_LEFT_TO_UPPER_CENTRE++cRIGHTmCORNER_WITH_DOT
   mDROP-SHADOWED_WHITE_SQUAREmPENCILmQUADRANT_CIRCULAR_ARCmSEMICIRCULAR_CLOCKWISE_ARROW
   nHADOWED_WHITE_CIRCLE+bSQUAREmTRIANGLEsULAR_MEDIUM_SHADEgSEVEN_EIGHTHS_BLOCKgTHREE_EIGHTHS_BLOCK
   mQUARTERS_BLOCKhRIANGULAR_ONE_QUARTER_BLOCKcZENGEh_DIVIDED_BY_HORIZONTAL_RULEbREcIcMcObUGGAGEcNGS
   bYCIAN_LETTER_ApNoBpHoDoEpNoGoHoIoJoKpKoLoMpMoNpNoPoQoRoSoTpHpToUoWoXoZcDIAN_LETTER_ApNoBoCoDoEpN
   oFoGoIoKoLpYoMoNpNoOoQoRoSpSoTpToUoVoYhTRIANGULAR_MARKcING_FACEaMACRONcGEdIC_WANDdNET
   cHAJANI_ABBREVIATION_SIGNjLETTER_AqBArHAqCArHAqDArDAsHArHAqEqGArHAqHAqIqJArHAqKArHAqLAqMAqNArNA
   rYAqOqPArHAqRArRAqSAqTArHArTAsHAqUqVAkIGATURE_SHRIjSECTION_MARKkIGN_NUKTAdJONG_TILE_AUTUMNnBACK
   pMBOOnCHRYSANTHEMUMnEAST_WINDoIGHT_OF_BAMBOOSwCHARACTERSxIRCLESnFIVE_OF_BAMBOOSvCHARACTERSwIRCLES
   oOUR_OF_BAMBOOSvCHARACTERSwIRCLESnGREEN_DRAGONnJOKERnNINE_OF_BAMBOOSvCHARACTERSwIRCLESoORTH_WIND
   nONE_OF_BAMBOOSuCHARACTERSvIRCLESoRCHIDnPLUMnRED_DRAGONnSEVEN_OF_BAMBOOSwCHARACTERSxIRCLES
   oIX_OF_BAMBOOSuCHARACTERSvIRCLESoOUTH_WINDoPRINGoUMMERnTHREE_OF_BAMBOOSwCHARACTERSxIRCLES
   oWO_OF_BAMBOOSuCHARACTERSvIRCLESnWEST_WINDoHITE_DRAGONoINTERcKASAR_ANGKAiEND_OF_SECTIONiLETTER_A
   pBApCApDApGApJApKApLApMApNAqGAqYApPApRApSApTApVApYAiPASSIMBANGiVOWEL_SIGN_EtItOtU
   cLAYALAM_AU_LENGTH_MARKkDATE_MARKlIGIT_EIGHTqFIVErOURqNINEqONEqSEVENrIXqTHREErWOqZERO
   kFRACTION_ONE_EIGHTHxFIFTHyORTIETHxHALFxONE-HUNDRED-AND-SIXTIETHxQUARTERxSIXTEENTHxTENTHyWENTIETH
   tTHREE_EIGHTIETHSzQUARTERSzSIXTEENTHSzTWENTIETHSkLETTER_AsAsIsRCHAIC_IIsUrBAsHArCAsHAtILLU_KyLzL
   +aLyMyNzNyRRyYrDAsDAtHAsHAsOT_REPHrEsErGAsHArHArIsIrJAsHArKAsHArLAsLAtLArMArNAsGAsNAtNAsYArOsOrPA
   sHArRAsRArSAsHAsSArTAsHAsTAtHAtTArUsUrVAsEDIC_ANUSVARAsOCALIC_L+aLzR+aRrYAkNUMBER_ONE_HUNDRED
   vTHOUSANDrTENkSIGN_ANUSVARAqVAGRAHApCANDRABINDUqIRCULAR_VIRAMAqOMBINING_ANUSVARA_ABOVEpPARA
   pVERTICAL_BAR_VIRAMAqIRAMArSARGAkVOWEL_SIGN_AAwIwUvEwEvIwIvOwOvUwUvVOCALIC_L+eL+dR+eR
   dE_AND_FEMALE_SIGNfSIGNfWITH_STROKE_AND_MALE_AND_FEMALE_SIGNrSIGNdTESE_CROSScMMOTHcN
   d_AND_WOMAN_HOLDING_HANDSeDANCINGeIN_BUSINESS_SUIT_LEVITATINGhTUXEDOeWITH_GUA_PI_MAOjTURBAN
   dAT_SIGNdDAIC_AFFRICATION_MARKiGEMINATION_MARKiLETTER_ABqDqGqHqINqKrSAqLqMqNqPqQqRqSrHrZqTrTqZ
   pDUSHENNApHALQApINqTpKADpUSHENNAiPUNCTUATIONiVOCALIZATION_MARKdGOdICHAEAN_ABBREVIATION_MARK_ABOVE
   +dBELOWlLETTER_AAYINtLEPHtYINsBETHtHETHsDALETHtHAMEDHsFEsGHIMELtIMELsHEuTHsJAYINtHAYINsKAPHtHAPH
   sLAMEDHsMEMsNUNsPEsQHOPHtOPHsRESHsSADHEuMEKHtHINtSHINsTAWtETHtHAMEDHsWAWsXAPHtOPHsYODHsZAYIN
   tHAYINlNUMBER_FIVEsONEv_HUNDREDsTENtWENTYlPUNCTUATION_DOT+a_WITHIN_DOTzUBLE_DOT_WITHIN_DOT
   xFLEURONxLINE_FILLERxSTARxTWO_DOTSlSIGN_UDdS_SHOEdTELPIECE_CLOCKdUAL_WHEELCHAIR
   cP_SYMBOL_FOR_LIGHTHOUSEdLE_LEAFcRCHEN_HEAD_MARKiLETTER_-ApApBApCAqHApDAqZApGApHApJApKAqHApLApMA
   pNAqGAqYApPAqHApRApSAqHApTAqHAqSArHApWApYApZAqHAiMARK_SHADiSIGN_ANUSVARAnCANDRABINDU
   jUBJOINED_LETTER_AzBAzCA+aHAzDA+aZAzGAzHAzJAzKA+aHAzLAzMAzNA+aGA+aYAzPA+aHAzRAzSA+aHAzTA+aHA+aSA
   +bHAzWAzYAzZA+aHAiVOWEL_SIGN_AAtEtItOtUdRIAGE_SYMBOLdTIAL_ARTS_UNIFORMcSARAM_GONDI_DIGIT_EIGHT
   uFIVEvOURuNINEuONEuSEVENvIXuTHREEvWOuZEROoLETTER_AwAwIwUvBAwHAvCAwHAvDAwDAxHAwHAvEvGAwHAvHAvIwI
   vJAwHAwNYAvKAwHAwSSAvLAwLAvMAvNAwGAwNAwYAvOvPAwHAvRAvSAwHAwSAvTAwHAwRAwTAxHAvUwUvVAvYAoRA-KARA
   pEPHAoSIGN_ANUSVARAtCANDRAtHALANTAtNUKTAtVISARGAoVIRAMApOWEL_SIGN_AA+aI+aUzEzI+aIzOzU+aU
   zVOCALIC_RdCULINE_ORDINAL_INDICATORdK_WORK_SYMBOLdU_MARKcTE_DRINKdHEMATICAL_BOLD_CAPITAL_A+bLPHA
   +aB+bETA+aC+bHI+aD+bELTA+bIGAMMA+aE+bPSILON+bTA+aF+aG+bAMMA+aH+aI+bOTA+aJ+aK+bAPPA+aL+bAMDA+aM+bU
   +aN+bU+aO+bMEGA+cICRON+aP+bHI+bI+bSI+aQ+aR+bHO+aS+bIGMA+aT+bAU+bHETA+f_SYMBOL+aU+bPSILON+aV+aW+aX
   +bI+aY+aZ+bETAsDIGIT_EIGHTyFIVEzOURyNINEyONEySEVENzIXyTHREEzWOyZEROsEPSILON_SYMBOL
   sFRAKTUR_CAPITAL_A+iB+iC+iD+iE+iF+iG+iH+iI+iJ+iK+iL+iM+iN+iO+iP+iQ+iR+iS+iT+iU+iV+iW+iX+iY+iZ
   +aSMALL_A+gB+gC+gD+gE+gF+gG+gH+gI+gJ+gK+gL+gM+gN+gO+gP+gQ+gR+gS+gT+gU+gV+gW+gX+gY+gZ
   sITALIC_CAPITAL_A+iLPHA+hB+iETA+hC+iHI+hD+iELTA+hE+iPSILON+iTA+hF+hG+iAMMA+hH+hI+iOTA+hJ+hK+iAPPA
   +hL+iAMDA+hM+iU+hN+iU+hO+iMEGA+jICRON+hP+iHI+iI+iSI+hQ+hR+iHO+hS+iIGMA+hT+iAU+iHETA+m_SYMBOL+hU
   +iPSILON+hV+hW+hX+iI+hY+hZ+iETAzEPSILON_SYMBOLzKAPPA_SYMBOLzNABLAzPARTIAL_DIFFERENTIAL+aHI_SYMBOL
   +aI_SYMBOLzRHO_SYMBOLzSMALL_A+gLPHA+fB+gETA+fC+gHI+fD+gELTA+fE+gPSILON+gTA+fF+gINAL_SIGMA+fG
   +gAMMA+fH+fI+gOTA+fJ+fK+gAPPA+fL+gAMDA+fM+gU+fN+gU+fO+gMEGA+hICRON+fP+gHI+gI+gSI+fQ+fR+gHO+fS
   +gIGMA+fT+gAU+gHETA+fU+gPSILON+fV+fW+fX+gI+fY+fZ+gETAzTHETA_SYMBOLsKAPPA_SYMBOLsNABLA
   sPARTIAL_DIFFERENTIALtHI_SYMBOLtI_SYMBOLsRHO_SYMBOLsSCRIPT_CAPITAL_A+hB+hC+hD+hE+hF+hG+hH+hI+hJ
   +hK+hL+hM+hN+hO+hP+hQ+hR+hS+hT+hU+hV+hW+hX+hY+hZzSMALL_A+fB+fC+fD+fE+fF+fG+fH+fI+fJ+fK+fL+fM+fN
   +fO+fP+fQ+fR+fS+fT+fU+fV+fW+fX+fY+fZtMALL_AzLPHAyBzETAyCzHIyDzELTAzIGAMMAyEzPSILONzTAyF
   zINAL_SIGMAyGzAMMAyHyIzOTAyJyKzAPPAyLzAMDAyMzUyNzUyOzMEGA+aICRONyPzHIzIzSIyQyRzHOySzIGMAyTzAU
   zHETAyUzPSILONyVyWyXzIyYyZzETAsTHETA_SYMBOLnDOUBLE-STRUCK_CAPITAL_A+jB+jD+jE+jF+jG+jI+jJ+jK+jL+jM
   +jO+jS+jT+jU+jV+jW+jX+jY+bDIGIT_EIGHT+hFIVE+iOUR+hNINE+hONE+hSEVEN+iIX+hTHREE+iWO+hZERO+bSMALL_A
   +hB+hC+hD+hE+hF+hG+hH+hI+hJ+hK+hL+hM+hN+hO+hP+hQ+hR+hS+hT+hU+hV+hW+hX+hY+hZnFALLING_DIAGONAL
   oRAKTUR_CAPITAL_A+dB+dD+dE+dF+dG+dJ+dK+dL+dM+dN+dO+dP+dQ+dS+dT+dU+dV+dW+dX+dYvSMALL_A+bB+bC+bD+bE
   +bF+bG+bH+bI+bJ+bK+bL+bM+bN+bO+bP+bQ+bR+bS+bT+bU+bV+bW+bX+bY+bZnITALIC_CAPITAL_A+dLPHA+cB+dETA+cC
   +dHI+cD+dELTA+cE+dPSILON+dTA+cF+cG+dAMMA+cH+cI+dOTA+cJ+cK+dAPPA+cL+dAMDA+cM+dU+cN+dU+cO+dMEGA
   +eICRON+cP+dHI+dI+dSI+cQ+cR+dHO+cS+dIGMA+cT+dAU+dHETA+h_SYMBOL+cU+dPSILON+cV+cW+cX+dI+cY+cZ+dETA
   uEPSILON_SYMBOLuKAPPA_SYMBOLuNABLAuPARTIAL_DIFFERENTIALvHI_SYMBOLvI_SYMBOLuRHO_SYMBOLuSMALL_A
   +bLPHA+aB+bETA+aC+bHI+aD+bELTA+bOTLESS_I+iJ+aE+bPSILON+bTA+aF+bINAL_SIGMA+aG+bAMMA+aI+bOTA+aJ+aK
   +bAPPA+aL+bAMDA+aM+bU+aN+bU+aO+bMEGA+cICRON+aP+bHI+bI+bSI+aQ+aR+bHO+aS+bIGMA+aT+bAU+bHETA+aU
   +bPSILON+aV+aW+aX+bI+aY+aZ+bETAuTHETA_SYMBOLnLEFT_ANGLE_BRACKETsDOUBLE_ANGLE_BRACKET
   sFLATTENED_PARENTHESISsWHITE_SQUARE_BRACKETyTORTOISE_SHELL_BRACKETnMONOSPACE_CAPITAL_A+fB+fC+fD
   +fE+fF+fG+fH+fI+fJ+fK+fL+fM+fN+fO+fP+fQ+fR+fS+fT+fU+fV+fW+fX+fY+fZxDIGIT_EIGHT+dFIVE+eOUR+dNINE
   +dONE+dSEVEN+eIX+dTHREE+eWO+dZEROxSMALL_A+dB+dC+dD+dE+dF+dG+dH+dI+dJ+dK+dL+dM+dN+dO+dP+dQ+dR+dS
   +dT+dU+dV+dW+dX+dY+dZnRIGHT_ANGLE_BRACKETtDOUBLE_ANGLE_BRACKETtFLATTENED_PARENTHESIS
   tWHITE_SQUARE_BRACKETzTORTOISE_SHELL_BRACKETpSING_DIAGONALnSANS-SERIF_BOLD_CAPITAL_A+mLPHA+lB
   +mETA+lC+mHI+lD+mELTA+lE+mPSILON+mTA+lF+lG+mAMMA+lH+lI+mOTA+lJ+lK+mAPPA+lL+mAMDA+lM+mU+lN+mU+lO
   +mMEGA+nICRON+lP+mHI+mI+mSI+lQ+lR+mHO+lS+mIGMA+lT+mAU+mHETA+q_SYMBOL+lU+mPSILON+lV+lW+lX+mI+lY+lZ
   +mETA+dDIGIT_EIGHT+jFIVE+kOUR+jNINE+jONE+jSEVEN+kIX+jTHREE+kWO+jZERO+dEPSILON_SYMBOL
   +dITALIC_CAPITAL_A+tLPHA+sB+tETA+sC+tHI+sD+tELTA+sE+tPSILON+tTA+sF+sG+tAMMA+sH+sI+tOTA+sJ+sK
   +tAPPA+sL+tAMDA+sM+tU+sN+tU+sO+tMEGA+uICRON+sP+tHI+tI+tSI+sQ+sR+tHO+sS+tIGMA+sT+tAU+tHETA
   +x_SYMBOL+sU+tPSILON+sV+sW+sX+tI+sY+sZ+tETA+kEPSILON_SYMBOL+kKAPPA_SYMBOL+kNABLA
   +kPARTIAL_DIFFERENTIAL+lHI_SYMBOL+lI_SYMBOL+kRHO_SYMBOL+kSMALL_A+rLPHA+qB+rETA+qC+rHI+qD+rELTA+qE
   +rPSILON+rTA+qF+rINAL_SIGMA+qG+rAMMA+qH+qI+rOTA+qJ+qK+rAPPA+qL+rAMDA+qM+rU+qN+rU+qO+rMEGA+sICRON
   +qP+rHI+rI+rSI+qQ+qR+rHO+qS+rIGMA+qT+rAU+rHETA+qU+rPSILON+qV+qW+qX+rI+qY+qZ+rETA+kTHETA_SYMBOL
   +dKAPPA_SYMBOL+dNABLA+dPARTIAL_DIFFERENTIAL+eHI_SYMBOL+eI_SYMBOL+dRHO_SYMBOL+dSMALL_A+kLPHA+jB
   +kETA+jC+kHI+jD+kELTA+jE+kPSILON+kTA+jF+kINAL_SIGMA+jG+kAMMA+jH+jI+kOTA+jJ+jK+kAPPA+jL+kAMDA+jM
   +kU+jN+kU+jO+kMEGA+lICRON+jP+kHI+kI+kSI+jQ+jR+kHO+jS+kIGMA+jT+kAU+kHETA+jU+kPSILON+jV+jW+jX+kI+jY
   +jZ+kETA+dTHETA_SYMBOLyCAPITAL_A+gB+gC+gD+gE+gF+gG+gH+gI+gJ+gK+gL+gM+gN+gO+gP+gQ+gR+gS+gT+gU+gV
   +gW+gX+gY+gZyDIGIT_EIGHT+eFIVE+fOUR+eNINE+eONE+eSEVEN+fIX+eTHREE+fWO+eZEROyITALIC_CAPITAL_A+nB+nC
   +nD+nE+nF+nG+nH+nI+nJ+nK+nL+nM+nN+nO+nP+nQ+nR+nS+nT+nU+nV+nW+nX+nY+nZ+fSMALL_A+lB+lC+lD+lE+lF+lG
   +lH+lI+lJ+lK+lL+lM+lN+lO+lP+lQ+lR+lS+lT+lU+lV+lW+lX+lY+lZySMALL_A+eB+eC+eD+eE+eF+eG+eH+eI+eJ+eK
   +eL+eM+eN+eO+eP+eQ+eR+eS+eT+eU+eV+eW+eX+eY+eZoCRIPT_CAPITAL_A+cC+cD+cG+cJ+cK+cN+cO+cP+cQ+cS+cT+cU
   +cV+cW+cX+cY+cZuSMALL_A+aB+aC+aD+aF+aH+aI+aJ+aK+aL+aM+aN+aP+aQ+aR+aS+aT+aU+aV+aW+aX+aY+aZcXIMIZE
   cYAN_NUMERAL_EIGHTtEENpLEVENoFIFTEENqVEpOURsTEENoNINEsTEENoONEoSEVENtTEENpIXrTEENoTENpHIRTEENqREE
   pWELVEqOoZERObEASURED_ANGLEo_OPENING_LEFTpWITH_OPEN_ARM_ENDING_IN_ARROW_POINTING_DOWN_AND_LEFT
   ++lRIGHT++cLEFT_AND_DOWN++lUP++cRIGHT_AND_DOWN++mUP++cUP_AND_LEFT++jRIGHTjBYjRIGHT_ANGLE_WITH_DOT
   dT_ON_BONEcCHANICAL_ARMlLEGcDEFAIDRIN_CAPITAL_LETTER_A+cI+cTIU+bB+bC+bD+bE+bF+bG+bH+cP+bI+bJ+bK
   +cP+bL+bM+bN+cG+cY+bO+cE+bP+bQ+bR+bS+bT+bU+bV+bW+bX+bY+cU+bZnOMMAmDIGIT_EIGHTsFIVEtOURsNINEsONE
   v_ALTERNATE_FORMsSEVENtIXsTHREEx_ALTERNATE_FORMtWOv_ALTERNATE_FORMsZEROmEXCLAMATION_OHmFULL_STOP
   mNUMBER_EIGHTEENuLEVENtFIFTEENuOURTEENtNINETEENtSEVENTEENuIXTEENtTENuHIRTEENuWELVEmSMALL_LETTER_A
   +aI+aTIUzBzCzDzEzFzGzH+aPzIzJzK+aPzLzMzN+aG+aYzO+aEzPzQzRzSzTzUzVzWzXzY+aUzZnYMBOL_AIVA
   dIEVAL_COMMAjEXCLAMATION_MARKjQUESTION_MARKeUM_BLACK_CIRCLEiOLD_WHITE_CIRCLE
   hEIGHT_POINTED_BLACK_STARnSPOKED_ASTERISKhFIVE_SPOKED_ASTERISKiLATTENED_LEFT_PARENTHESIS_ORNAMENT
   rRIGHT_PARENTHESIS_ORNAMENTiOUR_POINTED_BLACK_STARuPINWHEEL_STARhGREEK_CROSS
   hLEFT_CURLY_BRACKET_ORNAMENTmPARENTHESIS_ORNAMENTl-POINTING_ANGLE_BRACKET_ORNAMENT
   hMATHEMATICAL_SPACEhRIGHT_CURLY_BRACKET_ORNAMENTnPARENTHESIS_ORNAMENT
   m-POINTING_ANGLE_BRACKET_ORNAMENThSALTIREiHADEiIX_POINTED_BLACK_STARlSPOKED_ASTERISK
   iMALL_WHITE_CIRCLEhTHREE_POINTED_BLACK_STARvPINWHEEL_STARhVERTICAL_BARhWHITE_CIRCLEnSQUARE
   cETEI_MAYEK_AHANG_KHUDAMoNJIoPUN_IYEKnCHEIKHANtEInDIGIT_EIGHTtFIVEuOURtNINEtONEtSEVENuIXtTHREEuWO
   tZEROnLETTER_ATIYAuBAvHAMuCHAwILuDDAwHAvHOUvILuEuGHOUvOKuHUKuIv_LONSUMuJHAMvILuKHOUvOKx_LONSUM
   uLAIx_LONSUMuMITx_LONSUMuNAw_LONSUMvGOUy_LONSUMvNAvYAuOuPAw_LONSUMvHAMuRAIuSAMvHAvSAuTHOUvIL
   x_LONSUMvTAwHAuUNuWAIuYANGoUM_IYEKnSYLLABLE_REPETITION_MARKnVIRAMAoOWEL_SIGN_AAI+aUzNAPzUyCHEINAP
   yIIzNAPyNUNGyONAPySOUNAPyUNAPzUyVISARGAyYENAPnWORD_REPETITION_MARKcLONdTING_FACEcMO
   cNDE_KIKAKUI_COMBINING_NUMBER_HUNDRED_THOUSANDS+mS+fMILLIONS+fTEENS+hN_THOUSANDS+iS+gHOUSANDS
   oDIGIT_EIGHTuFIVEvOURuNINEuONEuSEVENvIXuTHREEvWOoSYLLABLE_M001_KI+a2_KA+a3_KU+a4_WI+a5_WA+a6_WU
   +a7_MIN+a8_MAN+a9_MUNz10_BI+a1_BA+a2_BU+a3_I+a4_A+a5_U+a6_DI+a7_DA+a8_DU+a9_SIz20_SA+a1_SU+a2_TI
   +a3_TA+a4_TU+a5_LI+a6_LA+a7_LU+a8_JI+a9_JAz30_JU+a1_YI+a2_YA+a3_YU+a4_FI+a5_FA+a6_FU+a7_NIN
   +a8_NAN+a9_NUNz40_HEE+a1_HA+a2_HOO+a3_NGGA+a4_KPEE+a5_WO+a6_HUAN+a7_MBEE+a8_KO+a9_WVAz50_PU+a1_PE
   +a2_HEN+a3_HIN+a4_LOO+a5_TE+a6_GBA+a7_NGON+a8_NYAN+a9_MENz60_NYON+a1_WVI+a2_MBA+a3_JO+a4_NDO
   +a5_KEE+a6_PO+a7_NDOO+a8_PI+a9_TOz70_GBO+a1_GBOO+a2_MBE+a3_LE+a4_KPU+a5_FE+a6_KOO+a7_VO+a8_FEE
   +a9_SOz80_YE+a1_PEE+a2_NGGU+a3_HEEI+a4_LEE+a5_VE+a6_LONG_NGGE+a7_HUN+a8_FO+a9_DEEz90_NGGI+a1_TEE
   +a2_KPA+a3_GBEE+a4_MON+a5_KE+a6_HE+a7_BE+a8_NYEN+a9_PAy100_E+a1_FAN+a2_POO+a3_BOO+a4_TOO
   +a5_LONG_MBOO+a6_LONG_NGGOO+a7_GBE+a8_KPE+a9_YEEz10_LONG_LE+a1_GA+a2_KPOO+a3_JE+a4_WOO+a5_NGGEE
   +a6_SE+a7_NEN+a8_WE+a9_NDEz20_NGGO+a1_YO+a2_MBU+a3_NDI+a4_GBI+a5_NDU+a6_WEE+a7_NGGUA+a8_HOOU
   +a9_NDAz30_HAN+a1_IN+a2_KPI+a3_FOO+a4_NJOO+a5_IN+a6_SOO+a7_EI+a8_BO+a9_WVEz40_HO+a1_YOO
   +a2_LONG_MBO+a3_WEI+a4_VOO+a5_MBI+a6_NGGE+a7_O+a8_GBU+a9_NJEEz50_BEE+a1_VU+a2_NJA+a3_LO+a4_MUAN
   +a5_GI+a6_NGGOO+a7_JEE+a8_KPO+a9_NGGAAz60_JOO+a1_LONG_MBE+a2_SEE+a3_EE+a4_NYIN+a5_OO+a6_GUEI
   +a7_GUAN+a8_GU+a9_NONz70_NYUN+a1_RA+a2_MBOO+a3_VEE+a4_MBO+a5_LONG_JO+a6_HI+a7_NGUAN+a8_EN+a9_KUA
   z80_DOO+a1_DO+a2_VI+a3_LONG_NGGO+a4_NGEN+a5_VA+a6_HU+a7_MBUU+a8_MBEE+a9_MUENz90_GEE+a1_NDEE
   +a2_NJU+a3_HON+a4_WUI+a5_AN+a6_SIA+a7_FUAdORAH_WITH_NINE_BRANCHESdS_SYMBOLcRCURY
   dOITIC_CURSIVE_FRACTION_EIGHT_TWELFTHS+bLEVEN_TWELFTHS+aFIVE_TWELFTHS+bOUR_TWELFTHS
   +aNINE_TWELFTHS+aONE_HALF+eTWELFTH+aSEVEN_TWELFTHS+bIX_TWELFTHS+aTEN_TWELFTHS+bHREE_TWELFTHS
   +bWO_TWELFTHSrLETTER_AzRCHAIC_SAyBAyDAyEyHHAyIyKAzHAyLAyMAyNAzEyOyPAyQAyRAySAzEyTAzEzOyWAyYA
   sOGOGRAM_IMN+aRMTrNUMBER_EIGHT+d_HUNDRED+l_THOUSAND+eTHOUSAND+dY_THOUSANDyFIFTY+d_THOUSAND+aVE
   +c_HUNDRED+k_THOUSAND+dTHOUSANDzORTY+d_THOUSAND+aUR+c_HUNDRED+k_THOUSAND+dTHOUSANDyNINE+c_HUNDRED
   +k_THOUSAND+dTHOUSAND+cTY_THOUSANDyONE+b_HUNDRED+j_THOUSAND+cTHOUSANDySEVEN+d_HUNDRED+l_THOUSAND
   +eTHOUSAND+dTY+f_THOUSANDzIX+b_HUNDRED+j_THOUSAND+cTHOUSAND+bTY+d_THOUSANDyTEN+b_THOUSANDzHIRTY
   +e_THOUSAND+aREE+d_HUNDRED+l_THOUSAND+eTHOUSANDzWENTY+e_THOUSAND+aO+b_HUNDRED+j_THOUSAND
   +cTHOUSANDjHIEROGLYPHIC_LETTER_A+dBA+f-2+dDA+dE+dHHA+dI+dKA+eHA+dLA+dMA+dNA+f-2+eE+f-2+dO+dPA+dQA
   +dRA+f-2+dSA+f-2+eE+dTA+f-2+eE+f-2+eO+dWA+dYAwSYMBOL_VIDJ+h-2dPERSONcSSAGE_WAITINGcTRICAL_BREVE
   jLONG_OVER_SHORTtTWO_SHORTSjPENTASEMEjSHORT_OVER_LONGjTETRASEMEkRISEMEkWO_SHORTS_JOINEDuOVER_LONG
   eObIAO_LETTER_AHnRCHAIC_MAuNAvGAuZZAmBAnRImDAnDAnLHApYAnZAoHAoYIoZAmFAmGAnHAoHAmHAnHAmKAmLAnHAoYA
   nYAmMAnHAmNAoSALIZATIONnGAoHAnHAnNAoHAnYAoHAmPAnLAmQAnGAmREFORMED_TONE-1+a2+a4+a5+a6+a8wSHAnTEmSA
   nHAnSAnYImTAnEnLHApYAnONE-2r3r4r5r6r7r8nSAoEoHAoSAnTAmVAnFAmWAmXAmYI_DZHApKApNNApPApTAqSArHAqTA
   mZAnHAnSAoHAnZAoSApYAoYAfSIGN_ASPIRATIONkCONSONANT_MODIFIER_BARkREFORMED_ASPIRATIONtVOICING
   fTONE_ABOVEkBELOWkRIGHTkTOP_RIGHTfVOWEL_SIGN_ArArEsErHHrIrNsGrUqErArIrNsGrRsRqIrAsNtGrErGrIrNGrO
   sNGrUqNrGqOrERsYrGrOrUqROUNDED_ER+aRqUrAsNtGrEIrIrNGrOGrUqVWqWrOqYrIrUIcCR_DASH_SYMBOL
   fON_US_SYMBOLeO_SIGNfBEfPHONEfSCOPEcDDLE_DOThTHIRD_WHITE_RIGHT_POINTING_INDEX
   dLINE_HORIZONTAL_ELLIPSIScLITARY_HELMETjMEDALdKY_WAYdL_SIGNcNIBUSeDISCeMIZEdUS_SIGNk_IN_TRIANGLE
   lWITH_COMMA_ABOVEqDOT_BELOWqFALLING_DOTSqRISING_DOTSgTILDEf-OR-PLUS_SIGNdYcRRORg_BALLbMSP
   bOBILE_PHONEm_OFFnWITH_RIGHTWARDS_ARROW_AT_LEFTcDELSeRN_PENTATHLONdI_ABBREVIATION_SIGNfDANDA
   gIGIT_EIGHTlFIVEmOURlNINElONElSEVENmIXlTHREEmWOlZEROgOUBLE_DANDAfLETTER_AnAnInUmBAnHAmCAnHAmDAnDA
   oHAnHAmEmGAnHAmHAmInImJAnHAmKAnHAmLAnLAmMAmNAnGAnNAnYAmOmPAnHAmRAmSAnHAnSAmTAnHAnTAoHAmUnUmVA
   nOCALIC_LvLuRvRmYAfSIGN_ANUSVARAlRDHACANDRAkHUVAkVIRAMAmSARGAfVOWEL_SIGN_AArIrUqEqIrIqOqUrU
   qVOCALIC_LzLyRzReFIER_BREVE_WITH_INVERTED_BREVEjLETTER_ACUTE_ACCENTrLVEOLAR_CLICKrPOSTROPHE
   qBEGIN_HIGH_TONEwLOW_TONErILABIAL_CLICKqCAPITAL_AzEyBzARRED_ByCyDyEyFyGyHz_WITH_STROKEyIyJyKyLyM
   yNyOzUyPyQyRzEVERSED_E+hNyTyUyVyWrENTRED_LEFT_HALF_RINGyRIGHT_HALF_RINGrHINESE_TONE_YANG_PING+iQU
   +iRU+iSHANG+eIN_PING+hQU+hRU+hSHANGrIRCUMFLEX_ACCENTrOLONrROSS_ACCENTrYRILLIC_ENzHARD_SIGN
   zSOFT_SIGNqDENTAL_CLICKrOT_HORIZONTAL_BARuSLASHuVERTICAL_BARsUBLE_APOSTROPHExPRIMEsWN_ARROWHEAD
   vTACKqEND_HIGH_TONEuLOW_TONErXTRA-HIGH_DOTTED_LEFT-STEM_TONE_BAR+iTONE_BAR+bLEFT-STEM_TONE_BAR
   +bTONE_BARwLOW_DOTTED_LEFT-STEM_TONE_BAR+hTONE_BAR+aLEFT-STEM_TONE_BAR+aTONE_BARqGEORGIAN_NAR
   rLOTTAL_STOP+c_WITH_STROKErRAVE_ACCENTqHALF_TRIANGULAR_COLONrIGH_DOTTED_LEFT-STEM_TONE_BAR
   +cTONE_BARvLEFT-STEM_TONE_BARvTONE_BARqLATERAL_CLICKrEFT_ARROWHEADvHALF_RINGvTACKrOW_ACUTE_ACCENT
   uCIRCUMFLEX_ACCENTuDOTTED_LEFT-STEM_TONE_BAR+bTONE_BARwWN_ARROWHEADuGRAVE_ACCENT
   uINVERTED_EXCLAMATION_MARKuLEFT_ARROW+eHEADy-STEM_TONE_BARuMACRONuRIGHT_ARROWHEADwNGuTILDE
   vONE_BARuUP_ARROWHEADuVERTICAL_LINEtER_RIGHT_CORNER_ANGLEqMACRONrID_DOTTED_LEFT-STEM_TONE_BAR
   +bTONE_BARuLEFT-STEM_TONE_BARuTONE_BARtDLE_DOUBLE_ACUTE_ACCENT+eGRAVE_ACCENTxGRAVE_ACCENT
   sNUS_SIGNqOPEN_SHELFqPLUS_SIGNrRIMEqRAISED_COLONxDOWN_ARROWxEXCLAMATION_MARK
   xINVERTED_EXCLAMATION_MARKxUP_ARROWrETROFLEX_CLICK_WITH_RETROFLEX_HOOKsVERSED_COMMAzGLOTTAL_STOP
   +l_WITH_STROKErHOTIC_HOOKrIGHT_ARROWHEADwHALF_RINGwTACKqSHELFsORT_EQUALS_SIGNrMALL_AxExINxLPHAwB
   x_WITH_HOOKxARRED_OxETAxOTTOM_HALF_OwCx_WITH_CURLxAPITAL_AA+eB+eG+f_WITH_HOOK+eH+eI+f_WITH_STROKE
   +fNVERTED_R+eL+f_WITH_BELT+eN+eOE+eR+eU+eYxHIxLOSED_OMEGA+dREVERSED_OPEN_EwDx_WITH_HOOK
   +h_AND_TAIL+dTAILxELTAyZH_DIGRAPHxOTLESS_J_WITH_STROKE+r_AND_HOOKxZ_DIGRAPH+g_WITH_CURL
   +mRETROFLEX_HOOKwExNGxSHxTHxZHwFxENG_DIGRAPHwGx_WITH_HOOKxAMMAxREEK_GAMMA+cPHIwHx_WITH_HOOK
   +dSTROKExENG+a_WITH_HOOKwI_WITH_STROKExOTAwJx_WITH_CROSSED-TAILwKwLx_WITH_BELT+dINVERTED_LAZY_S
   +dMIDDLE_TILDE+dPALATAL_HOOK+dRETROFLEX_HOOK+r_AND_BELTxEZH+a_WITH_RETROFLEX_HOOKxIGATURE_OE
   xS_DIGRAPHxZ_DIGRAPHwMx_WITH_HOOKwN_WITH_LEFT_HOOK+dRETROFLEX_HOOKwOx_WITH_STROKExPEN_E+bOwPxHIwQ
   wRx_WITH_FISHHOOK+dTAILxAMS_HORNxEVERSED_E+fGLOTTAL_STOP+fOPEN_EwSx_WITH_CURL+dHOOKxCHWAyRIPT_G
   xIDEWAYS_UwTx_WITH_PALATAL_HOOK+dRETROFLEX_HOOKxC_DIGRAPH_WITH_CURLxESH_DIGRAPHxHETAxOP_HALF_O
   xS_DIGRAPH+g_WITH_RETROFLEX_HOOKxURNED_A+eE+eLPHA+dH+dI+dM+e_WITH_LONG_LEG+dOPEN_E+dR+e_WITH_HOOK
   +kLONG_LEG+s_AND_RETROFLEX_HOOK+dV+dW+dY+e_WITH_BELTwUx_BARyWITH_LEFT_HOOKxPSILONwVx_WITH_HOOK
   +dRIGHT_HOOKwWwXwYwZx_WITH_CURL+dRETROFLEX_HOOKrTRESS_AND_HIGH_TONE+bLOW_TONE
   rUPERSCRIPT_HALF_TRIANGULAR_COLON+cTRIANGULAR_COLONqTRIANGULAR_COLONrURNED_COMMAqUNASPIRATED
   rP_ARROWHEADtTACKrSqVERTICAL_LINErOICINGqYANG_DEPARTING_TONE_MARKrIN_DEPARTING_TONE_MARK
   dULO_TWO_SUMcNEY_BAGgWITH_WINGSf-MOUTH_FACEdGOLIAN_BIRGAp_WITH_DOUBLE_ORNAMENTvORNAMENTkCOLONmMMA
   kDIGIT_EIGHTqFIVErOURqNINEqONEqSEVENrIXqTHREErWOqZEROlOUBLE_BIRGA_WITH_ORNAMENTkELLIPSIS
   kFOUR_DOTSlREE_VARIATION_SELECTOR_FOUR+iONE+iTHREE+jWOlULL_STOPkINVERTED_BIRGA
   y_WITH_DOUBLE_ORNAMENTkLETTER_AsLI_GALI_A+bH+bNUSVARA_ONE+aBALUDA+aCA+aDA+cGALGA+cMARU+bDA
   +aHALF_U+fYA+aI+bNVERTED_UBADAMA+aKA+aNGA+bNA+aPA+bHA+aSSA+aTA+bHREE_BALUDA+bTA+cHA+aUBADAMA
   +aVISARGA_ONE+aZA+bHAsNGrBArCHAu_WITH_TWO_DOTStIrDArEsErFArGArHAArIrJArKAsHArLAsHArMA
   tNCHU_ALI_GALI_BHA+hCA+iYA+hDDHA+iHA+hGHA+hJHA+hLHA+hNGA+hSSA+hTA+iTA+hZA+iHAyFAyIyKAyRAyZHArNArO
   sErPArQArRArSAsHAsIBE_ANGwCHAwDAwEwFAwGAyAwHAyAwIxYwJAwKAwPAwRAAwSHAwTAxSAwUxEwZAxHArTA
   sODO_ALI_GALI_TA+fZHAxNGwBAwCHAwDAxZAwEwGAyAwHAAwIwJAxIAwKAwLONG_VOWEL_SIGNwMAwNIAwOxEwPAwQAwTA
   xSAwUxEwWAwYAsSArUsErWArYArZAsHIsRAkMANCHU_COMMArFULL_STOPkNIRUGUkROTATED_BIRGA
   x_WITH_DOUBLE_ORNAMENT+dORNAMENTkSIBE_SYLLABLE_BOUNDARY_MARKERlWIRL_BIRGAv_WITH_DOUBLE_ORNAMENT
   +bORNAMENTkTODO_SOFT_HYPHENlRIPLE_BIRGA_WITH_ORNAMENTlURNED_SWIRL_BIRGA_WITH_DOUBLE_ORNAMENT
   kVOWEL_SEPARATORdKEYg_FACEdOGRAM_FOR_EARTHnYANGoINeRAILeSTABLE_SYMBOLcOD_BUBBLEdN_CAKE
   fVIEWING_CEREMONYcSQUEfITOcTHER_CHRISTMASdOR_BOATgSCOOTERfIZED_WHEELCHAIRfWAYcUNT_FUJIfAIN
   i_BICYCLISTjCABLEWAYjRAILWAYdSEf_FACEgTRAPdTHcVIE_CAMERAcYAIbRO_DANDAfIGIT_EIGHTkFIVElOURkNINE
   kONEkSEVENlIXkTHREElWOkZEROfOUBLE_DANDAeLETTER_AlBAlCHUlDAnIlEmAlHAInOlKEAAEmHAImOlLAnNlMAEMmIM
   lNGImINlOmLmOlPAmHIlRImOlSHIlTAmEKmHEAlWAlYObUCH_GREATER-THANfLESS-THANcLTANI_LETTER_ApBAqHApCA
   qHApDAqDArDArHAqHApEpGAqHApHApIpJAqJApKAqHApLApMApNAqNAqYApPAqHApRAqHAqRApSApTAqHAqTArHApUpVApYA
   iSECTION_MARKeIMAPfPLE_MUSICAL_NOTEShICATION_SIGNt_IN_DOUBLE_CIRCLExLEFT_HALF_CIRCLE
   xRIGHT_HALF_CIRCLExTRIANGLEuWITH_DOT_ABOVEzUNDERBARpXfSETi_MULTIPLICATIONjUNIONcSHROOM
   dIC_FLAT_SIGNgNATURAL_SIGNgSHARP_SIGNfAL_KEYBOARDq_WITH_JACKSiNOTEiSCOREjYMBOL_ARPEGGIATO_DOWN
   +aUPpBEGIN_BEAMvPHRASEvSLURvTIEqRACEtKETrEATH_MARKsVEtISv_RESTpC_CLEFqAESURAqIRCLE_X_NOTEHEAD
   qLIMACUSsVISrUSTER_NOTEHEAD_BLACK+gWHITEqODArMBINING_ACCENT+f-STACCATO+aUGMENTATION_DOTzBENDzDOIT
   +bUBLE_TONGUE+bWN_BOWzFLAG-1+e2+e3+e4+e5+bIPzHARMONICzLOUREzMARCATO+g-STACCATOzRIPzSMEAR
   +aNAP_PIZZICATO+aPRECHGESANG_STEM+aTACCATISSIMO+gO+bEMzTENUTO+aREMOLO-1+h2+h3+bIPLE_TONGUEzUP_BOW
   sMON_TIMEqRESCENDOrOIXqUT_TIMEpDA_CAPOrL_SEGNOrMPt_ALLrSHED_BARLINEqECRESCENDOrGREE_SLASH
   qOUBLE_BARLINEwFLATwSHARPqRUM_CLEF-1z2pEIGHTH_NOTEwRESTqND_BEAMtOF_STIMMEtPHRASEtSLURtTIEpF_CLEF
   v_OTTAVA_ALTA+dBASSAqERMATAw_BELOWqINAL_BARLINEsGERED_TREMOLO-1+g2+g3rVE-LINE_STAFFqLAT_DOWNuUP
   qORTErUR-LINE_STAFFuSTRING_FRETBOARDqUSA_BLACKuWHITEpG_CLEFv_OTTAVA_ALTA+dBASSAqLISSANDO_DOWNzUP
   qRACE_NOTE_NO_SLASH+aSLASHrEGORIAN_C_CLEFzF_CLEFpHALF_NOTEuPEDAL_MARKuRESTrUPTSTIMME
   pINVERTED_TURNpKIEVAN_C_CLEFwEIGHTH_NOTE_STEM_DOWN+nUPxND_OF_PIECEwFINAL_NOTExLAT_SIGNwHALF_NOTE
   wQUARTER_NOTE_STEM_DOWN+oUPwRECITATIVE_MARKwWHOLE_NOTEqORONpLEFT_REPEAT_SIGNqONGA
   u_IMPERFECTA_RESTvPERFECTA_RESTpMAXIMAqEZZOqINIMAv_BLACKwRESTqOON_NOTEHEAD_BLACK+dWHITEqULTI_REST
   uPLE_MEASURE_RESTpNATURAL_DOWNxUPqEBENSTIMMEqOTEHEAD_BLACKqULL_NOTEHEAD
   pONE_HUNDRED_TWENTY-EIGHTH_NOTE+pRESTs-LINE_STAFFqRNAMENT_STROKE-1+g0+g1+f2+f3+f4+f5+f6+f7+f8+f9
   qTTAVA_ALTAwBASSApPARENTHESIS_NOTEHEADqEDAL_MARKvUP_MARKrS_SUBPUNCTISqIANOqLUS_NOTEHEADqODATUS
   rRRECTUSy_FLEXUSpQUARTER_NOTExRESTxTONE_FLAT+cSHARPrINDICESIMA_ALTA+cBASSApREPEAT_DOTS
   vED_FIGURE-1+f2+f3rVERSE_FINAL_BARLINEqIGHT_REPEAT_SIGNrNFORZANDOpSCANDICUSy_FLEXUSqEGNO
   rMIBREVIS_BLACK+aREST+aWHITEtMINIMA_BLACK+aREST+aWHITEqHARP_DOWNvUPrORT_BARLINEqINGLE_BARLINE
   rX-LINE_STAFFtSTRING_FRETBOARDsTEENTH_NOTEzRESTtY-FOURTH_NOTE+cRESTqORIqQUARE_BwNOTEHEAD_BLACK
   +fWHITEqUBITOpTEMPUS_IMPERFECTUM_CUM_PROLATIONE_IMPERFECTA++h_DIMINUTION-1++t2++t3+xPERFECTA
   wPERFECTUM_CUM_PROLATIONE_IMPERFECTA+vPERFECTA++d_DIMINUTION-1qHIRTY-SECOND_NOTE+dREST
   rREE-LINE_STAFFqORCULUSx_RESUPINUSqRrIANGLE_NOTEHEAD_DOWN_BLACK+mWHITE+hLEFT_BLACK+mWHITE
   +hRIGHT_BLACK+nWHITE+hUP_BLACK+kRIGHT_BLACK+qWHITE+kWHITEx-ROUND_NOTEHEAD_DOWN_BLACK+sWHITEqURN
   t_SLASHuUPqWO-LINE_STAFFpVIRGAqOID_NOTEHEADpWHOLE_NOTEvRESTqITH_FINGERNAILSpX_NOTEHEADpZbVSbW
   bYANMAR_CONSONANT_SIGN_MEDIAL_HA+eRA+eWA+eYAyON_MEDIAL_LA+iMA+iNAxSHAN_MEDIAL_WAiDIGIT_EIGHToFIVE
   pOURoNINEoONEoSEVENpIXoTHREEpWOoZEROiLETTER_AqITON_RAqUpBAqHApCAqHApDAqDArHAqHApE
   qASTERN_PWO_KAREN_GHWA+hNNA+hYWApGAqHAqREAT_SApHApIqIpJAqHApKAqHAsMTI_CAxHAwDDAyHAxHAwFAwGAwHAxHA
   wJAxHAwLLAwNAxYAwRAwSAwTTAyHAwXAwZApLAqLApMAqON_BBAvEtEtJHAtNGApNAqGAqNArYAqYApOpPAqHApRA
   qUMAI_PALAUNG_FApSAqGAW_KAREN_SHAqHAsN_AuBAvHAuCAvHAuDAuFAuGAvHAuHAuJHAuKAvHAuNAvNAvYAuPHAuTHAuZA
   rWE_PALAUNG_CHA+cSHAqSApTArI_LAING_BA+aHAzDA+aDA+bHA+aHAzFAzGA+aHAzJA+aHAzLLAzNNA+aYAqHAqTArHApU
   qUpVOCALIC_LyLxRyRpWAqESTERN_PWO_KAREN_PWA+hTHApYAjOGOGRAM_KHAMTI_HMyOAYyQN
   iMODIFIER_LETTER_KHAMTI_REDUPLICATIONySHAN_REDUPLICATIONiSHAN_DIGIT_EIGHTtFIVEuOURtNINEtONEtSEVEN
   uIXtTHREEuWOtZEROjIGN_ANUSVARAoSATnDOT_BELOWnKHAMTI_TONE-1z3nLITTLE_SECTIONnPAO_KAREN_TONE
   nRUMAI_PALAUNG_TONE-5nSECTIONoHAN_COUNCIL_EMPHATIC_TONE+aTONE-2+f3sSAWsTONE-2x3x5x6
   nTAI_LAING_TONE-2+c5nVIRAMApSARGAnWESTERN_PWO_KAREN_TONE-1+k2+k3+k4+k5jYMBOL_AFOREMENTIONED
   qITON_EXCLAMATIONvONEvTWOpCOMPLETEDpGENITIVEpLOCATIVEpSHAN_EXCLAMATIONuONEiTAI_LAING_DIGIT_EIGHT
   yFIVEzOURyNINEyONEySEVENzIXyTHREEzWOyZEROjONE_MARK_SGAW_KAREN_HATHI+dKE_PHOiVOWEL_SIGN_AAuIvTON_A
   +aItEu_ABOVEtGEBA_KAREN_ItIuItKAYAH_EEzOEzUtMON_IIxOtSGAW_KAREN_EUuHAN_AAyEz_ABOVEyFINAL_Y
   tTALL_AAtUuUtVOCALIC_L+cL+bR+cRtWESTERN_PWO_KAREN_EU+lUEaN-ARY_CIRCLED_DOT_OPERATORoPLUS_OPERATOR
   oTIMES_OPERATORhOPRODUCTgINTERSECTIONgLOGICAL_ANDoORgPRODUCTgSQUARE_INTERSECTION_OPERATOR
   nUNION_OPERATORhUMMATIONgTIMES_OPERATORgUNIONl_OPERATOR_WITH_DOT+aPLUSgWHITE_VERTICAL_BAR
   bABATAEAN_CRUCIFORM_NUMBER_FOURkLETTER_ALEPHsYINrBETHrDALETHrFINAL_ALEPHxBETHxHExKAPHxLAMEDHxMEM
   xNUNxSHINxYODHrGIMELrHEtTHrKAPHrLAMEDHrMEMrNUNrPErQOPHrRESHrSADHEtMEKHsHINrTAWsETHrWAWrYODHrZAYIN
   kNUMBER_FIVEsOURrONEu_HUNDREDrTENsHREEsWENTYtOdLAcIL_POLISHdRA_SIGNcKcME_BADGEcND
   eINAGARI_HEADSTROKEmLETTER_AuAuIuUtBAuHAtCAuHAtDAuDAvHAuHAtEtGAuHAtHAtIuItJAuHAtKAuHAtLAuLAtMAtNA
   uGAuNAuYAtOtPAuHAtRAuRAtSAuHAuSAtTAuHAuTAvHAtUuUtVAuOCALIC_R+cRtYAmSIGN_ANUSVARAsVAGRAHArSIDDHAM
   rVIRAMAtSARGAmVOWEL_SIGN_AAyIyUxExIyIxOxPRISHTHAMATRA_ExUyUxVOCALIC_R+gRcRROW_NO-BREAK_SPACE
   cTIONAL_DIGIT_SHAPESjPARKcUSEATED_FACEcZAR_AMULETbBHcSPbECKTIE
   cGATED_DOUBLE_VERTICAL_BAR_DOUBLE_RIGHT_TURNSTILEfIVE_ACKNOWLEDGEjCIRCLED_DIGIT_ZERO
   rLATIN_CAPITAL_LETTER_A+mB+mC+mD+mE+mF+mG+mH+mI+mJ+mK+mL+mM+mN+mO+mP+mQ+mR+mS+mT+mU+mV+mW+mX+mY
   +mZrNUMBER_EIGHTEENzLEVENyFIFTEENzOURTEENyNINETEENySEVENTEENzIXTEENyTHIRTEENzWELVE+bNTYrSQUARE
   rTRIANGLEjDIAGONAL_CROSSsDIAMONDsMIDDLE_RIGHT_TO_LOWER_CENTREjSQUARED_ABrCROSS_MARKrIC
   rLATIN_CAPITAL_LETTER_A+mB+mC+mD+mE+mF+mG+mH+mI+mJ+mK+mL+mM+mN+mO+mP+mQ+mR+mS+mT+mU+mV+mW+mX+mY
   +mZrPArQUESTION_MARKrSArWCcITHER_A_SUBSET_OF_NOR_EQUAL_TOmPERSET_OF_NOR_EQUAL_TO
   jPPROXIMATELY_NOR_ACTUALLY_EQUAL_TOiGREATER-THAN_NOR_EQUAL_TO+cIVALENT_TOzLESS-THAN
   iLESS-THAN_NOR_EQUAL_TOzIVALENT_TOwGREATER-THANcLcPTUNEh_FORM_TWOcRD_FACEcSSUSdT_WITH_EGGS
   eING_DOLLScUTEReRAL_CHESS_BISHOPu_ROTATED_NINETY_DEGREES+dTWO_HUNDRED_SEVENTY_DEGREESoEQUIHOPPER
   y_ROTATED_NINETY_DEGREESoKINGs_ROTATED_NINETY_DEGREES+bTWO_HUNDRED_SEVENTY_DEGREESpNIGHT
   u_ROTATED_FORTY-FIVE_DEGREES+dNINETY_DEGREES+dONE_HUNDRED_THIRTY-FIVE_DEGREES
   +dTHREE_HUNDRED_FIFTEEN_DEGREES+eWO_HUNDRED_SEVENTY_DEGREES+pTWENTY-FIVE_DEGREESoPAWN
   s_ROTATED_NINETY_DEGREES+bTWO_HUNDRED_SEVENTY_DEGREESoQUEENt_ROTATED_NINETY_DEGREES
   +cTWO_HUNDRED_SEVENTY_DEGREESoROOKs_ROTATED_NINETY_DEGREES+bTWO_HUNDRED_SEVENTY_DEGREES
   oTURNED_BISHOPvKINGwNIGHTvPAWNvQUEENvROOKiFACEcW_LINEeMOON_SYMBOLjWITH_FACEeSHEQEL_SIGN
   eTAI_LUE_DIGIT_EIGHTsFIVEtOURsNINEsONEsSEVENtIXsTHREEtWOsZEROmLETTER_FINAL_BzDzKzMzN+aGzVtHIGH_BA
   yDAyFAyHAyKAzVAyLAyMAyNAzGAyPAzHAyQAySAzUAyTAzHAzSAyVAyXAzVAyYAtLOW_BAxDAxFAxHAxKAyVAxLAxMAxNAyGA
   xPAyHAxQAxSAyUAxTAyHAySAxVAxXAyVAxYAmSIGN_LAEuVmTHAM_DIGIT_ONEnONE_MARK-1w2mVOWEL_SIGN_AAzYyEyYxE
   xIIyYxOyAzYyYxUyEzYyUyYxVOWEL_SHORTENERdA_ABBREVIATION_SIGNfCOMMAfDANDAgIGIT_EIGHTlFIVEmOURlNINE
   lONElSEVENmIXlTHREEmWOlZEROgOUBLE_COMMAmDANDAfGAP_FILLERfINSERTION_SIGNfLETTER_AnAnInUmBAnHAmCA
   nHAmDAnDAoHAnHAmEmGAnHAmHAmInImJAnHAmKAnHAmLAnHAmMAnHAmNAnGAoHAnHAnNAnYAoHAmOmPAnHAmRAnHAmSAnHA
   nSAmTAnHAnTAoHAmUnUmVEDIC_ANUSVARAnOCALIC_LvLuRvRmWAmYAfOMfPLACEHOLDER_MARKfSANDHI_MARKgIDDHI
   hGN_ANUSVARAlVAGRAHAkCANDRABINDUkFINAL_ANUSVARAkJIHVAMULIYAkNUKTAkUPADHMANIYAkVIRAMAmSARGA
   fVOWEL_SIGN_AArIrUqEqIrIqOqUrUqVOCALIC_LzLyRzRdLINE_LEFTiRIGHTdSPAPERcXT_LINEfPAGE
   bIGHT_WITH_STARScNJAbKO_COMBINING_DOUBLE_DOT_ABOVEoLONG_DESCENDING_TONEtHIGH_TONEtLOW_TONE
   tRISING_TONEoNASALIZATION_MARKoSHORT_HIGH_TONEuLOW_TONEuRISING_TONEhMAeDANTAYALANfIGIT_EIGHTkFIVE
   lOURkNINEkONEkSEVENlIXkTHREElWOkZEROfOROME_SIGNeEXCLAMATION_MARKeHIGH_TONE_APOSTROPHEeLAJANYALAN
   fETTER_AlBAlCHAlDAnGBASINNAlEmElFAlGBAlHAlIlJAmONA_CHAqJAqRAlKAlLAlMAlNmAn_WOLOSOmYAo_WOLOSOlOmO
   lPAlRAmRAlSAlTAlUlWAlYAfOW_TONE_APOSTROPHEeSYMBOL_GBAKURUNENlOO_DENNENeTAMAN_SIGNbLbNBSP
   bO_BICYCLESeREAK_HEREdENTRYi_SIGNdMOBILE_PHONESdONE_UNDER_EIGHTEEN_SYMBOLdPEDESTRIANSeIRACY
   dSMOKING_SYMBOLc-BREAK_SPACEcMINAL_DIGIT_SHAPESeSMA_SIGNcN-BREAKING_HYPHENePOTABLE_WATER_SYMBOL
   dFORKINGcRdDIC_MARK_SIGNdMAL_SUBGROUP_OFs_OR_EQUAL_TOdTH_EAST_AND_SOUTH_WEST_ARROWmRROW
   q_AND_SOUTH_EAST_ARROWrCROSSING_NORTH_WEST_ARROW+aSOUTH_EAST_ARROWrWITH_HOOKlBLACK_ARROW
   lDOUBLE_ARROWlPOINTING_BUDuLEAFuVINE_LEAFlSANS-SERIF_ARROWlTRIANGLE-HEADED_ARROW+g_TO_BAR
   lWHITE_ARROWgINDIC_FRACTION_ONE_EIGHTHzHALFzQUARTERzSIXTEENTHvTHREE_QUARTERS+bSIXTEENTHS
   mPLACEHOLDER_MARKmQUANTITY_MARKpRTER_MARKmRUPEE_MARKgWEST_AND_SOUTH_EAST_ARROWmRROW
   q_AND_NORTH_EAST_ARROWrCROSSING_NORTH_EAST_ARROWrTO_CORNERuLONG_BARrWITH_HOOKlBLACK_ARROW
   lDOUBLE_ARROWlPOINTING_BUDuLEAFuVINE_LEAFlSANS-SERIF_ARROWlTRIANGLE-HEADED_ARROW+g_TO_BAR
   lWHITE_ARROWfEAST-POINTING_AIRPLANEcSEcT_A_SUBSET_OFiPERSET_OFfLMOST_EQUAL_TOfN_ELEMENT_OF
   fSYMPTOTICALLY_EQUAL_TOeCHECK_MARKeEQUAL_TOhIVALENT_TOeGREATER-THANeIDENTICAL_TOeLESS-THAN
   eNORMAL_SUBGROUP_OFw_OR_EQUAL_TOePARALLEL_TOeSIGNfQUARE_IMAGE_OF_OR_EQUAL_TO
   lORIGINAL_OF_OR_EQUAL_TOeTILDEfRUEdCHED_LEFT_SEMICIRCLE_WITH_THREE_DOTS
   jOWER_RIGHT-SHADOWED_WHITE_RIGHTWARDS_ARROWiRIGHT_SEMICIRCLE_WITH_THREE_DOTS
   iUPPER_RIGHT-SHADOWED_WHITE_RIGHTWARDS_ARROWdEe_PADhGEeBOOKi_WITH_DECORATIVE_COVERbULdL
   cMBER_EIGHTEEN_FULL_STOPiLEVEN_FULL_STOPhFIFTEEN_FULL_STOPiOURTEEN_FULL_STOPhNINETEEN_FULL_STOP
   hSEVENTEEN_FULL_STOPiIGNjXTEEN_FULL_STOPhTEN_FULL_STOPiHIRTEEN_FULL_STOPiWELVE_FULL_STOP
   kNTY_FULL_STOPdERO_SIGNcSHU_CHARACTER-1B170u1u2u3u4u5u6u7u8u9uAuBuCuDuEuFt80u1u2u3u4u5u6u7u8u9uA
   uBuCuDuEuFt90u1u2u3u4u5u6u7u8u9uAuBuCuDuEuFtA0u1u2u3u4u5u6u7u8u9uAuBuCuDuEuFtB0u1u2u3u4u5u6u7u8u9
   uAuBuCuDuEuFtC0u1u2u3u4u5u6u7u8u9uAuBuCuDuEuFtD0u1u2u3u4u5u6u7u8u9uAuBuCuDuEuFtE0u1u2u3u4u5u6u7u8
   u9uAuBuCuDuEuFtF0u1u2u3u4u5u6u7u8u9uAuBuCuDuEuFs200u1u2u3u4u5u6u7u8u9uAuBuCuDuEuFt10u1u2u3u4u5u6
   u7u8u9uAuBuCuDuEuFt20u1u2u3u4u5u6u7u8u9uAuBuCuDuEuFt30u1u2u3u4u5u6u7u8u9uAuBuCuDuEuFt40u1u2u3u4u5
   u6u7u8u9uAuBuCuDuEuFt50u1u2u3u4u5u6u7u8u9uAuBuCuDuEuFt60u1u2u3u4u5u6u7u8u9uAuBuCuDuEuFt70u1u2u3u4
   u5u6u7u8u9uAuBuCuDuEuFt80u1u2u3u4u5u6u7u8u9uAuBuCuDuEuFt90u1u2u3u4u5u6u7u8u9uAuBuCuDuEuFtA0u1u2u3
   u4u5u6u7u8u9uAuBuCuDuEuFtB0u1u2u3u4u5u6u7u8u9uAuBuCuDuEuFtC0u1u2u3u4u5u6u7u8u9uAuBuCuDuEuFtD0u1u2
   u3u4u5u6u7u8u9uAuBuCuDuEuFtE0u1u2u3u4u5u6u7u8u9uAuBuCuDuEuFtF0u1u2u3u4u5u6u7u8u9uAuB
   gITERATION_MARKcT_AND_BOLTbYIAKENG_PUACHUE_HMONG_CIRCLED_CAxDIGIT_EIGHT+dFIVE+eOUR+dNINE+dONE
   +dSEVEN+eIX+dTHREE+eWO+dZEROxLETTER_A+fA+eCA+eDA+fLA+eE+fE+eFA+eGA+eHA+gH+eI+eKA+eLA+eMA+fLA+eNA
   +fCA+fKA+fPA+gLA+fQA+fRA+fTA+gSA+gXA+fYA+eO+fO+ePA+fLA+eQA+eRA+fRA+eSA+eTA+fSA+fXA+eU+eVA+eW+eXA
   +fYA+eYA+eZAyOGOGRAM_NYAJxSIGN_FOR_ANIMAL+gINVERTEBRATE+gLOCATION+gPERSON+gTHING+cXW_XW
   yYLLABLE_LENGTHENERxTONE-B+cD+cG+cJ+cM+cS+cVaOBJECT_REPLACEMENT_CHARACTER
   cLIQUE_ANGLE_OPENING_DOWNwUPiHYPHENcSERVER_EYE_SYMBOLbCR_AMOUNT_OF_CHECKeBELT_BUCKLEfOW_TIE
   fRANCH_BANK_IDENTIFICATIONeCHAIRfUSTOMER_ACCOUNT_NUMBEReDASHfOUBLE_BACKSLASHeFORKeHOOK
   eINVERTED_FORKcTAGONAL_SIGNdOPUSbDENbFFICE_BUILDINGbGHAM_FEATHER_MARKgLETTER_AILMnBEITHnCEIRToOLL
   nDAIRnEABHADHpDHADHpMHANCHOLLnFEARNnGORTnIFINoODHADHnLUISnMUINnNGEADALoIONnONNoRnPEITHnRUISnSAIL
   oTRAIFnTINNEnUATHoILLEANNoRgREVERSED_FEATHER_MARKgSPACE_MARKcONEKbHM_SIGNbIL_DRUMbK_HAND_SIGN
   bL_CHIKI_AHADjDIGIT_EIGHTpFIVEqOURpNINEpONEpSEVENqIXpTHREEqWOpZEROjGAAHLAA_TTUDDAAGjLETTER_AAJsK
   sMsWrGrLrNGrTqEDDrNrPrRRqIHrNYrRrSqLAsArErIrOrUqOBrHrTTrVqUCrDrNNrYjMU_TTUDDAGl-GAAHLAA_TTUDDAAG
   jPHAARKAAkUNCTUATION_DOUBLE_MUCAADvMUCAADjRELAAcD_CHINESE_HOOK_MARKmITERATION_MARK
   eHUNGARIAN_CAPITAL_LETTER_A+eA+eK+eMB+eND+dCLOSE_E+dE+eB+eC+fH+fS+eD+eE+eF+eG+fY+eH+eJ+eK+eL+fY
   +eM+fP+eN+fC+fT+g-SHAPED_SIGN+fY+eP+eR+eS+fZ+eT+fY+eV+eZ+fS+dI+eI+dNIKOLSBURG_OE+oUE+dO+eEE+eO
   +dRUDIMENTA_OE+nUE+dSHORT_ER+dU+eNK+eS+eUoNUMBER_FIFTYxVEvONEy_HUNDREDzTHOUSANDvTEN
   oSMALL_LETTER_A+cA+cK+cMB+cND+bCLOSE_E+bE+cB+cC+dH+dS+cD+cE+cF+cG+dY+cH+cJ+cK+cL+dY+cM+dP+cN+dC
   +dT+e-SHAPED_SIGN+dY+cP+cR+cS+dZ+cT+dY+cV+cZ+dS+bI+cI+bNIKOLSBURG_OE+mUE+bO+cEE+cO+bRUDIMENTA_OE
   +lUE+bSHORT_ER+bU+cNK+cS+cUeITALIC_LETTER_AsBEsCHEsDEsEtFtKStLtMtNtRuStSuHuSsHEsItIsKAtEtHEtU
   sNORTHERN_TSEsOsPEtHEsSHEtOUTHERN_TSEsTEtHEsUtUsVEsYEsZElNUMERAL_FIFTYvVEtONEtTENeKEY
   eNORTH_ARABIAN_LETTER_AIN+aLEFzBEHzDAD+bLzES-1+c2+c3zFEHzGEEM+aHAINzHAH+aEHzKAF+aHAHzLAMzMEEM
   zNOONzQAFzREHzSADzTAH+aEH+aHAL+bEHzWAWzYEHzZAH+bINsNUMBER_ONEzTEN+aWENTYePERMIC_LETTER_ANsBUR
   sCHERYsDOItZHOIuITAsEtFsGAIsHAsItAtEsKOKEsLEIsMENOEsNENOEsOtOsPEEIsREIsSHCHOOIuOOItIIsTAItSIUsU
   sVERtOOIsYAuTtERvIvUtRYtUsZATAtHOIhSIAN_NUMBER_HUNDREDtONEtTENuWENTYvOmSIGN_AsURAMAZDAA+b-2+bHA
   rBAtGAsUUMISHrCArDAtHYAAUSH+a-2sIsUrFArGAsUrHArIrJAsIrKAsUrLArMAsIsUrNAsUrPArRAsUrSAsHAsSArTAsHA
   sUrUrVAsIrXAsSHAAYATHIYArYArZAmWORD_DIVIDERiONAL_COMPUTEReSOGDIAN_FRACTION_ONE_HALFmLETTER_ALEPH
   vTERNATE_AYINuYINtBETHtFINAL_ALEPHzBETHzHEzNUN+c_WITH_VERTICAL_TAILzSADHE+e_WITH_VERTICAL_TAIL
   zTAW+c_WITH_VERTICAL_TAILtGIMELtHEvTHtKAPHtLAMEDHtMEMtNUNtPEtRESH-AYIN-DALETHtSADHEvMEKHuHINtTAW
   tWAWtYODHtZAYINnIGATURE_AYIN-DALETHmNUMBER_FIVEuOURtONEw_HUNDREDtTENuHIRTYvREEuWENTYvO
   gUTH_ARABIAN_LETTER_ALEF+aYNzBETHzDALETH+aHADHE+cLETHzFEzGHAYN+aIMELzHE+bTHzKAPH+aHETHzLAMEDHzMEM
   zNUNzQOPHzRESHzSADHE+bMEKH+bT+aHINzTAW+aETH+aHAW+bETHzWAWzYODHzZAYNsNUMBER_FIFTYzONE
   vERIC_INDICATOReTURKIC_LETTER_ORKHON_A+aB+aD+aEB+bD+bG+bK+bL+bN+bR+bS+bT+bY+aG+aL+aN+aQ+aR+aS+bH
   +aT+aYzBASHzEC+aLT+aM+aNC+bG+bT+bY+aP+aSH+aZzI+aC+aQzO+aE+bK+aP+aQ+aTsYENISEI_A+bB+bD+bE+cB+cG+cK
   +cN+dG+cT+cY+bG+bL+bNG+bQ+bR+bSH+bT+bY+aE+bC+bNC+cT+cY+bSH+bZ+aI+bQ+aOE+cK+bQ
   eUYGHUR_COMBINING_DOT_ABOVEzBELOWvTWO_DOTS_ABOVE+eBELOWlLETTER_ALEPHsBETHsFINAL_HETHsGIMEL-HETH
   sKAPHsLAMEDHtESHsMEMsNUNsPEsRESHsSADHEuMEKHtHINsTAWsWAWsYODHsZAYINlPUNCTUATION_BARxFOUR_DOTS
   xTWO_BARS+bDOTSdER_ADULTgMANgWOMANcIVEbM_SYMBOL
   bN_WITH_EXCLAMATION_MARK_WITH_LEFT_RIGHT_ARROW_ABOVEcCOMING_AUTOMOBILEjBUSjFIRE_ENGINEjPOLICE_CAR
   jTAXIcE_BUTTON_MOUSEeDOT_LEADERiOVER_TWO_DOTS_PUNCTUATIONd-PIECE_SWIMSUITcIONbPEN_BOOKhX
   fCENTRE_ASTERISKmBLACK_STARmCROSSmTEARDROP-SPOKED_ASTERISKfFILE_FOLDERgOLDERfHANDS_SIGNfLOCK
   fMAILBOX_WITH_LOWERED_FLAGsRAISED_FLAGfSUBSEThPERSETe-CIRCUIT-OUTPUT_H-TYPE_SYMBOLuL-TYPE_SYMBOL
   fOUTLINED_RIGHTWARDS_ARROWdRATING_SYSTEM_COMMANDcHIUCHUScPOSITIONcTICAL_DISCm_ICONeON_KEY
   bR_WITH_DOT_INSIDEcANGE_BOOKhHEARTfUTANcIGINAL_OFdYA_AI_LENGTH_MARKhU_LENGTH_MARKgDIGIT_EIGHT
   mFIVEnOURmNINEmONEmSEVENnIXmTHREEnWOmZEROgFRACTION_ONE_EIGHTHtHALFtQUARTERtSIXTEENTH
   pTHREE_QUARTERSvSIXTEENTHSgISSHARgLETTER_AoAoIoUnBAoHAnCAoHAnDAoDApHAoHAnEnGAoHAnHAnIoInJAoHAnKA
   oHAnLAoLAnMAnNAoGAoNAoYAnOnPAoHAnRAoHAoRAnSAoHAoSAnTAoHAoTApHAnUoUnVAoOCALIC_LwLvRwRnWAnYAoYA
   gSIGN_ANUSVARAmVAGRAHAlCANDRABINDUlNUKTAlOVERLINElVIRAMAnSARGAgVOWEL_SIGN_AAsIsUrErIsIrOrUsU
   rVOCALIC_L+aLzR+aRcNATE_LEFT_PARENTHESIShRIGHT_PARENTHESIScTHODOX_CROSSbSAGE_CAPITAL_LETTER_AwHwI
   xNvBRAvCHAvDHAvEwHCHAxKAxPAxTAySAwINvGHAvHAwYAvIvKAwHAwYAvLAvMAvNAvOwINvPAvSAwHAvTAwSAxHAvUvWAvZA
   wHAgSMALL_LETTER_AuHuIvNtBRAtCHAtDHAtEuHCHAvKAvPAvTAwSAuINtGHAtHAuYAtItKAuHAuYAtLAtMAtNAtOuINtPA
   tSAuHAtTAuSAvHAtUtWAtZAuHAcCcMANYA_DIGIT_EIGHToFIVEpOURoNINEoONEoSEVENpIXoTHREEpWOoZEROiLETTER_A
   qAqLEFpBApCAYNpDEELqHApEqEpFApGApHApIpJApKAAFqHApLAANpMIINpNUUNpOqOpQAAFpRApSAqHIINpTApUpWAWpXA
   pYAbTTERdOMAN_SIYAQ_ALTERNATE_NUMBER_EIGHT+fFIVE+gOUR+j_HUNDRED+fNINE+fSEVEN+gIX+i_HUNDRED+fTEN
   +i_THOUSAND+gHREE+gWO+i_THOUSANDoFRACTION_ONE_HALF+bSIXTHoMARRATANoNUMBER_EIGHT+a_HUNDRED
   +bTHOUSAND+aY+b_THOUSANDvFIFTY+a_THOUSANDxVEz_HUNDRED+aTHOUSANDwORTY+a_THOUSANDxURz_HUNDRED
   +aTHOUSANDvNINEz_HUNDRED+aTHOUSANDzTY+b_THOUSANDvONEy_HUNDREDzTHOUSANDvSEVEN+a_HUNDRED+bTHOUSAND
   +aTY+c_THOUSANDwIXy_HUNDREDzTHOUSANDyTY+a_THOUSANDvTENy_THOUSANDwHIRTY+b_THOUSANDxREE+a_HUNDRED
   +bTHOUSANDwWENTY+b_THOUSANDxOy_HUNDREDzTHOUSANDbUNCE_SIGNcTBOX_TRAYdLINED_BLACK_STARjGREEK_CROSS
   jLATIN_CROSSjWHITE_STARbVERHEATED_FACEeLAPhPING_BLACK_SQUARESmWHITE_AND_BLACK_SQUARESsSQUARESfINE
   bWLbXbYSTERaPACKAGEcDdDING_CHARACTERcGEe_FACING_UPfWITH_CIRCLED_TEXTlURLeReSdODA
   cHAWH_HMONG_CLAN_SIGN_FAJxHAMzWJxKHAByOOyWMxLAUJyISxMUASxPHABxTHOJySABzHEEJzWBxVAJyWJxXYOOJxYAJ
   yEEGoONSONANT_AUxCAUyHAUxHAUyLAUyNAUxLAUxMAUxNAUyCHAUyKAUyLAUyTHAUzSAUxPLHAUxQHAUxRAUxVAUxXAUxYAU
   nDIGIT_EIGHTtFIVEuOURtNINEtONEtSEVENuIXtTHREEuWOtZEROnMARK_CIM_HOMwKESxHAVwSOxUAMwTAUMxUB
   nNUMBER_HUNDRED_MILLIONS+bSuMILLIONSuTEN_BILLIONSyTHOUSANDSxSvRILLIONSnSIGN_AVsCIM_CHEEM
   xUAM_TSHOOJwHAIS_LUS_NTOG_NTOGwNRES_TOSwPUB_DAWBwTSOV_ROGxXWV+a_CHWVsHLItNUBsIB_YAMsLOSsMEEJ_SUAB
   xTSEEBtUSsNQIGtTUJsTAUtHIRD-STAGE_HLItXHEEJ_CEEVsVOS_FEEMwLUBwNRUAwSEEVwTHIAByOMxSHAB_CEEBsXAUS
   tIABtYEEM_FAIByNTXIVyRHOyTOVuOOsZWJ_THAJnVOWEL_KAABwVvBvIBwVvUBwVvVvWBwVuEBvEBwVvVuIABwVvBvVuOB
   vOBwVvVuUABwVvBvVuWBvVcLLASdM_BRANCHfDOWN_HANDfTREEfUP_HANDeS_UP_TOGETHER
   eYRENE_LEFT-POINTING_FLEURONmTTER_ALEPHsYINrBETHrDALETHrFINAL_NUNrGIMELrHEtTHrKAPHrLAMEDHrMEMrNUN
   rPErQOPHrRESHrSADHEtMEKHsHINrTAWsETHrWAWrYODHrZAYINkNUMBER_FIVEsOURrONErTENsHREEsWENTYtO
   kRIGHT-POINTING_FLEURONcNCAKESdDA_FACEcPERCLIPcRACHUTEeGRAPH_SEPARATORjOSjUS_MARKeLLEL_TO
   jWITH_HORIZONTAL_STROKEoTILDE_OPERATORdENTHESIZED_DIGIT_EIGHTuFIVEvOURuNINEuONEuSEVENvIXuTHREEvWO
   oHANGUL_CHIEUCH+c_AwIEUC+a_A+bUvHIEUH+a_AvIEUNG+a_AvKHIEUKH+c_AwIYEOK+b_AvMIEUM+a_AvNIEUN+a_A
   vPHIEUPH+c_AwIEUP+a_AvRIEUL+a_AvSIOSz_AvTHIEUTH+c_AwIKEUT+b_AoIDEOGRAPH_ALLIANCEyCALL
   zONGRATULATIONyEARTHzIGHTzNTERPRISEyFESTIVALzINANCIAL+aRE+aVEzOURyHAVEyLABORyMETALzOONyNAMEzINE
   yONEyREACH+aPRESENT+aSOURCE+bTySELF+aVENzIXzOCIETYzPECIALzTOCK+aUDYzUN+aPERVISEyTENzHREEzWOyWATER
   zOODoKOREAN_CHARACTER_O_HU+gJEONoLATIN_CAPITAL_LETTER_A+jB+jC+jD+jE+jF+jG+jH+jI+jJ+jK+jL+jM+jN+jO
   +jP+jQ+jR+jS+jT+jU+jV+jW+jX+jY+jZuSMALL_LETTER_A+hB+hC+hD+hE+hF+hG+hH+hI+hJ+hK+hL+hM+hN+hO+hP+hQ
   +hR+hS+hT+hU+hV+hW+hX+hY+hZoNUMBER_EIGHTEENwLEVENvFIFTEENwOURTEENvNINETEENvSEVENTEENwIXTEENvTEN
   wHIRTEENwWELVEyNTYdROTdT_ALTERNATION_MARKeIAL_DIFFERENTIALiLINE_BACKWARDnDOWNnFORWARDnUP
   hLY-RECYCLED_PAPER_SYMBOLeNERSHIP_SIGNeY_POPPERcSSED_SYMBOLfNGER_SHIPeIVE-PULL-DOWN-OUTPUT_SYMBOL
   nUP-OUTPUT_SYMBOLePORT_CONTROLcU_CIN_HAU_GLOTTAL_STOPy_FINALzVARIANTmLETTER_AtBAtCAuHAtDAtEtFA
   uINAL_KzLzMzN+aGzPzTzWzYtGAtHAtIuAtKAuHAtLAtMAtNAuGAtOtPAuHAtRAtSAtTAuHAtUuAtVAtZA
   nOW-FALLING_TONE+c_FINAL+dLONG+h_FINALmMID-LEVEL_TONE+a_FINAL+bLONG_FINALmRISING_TONEx_FINALyLONG
   +c_FINALmSANDHI_GLOTTAL_STOP+f_FINALtTONEx_FINALyLONG+c_FINALcW_PRINTSbDFcIbEACE_SYMBOLeHeOCK
   dNUTSdRcDESTRIANcN_OVER_STAMPED_ENVELOPEdCILdGUINdSIVE_FACEdTAGRAMcOPLE_HUGGINGcR_MILLE_SIGNeSIGN
   eTEN_THOUSAND_SIGNdCENT_SIGNdFORMING_ARTSdMANENT_PAPER_SIGNdPENDICULARn_WITH_SdSEVERING_FACE
   eON_BOWING_DEEPLYhCLIMBINGhDOING_CARTWHEELhFROWNINGhIN_LOTUS_POSITIONkSTEAMY_ROOM
   hRAISING_BOTH_HANDS_IN_CELEBRATIONhWITH_BALLnLOND_HAIRmCROWNmFOLDED_HANDSmHEADSCARFmPOUTING_FACE
   gAL_COMPUTERePECTIVEcSETA_SIGNdO_SIGNcTRI_DISHbHAGS-PA_DOUBLE_HEAD_MARKjLETTER_ArLTERNATE_YA
   rSPIRATED_FAqBAqCAsNDRABINDUrHAqDArDArZAqErEqFAqGArGAqHAqIqJAqKArHAqLAqMAqNArGArNArYAqOqPArHAqQA
   qRAqSArHArMALL_AqTArHArSAsHArTAsHAqUqVOICED_HAvLESS_SHAqWAqXAqYAqZArHAjMARK_DOUBLE_SHADoSHAD
   jSINGLE_HEAD_MARKkUBJOINED_LETTER_RA+aWA+aYAlPERFIXED_LETTER_RAdISTOS_DISC_SIGN_ARROWtBEEwHIVE
   uOOMERANGvWuULLS_LEGtCAPTIVEvRPENTRY_PLANEvTuHILDuLUBuOLUMNvMBxINING_OBLIQUE_STROKEtDOLIUMvVE
   tEAGLEtFLUTEtGAUNTLETuRATERtHELMETuIDEuORNtLIDvLYtMANACLESvTTOCKtOX_BACKtPAPYRUSuEDESTRIAN
   uLANE_TREEvUMED_HEADtRAMuOSETTEtSAWuHIELDwPuLINGuMALL_AXEuTRAINERtTATTOOED_HEADuIARAuUNNYtVINE
   tWAVY_BANDuOMANcILIPPINE_DOUBLE_PUNCTUATIONlSINGLE_PUNCTUATIONcOENICIAN_LETTER_AINtLFsBETsDELT
   sGAMLsHEuTsKAFsLAMDsMEMsNUNsPEsQOFsROSHsSADEtEMKtHINsTAUtETsWAUsYODsZAIlNUMBER_ONEv_HUNDREDsTEN
   tHREEtWENTYuOlWORD_SEPARATORdLUSbICKeUP_TRUCKcEcGd_FACEeNOSEcLCROW_SIGNdE_OF_POOdLcNATA
   dCHED_FINGERSfING_HANDdE_DECORATIONeAPPLEdWHEEL_STARcSCESdTOLcTCHFORKj_WITH_TEE_TOPbLACARD
   eE_OF_INTEREST_SIGNjWORSHIPdNCK_CONSTANTp_OVER_TWO_PIdYGROUND_SLIDEeING_CARD_ACE_OF_CLUBS
   uDIAMONDSuHEARTSuSPADESnBACKoLACK_JOKERnEIGHT_OF_CLUBSwDIAMONDSwHEARTSwSPADESnFIVE_OF_CLUBS
   vDIAMONDSvHEARTSvSPADESoOOLpUR_OF_CLUBSvDIAMONDSvHEARTSvSPADESnJACK_OF_CLUBSvDIAMONDSvHEARTS
   vSPADESnKING_OF_CLUBSvDIAMONDSvHEARTSvSPADESoNIGHT_OF_CLUBSxDIAMONDSxHEARTSxSPADESnNINE_OF_CLUBS
   vDIAMONDSvHEARTSvSPADESnQUEEN_OF_CLUBSwDIAMONDSwHEARTSwSPADESnRED_JOKERnSEVEN_OF_CLUBSwDIAMONDS
   wHEARTSwSPADESoIX_OF_CLUBSuDIAMONDSuHEARTSuSPADESnTEN_OF_CLUBSuDIAMONDSuHEARTSuSPADES
   oHREE_OF_CLUBSwDIAMONDSwHEARTSwSPADESoRUMP-1u0u1u2u3u4u5u6u7u8u9t2u0u1t3t4t5t6t7t8t9oWO_OF_CLUBS
   uDIAMONDSuHEARTSuSPADESnWHITE_JOKERcDcUdNGERdS_SIGNj_ABOVE_EQUALS_SIGNkIN_LEFT_HALF_CIRCLE
   nRIGHT_HALF_CIRCLEnTRIANGLEkWITH_BLACK_TRIANGLEpCIRCUMFLEX_ACCENT_ABOVEpDOT_BELOW
   pSMALL_CIRCLE_ABOVEqUBSCRIPT_TWOpTILDE_ABOVEvBELOWe-MINUS_SIGNdTOf_FORM_FIVEmOURlTHREEmWObM
   bOCKET_CALCULATORcLICE_CARkS_REVOLVING_LIGHThOFFICERcODLEcP_DIRECTIONAL_FORMATTINGqISOLATEdCORN
   cRTABLE_STEREOcSEIDONdITION_INDICATORdTAL_HORNhMARKl_FACEeBOXcT_OF_FOODdABLE_WATER_SYMBOLeTO
   dTED_PLANTcUCHdLTRY_LEGdND_SIGNdRING_LIQUIDdTING_CAT_FACEiFACEcWER_ON_SYMBOLi-OFF_SYMBOL
   gSLEEP_SYMBOLhYMBOLbRAYER_BEADScECEDESi_ABOVE_ALMOST_EQUAL_TOpEQUALS_SIGNpNOT_ALMOST_EQUAL_TO
   tEQUAL_TOpSINGLE-LINE_EQUALS_SIGN+bNOT_EQUAL_TOjBUT_NOT_EQUIVALENT_TOjOR_EQUAL_TOpIVALENT_TO
   jUNDER_RELATIONdGNANT_MANjPERSONjWOMANdSCRIPTION_TAKEeENTATION_FORM_FOR_VERTICAL_COLON+hMMA
   +fEM_DASH+gN_DASH+gXCLAMATION_MARK+fHORIZONTAL_ELLIPSIS+fIDEOGRAPHIC_COMMA+rFULL_STOP
   +fLEFT_ANGLE_BRACKET+kBLACK_LENTICULAR_BRACKET+kCORNER_BRACKET+lURLY_BRACKET
   +kDOUBLE_ANGLE_BRACKET+kPARENTHESIS+kSQUARE_BRACKET+kTORTOISE_SHELL_BRACKET+kWHITE_CORNER_BRACKET
   +qLENTICULAR_BRACKET+gOW_LINE+fQUESTION_MARK+fRIGHT_ANGLE_BRACKET+lBLACK_LENTICULAR_BRACKET
   +lCORNER_BRACKET+mURLY_BRACKET+lDOUBLE_ANGLE_BRACKET+lPARENTHESIS+lSQUARE_BRACKET
   +lTORTOISE_SHELL_BRACKET+lWHITE_CORNER_BRACKET+rLENTICULAR_BRACKET++fKCET+fSEMICOLON
   +fTWO_DOT_LEADER+fWAVY_LOW_LINEdTZELdVIOUS_PAGEcIMEdNCEgSSeT_SCREEN_SYMBOLfERh_ICONdVACY_MESSAGE
   fTE_USE_ONEmTWOl-1m2cOBING_CANEdHIBITED_SIGNdJECTIVEdPERTY_LINEeORTIONkAL_TOdSERPINA
   bSALTER_PAHLAVI_FOUR_DOTS_WITH_CROSS+fDOTqLETTER_ALEPHxBETHxDALETHxGIMELxHEzTHxKAPHxLAMEDH
   xMEM-QOPHxNUNxPExSADHEzMEKHyHINxTAWxWAW-AYIN-RESHxYODHxZAYINqNUMBER_FOURxONE+a_HUNDREDxTENyHREE
   yWENTYzOqSECTION_MARKqTURNED_SECTION_MARKbU1c2cBLIC_ADDRESS_LOUDSPEAKERcNCTUATION_SPACE
   gS_ELEVATUS_MARKcRPLE_HEARTdSEcSHPINcT_LITTER_IN_ITS_PLACE_SYMBOLaQUADRANT_LOWER_LEFTpRIGHT
   jUPPER_LEFTt_AND_LOWER_LEFT_AND_LOWER_RIGHT+eRIGHTyUPPER_RIGHT_AND_LOWER_LEFT+uRIGHTpRIGHT
   u_AND_LOWER_LEFT+j_AND_LOWER_RIGHTfUPLE_INTEGRAL_OPERATORkPRIMEdRTER_NOTE
   dTERNION_INTEGRAL_OPERATORcESTION_EXCLAMATION_MARKjMARKiED_EQUAL_TOcINCUNXcOTATION_MARKaRABBIT
   g_FACEcCCOONdING_CARhMOTORCYCLEcDICAL_SYMBOL_BOTTOMeOf_BUTTONfACTIVE_SIGNcILWAY_CARiTRACKdNeBOW
   dSED_BACK_OF_HANDhCOMMAhDOTkTED_INTERPOLATION_MARKERhFISThHANDl_WITH_FINGERS_SPLAYED
   rPART_BETWEEN_MIDDLE_AND_RING_FINGERShINTERPOLATION_MARKERhMC_SIGNiD_SIGNiR_SIGNhSQUAREcMcTdIO
   cZORbECEIPTdORD_SEPARATORdREATIONAL_VEHICLEdYCLED_PAPER_SYMBOLgING_SYMBOL_FOR_GENERIC_MATERIALS
   vTYPE-1_PLASTICS+a2_PLASTICS+a3_PLASTICS+a4_PLASTICS+a5_PLASTICS+a6_PLASTICS+a7_PLASTICScD_APPLE
   eGIFT_ENVELOPEcFERENCE_MARKcGIONAL_INDICATOR_SYMBOL_LETTER_A+hB+hC+hD+hE+hF+hG+hH+hI+hJ+hK+hL+hM
   +hN+hO+hP+hQ+hR+hS+hT+hU+hV+hW+hX+hY+hZeSTERED_SIGNcJANG_CONSONANT_SIGN_HwNxGwRhLETTER_AoBAoCAoDA
   oGAoHAoJAoKAoLAoMApBAoNApDApGAqGApYAqJAoPAoRAoSAoTAoWAoYAhSECTION_MARKhVIRAMAiOWEL_SIGN_AItUsEtA
   tUsIsOsUcLIEVED_FACEcMINDER_RIBBONcPLACEMENT_CHARACTERcSPONSEdTRICTED_LEFT_ENTRY-1w2fOOM
   cTURN_LEFThRIGHThSYMBOLcVERSE_CHECKER_BOARDiINDEXiLIGHT_FOUR_POINTED_PINWHEEL_STARkNE_FEED
   iSOLIDUSp_OPERATORqPRECEDING_SUBSETqWITH_HORIZONTAL_STROKEiTILDE_OPERATOR_ABOVE_LEFTWARDS_ARROW
   +dRIGHTWARDS_ARROWhD_ANGLEo_WITH_UNDERBARjCOMMAjDOUBLE_PRIMEv_QUOTATION_MARKqSTROKE_NOT_SIGN
   jEMPTY_SETjFORKED_PARAGRAPHOSjHAND_WITH_MIDDLE_FINGER_EXTENDEDjNOT_SIGNjPILCROW_SIGNkRIME
   jQUESTION_MARKjRAISED_HAND_WITH_FINGERS_SPLAYEDkIGHT_ANGLEkOTATED_FLORAL_HEART_BULLET
   jSANS-SERIF_CAPITAL_LkEMICOLONjTHUMBS_DOWN_SIGNqUP_SIGNkILDEo_EQUALSkRIPLE_PRIMEjVICTORY_HAND
   dOLVING_HEARTSbHINOCEROSbIcAL_SIGNcBBONg_ARROW_DOWN_LEFTsRIGHTnLEFT_DOWNsUPnRIGHT_DOWNtUPnUP_LEFT
   qRIGHTcCE_BALLfCRACKERcFLEcGHT_AND_LOWER_ONE_EIGHTH_BLOCKkUPPER_ONE_EIGHTH_BLOCKiGER_BUBBLEjLE
   l_BRACKETt_WITH_DOTmDOTTED_SUBSTITUTION_MARKERmSUBSTITUTION_MARKERmVARIANT_WITH_SQUAREmWITH_ARC
   rDOWNWARDS_ZIGZAG_ARROWhRC_GREATER-THAN_BRACKETiROW_WITH_CIRCLED_PLUSrSMALL_CIRCLE
   gBLACK_LENTICULAR_BRACKETmTORTOISE_SHELL_BRACKETgCEILINGhORNER_BRACKEThURLY_BRACKETt_LOWER_HOOK
   uMIDDLE_PIECEuUPPER_HOOKgDOTTED_SUBSTITUTION_BRACKETiUBLE_ANGLE_BRACKEToRROW_WITH_ROUNDED_HEAD
   nPARENTHESISnQUOTATION_MARKnWIGGLY_FENCEgFISH_TAILiVE_EIGHTHS_BLOCKhLOORgHALF_BLACK_CIRCLErSTAR
   nOCKlFOLDERlMEDIUM_SHADElRUNNING_MANiND_TELEPHONE_RECEIVERgLOW_PARAPHRASE_BRACKET
   gNORMAL_FACTOR_SEMIDIRECT_PRODUCTgONE_EIGHTH_BLOCKkQUARTER_BLOCKhPEN_SQUARED_DOThUTER_JOIN
   gPARENTHESISr_EXTENSIONsLOWER_HOOKsUPPER_HOOKgRAISED_OMISSION_BRACKETgS-SHAPED_BAG_DELIMITER
   hEMIDIRECT_PRODUCTiVEN_EIGHTHS_BLOCKhIDEWAYS_U_BRACKETiNGLE_QUOTATION_MARKhPEAKER
   n_WITH_ONE_SOUND_WAVEtTHREE_SOUND_WAVESjECH_BUBBLEhQUARE_BRACKETu_EXTENSIONvLOWER_CORNER
   vUPPER_CORNERvWITH_DOUBLE_STROKE+aQUILL+aSTROKE+aTICK_IN_BOTTOM_CORNER+iTOP_CORNER+aUNDERBAR
   hUBSTITUTION_BRACKETgTACKhHIRD_WHITE_RIGHT_POINTING_INDEXiOUGHT_BUBBLEiREE_EIGHTHS_BLOCK
   mQUARTERS_BLOCKhORTOISE_SHELL_BRACKEThRANSPOSITION_BRACKETiIANGLEo_ABOVE_LEFT_TRIANGLE
   mULAR_ONE_QUARTER_BLOCKgVERTICAL_BAR_WITH_QUILLqOX_LINEgWHITE_CORNER_BRACKETnURLY_BRACKET
   mLENTICULAR_BRACKETmPARENTHESISmSQUARE_BRACKETmTORTOISE_SHELL_BRACKEThIGGLY_FENCE
   f-FACING_ARMENIAN_ETERNITY_SIGNnFISTnSVASTI_SIGNy_WITH_DOTSgHANDED_INTERLACED_PENTAGRAM
   gPOINTING_ANGLE_BRACKETpCURVED_ANGLE_BRACKETpDOUBLE_ANGLE_QUOTATION_MARKpMAGNIFYING_GLASS
   gSHADED_WHITE_RIGHTWARDS_ARROWhIDE_ARC_CLOCKWISE_ARROWgTO-LEFT_EMBEDDINGoISOLATEoMARKoOVERRIDE
   fHAND_INTERIOR_PRODUCTfWARDS_ARROWq_ABOVE_ALMOST_EQUAL_TOxREVERSE_ALMOST_EQUAL_TO+fTILDE_OPERATOR
   xSHORT_LEFTWARDS_ARROWxTILDE_OPERATORsND_UPPER_AND_LOWER_ONE_EIGHTH_BLOCKrFROM_BAR
   z_TO_BLACK_DIAMONDrOVER_LEFTWARDS_ARROWrTHROUGH_GREATER-THANzSUPERSETzXsO_BARvLACK_DIAMOND
   rWITH_CORNER_DOWNWARDSwDOTTED_STEMyUBLE_VERTICAL_STROKEwEQUILATERAL_ARROWHEADwHOOK
   wLARGE_TRIANGLE_ARROWHEADxOOPwMEDIUM_TRIANGLE_ARROWHEADwNOTCHED_TAILwPLUS_BELOW
   wSMALL_EQUILATERAL_ARROWHEAD+cTRIANGLE_ARROWHEADxTROKEwTAIL+a_WITH_DOUBLE_VERTICAL_STROKE
   +gVERTICAL_STROKExIP_DOWNWARDS+aUPWARDSwVERTICAL_STROKEq-TAILlBACK-TILTED_SHADOWED_WHITE_ARROW
   mLACK_ARROWrCIRCLED_WHITE_ARROWmOTTOM_SHADED_WHITE_ARROWlCOMPRESSED_ARROWlDASHED_ARROW
   mOUBLE_ARROWx_FROM_BARyWITH_STROKE+dVERTICAL_STROKEx-TAILsDASH_ARROWlFINGER-POST_ARROW
   mRONT-TILTED_SHADOWED_WHITE_ARROWlHANDnRPOON_OVER_LEFTWARDS_HARPOON
   tWITH_BARB_DOWN_ABOVE_LEFTWARDS_HARPOON_WITH_BARB_DOWN+iBELOW_LONG_DASH+iFROM_BAR+iTO_BAR+hWARDS
   +dUP_ABOVE_LEFTWARDS_HARPOON_WITH_BARB_UP+nONG_DASH+mRIGHTWARDS_HARPOON_WITH_BARB_DOWN+gFROM_BAR
   +gTO_BAR+fWARDSmEAVY_ARROWrCOMPRESSED_ARROWlLEFT-SHADED_WHITE_ARROWlOPEN-HEADED_ARROW
   lPAIRED_ARROWSlQUADRUPLE_ARROWlRIGHT-SHADED_WHITE_ARROWmOCKETlSANS-SERIF_ARROWmQUARED_ARROW
   oIGGLE_ARROWlTOP_SHADED_WHITE_ARROWmRIANGLE_ARROWHEADt-HEADED_ARROW
   +g_OVER_LEFTWARDS_TRIANGLE-HEADED_ARROW+hTO_BAR+hWITH_BOLD_SHAFT+mDOUBLE_HORIZONTAL_STROKE
   +tVERTICAL_STROKE+mHEAVY_SHAFT+mLONG_TIP_DOWNWARDS+vUPWARDS+mMEDIUM_SHAFT+mNARROW_SHAFT
   +mVERY_HEAVY_SHAFT+bDASHED_ARROW+bPAIRED_ARROWSoPLE_ARROWsDASH_ARROWmWO_HEADED_ARROW
   o-HEADED_ARROW_FROM_BAR+cWITH_DOUBLE_VERTICAL_STROKE+hTAIL+l_WITH_DOUBLE_VERTICAL_STROKE
   +rVERTICAL_STROKE+iRIANGLE_ARROWHEADS+hVERTICAL_STROKEwTRIPLE_DASH_ARROWlWAVE_ARROWmHITE_ARROW
   w_FROM_WALLxWITHIN_TRIANGLE_ARROWHEADcNGe_ABOVEfBUOYfEQUAL_TOfIN_EQUAL_TOfOPERATORfPOINT
   eED_PLANETeING_BELLcSING_DIAGONAL_CROSSING_FALLING_DIAGONALzSOUTH_EAST_ARROWbLEcIcMcO
   bOASTED_SWEET_POTATOcBOT_FACEcCKeETcLL_OF_PAPEReED-UP_NEWSPAPERfR_COASTERhSKATE
   eING_ON_THE_FLOOR_LAUGHINGcMAN_AS_SIGNgCENTURIAL_SIGNgDENARIUS_SIGNhIMIDIA_SEXTULA_SIGN
   hUPONDIUS_SIGNgNUMERAL_EIGHTpLEVENoFIFTYt_EARLY_FORMuTHOUSANDqVEs_HUNDREDtTHOUSANDpOURoNINEoONE
   r_HUNDREDz_THOUSANDsTHOUSAND+a_C_DoREVERSED_ONE_HUNDREDoSEVENpIXr_LATE_FORMoTENr_THOUSANDpHREE
   pWELVEqOgQUINARIUS_SIGNgSEMUNCIA_SIGNiSTERTIUS_SIGNiXTANS_SIGNkULA_SIGNhILIQUA_SIGNgUNCIA_SIGN
   cOSTERcSEeTTEcTATED_CAPITAL_QiFLORAL_HEART_BULLETiHEAVY_BLACK_HEART_BULLET
   iLIGHT_FOUR_POINTED_BLACK_CUSPiWHITE_FOUR_POINTED_CUSPcUND_PUSHPINgTARGETfED_SYMBOL_FOR_CAItFUtLU
   tSHOUvUANGXItXIcWBOATbSbUBLE_SIGNcGBY_FOOTBALLcLE-DELAYEDcMI_DIGIT_EIGHTlFIVEmOURlNINElONElSEVEN
   mIXlTHREEmWOfFRACTION_ONE_HALFsQUARTERsTHIRDoTWO_THIRDSfNUMBER_EIGHT_HUNDREDrYmFIFTYoVE_HUNDRED
   nORTYoUR_HUNDREDmNINE_HUNDREDqTYmONE_HUNDREDmSEVEN_HUNDREDrTYnIX_HUNDREDpTYmTENnHIRTYoREE_HUNDRED
   nWENTYoO_HUNDREDcNIC_ARLAUG_SYMBOLgBELGTHOR_SYMBOLgCROSS_PUNCTUATIONgLETTER_AC_AoESCoLGIZ_EOLHX
   oNSUZ_AnBERKANAN_BEORC_BJARKAN_BnCoALCoEALCpNoWEORTHnDoAGAZ_DAEG_DoOTTED-LuNuPnEoARoHWAZ_EH_EoNG
   oTHnFEHU_FEOH_FE_FoRANKS_CASKET_AC+cESC+bEH+bIS+bOSnGoARoEBO_GYFU_GpRnHAEGL_HpGLAZ_HnICELANDIC-YR
   oNGqWAZoORoSAZ_IS_ISS_IoWAZ_EOHnJERAN_JnKoAUN_KrAnLAUKAZ_LAGU_LOGR_LoONG-BRANCH-AR_AEzHAGALL_H
   zMADR_MzOSS_OzYRnMANNAZ_MAN_MnNAUDIZ_NYD_NAUD_NnOoEoNoOoPEN-PoS_OoTHALAN_ETHEL_OnPERTHO_PEORTH_P
   nQnRAIDO_RAD_REID_RnSHpORT-TWIG-AR_AyBJARKAN_ByHAGALL_HyMADR_MyNAUD_NyOSS_OySOL_SyTYR_TyYR
   oIGEL_LONG-BRANCH-SOL_SoOWILO_SoTANnTHURISAZ_THURS_THORNoIWAZ_TIR_TYR_TnURUZ_UR_UnVnWoUNJO_WYNN_W
   nXnYoRnZgMULTIPLE_PUNCTUATIONgSINGLE_PUNCTUATIONgTVIMADUR_SYMBOLdNEReING_SHIRT_WITH_SASHcPEE_SIGN
   cSSIAN_ASTROLOGICAL_SYMBOL_BINOVILE+cNOVILE+cQUINTILE+cSENTAGON+cTREDECILE+cVIGINTILE
   aS_IN_TRIANGLEbAFETY_PINhVESTcGITTARIUScILBOATcKE_BOTTLE_AND_CUPcLT_SHAKEReIREdUTING_FACE
   cMARITAN_ABBREVIATION_MARKkLETTER_ALAFrBAAsITrDALATrFIrGAMANrINsTsYrKAAFrLABATrMIMrNUNrQUFrRISH
   rSHANsINGAATrTAAFsITsSAADIYrYUTrZENkMARK_DAGESHpEPENTHETIC_YUTpINr-ALAFpNEQUDAApOCCLUSION
   lODIFIER_LETTER_EPENTHETIC_YUT+aI+aSHORT_AkPUNCTUATION_AFSAAQxNGEDyNAAUxRKAANUxTMAAUwBAU
   wMELODIC_QITSAwNEQUDAAwQITSAwSHIYYAALAAxOF_MASHFAATwTURUwZAEFxIQAAkVOWEL_SIGN_AwAvEvIvLONG_A+bA
   +aE+aI+aUvOwVERLONG_A+fAvSHORT_AwUKUNvUcNDWICHdS-SERIF_HEAVY_DOUBLE_COMMA_QUOTATION_MARK_ORNAMENT
   yTURNED_COMMA_QUOTATION_MARK_ORNAMENTrLOW_DOUBLE_COMMA_QUOTATION_MARK_ORNAMENT
   lINTERROBANG_ORNAMENTcRIcTELLITEj_ANTENNAdURNcURASHTRA_CONSONANT_SIGN_HAARUlDANDAmIGIT_EIGHTrFIVE
   sOURrNINErONErSEVENsIXrTHREEsWOrZEROmOUBLE_DANDAlLETTER_AtAtItUsBAtHAsCAtHAsDAtDAuHAtHAsEtEsGAtHA
   sHAsItIsJAtHAsKAtHAsLAtLAsMAsNAtGAtNAtYAsOtOsPAtHAsRAsSAtHAtSAsTAtHAtTAuHAsUtUsVAtOCALIC_L+bL+aR
   +bRsYAlSIGN_ANUSVARAqCANDRABINDUqVIRAMAsSARGAlVOWEL_SIGN_AAxIxUwExEwIxIwOxOwUxUwVOCALIC_L+fL+eR
   +fReOPODcXOPHONEbCALESdRFcHOOLg_SATCHELcIcOOTERdRPIONgUScREENeWDRIVERdIPT_CAPITAL_BpEpFpHpIpLpMpP
   pRhLIGATURE_ET_ORNAMENThSMALL_EnGnLnOdOLLdUPLEbEALdTcCOND_PLACE_MEDALdTION_SIGNeORcDNA
   cE-NO-EVIL_MONKEYdDLINGcGMENThED_DIGIT_EIGHTqFIVErOURqNINEqONEqSEVENrIXqTHREErWOqZEROcLFIE
   cMICOLONeDIRECT_PRODUCT_WITH_BOTTOM_CLOSEDeSEXTILEcPARATED_SYMBOL
   cRIOUS_FACE_WITH_SYMBOLS_COVERING_MOUTHdVICE_MARKcSAME_DOTdQUIQUADRATEcT_MINUSeTRANSMIT_STATE
   cWING_NEEDLEcXTILEbGCbHADOWED_WHITE_CIRCLEpLATIN_CROSSpSTARdLLOW_PAN_OF_FOODdMROCK
   dRADA_ABBREVIATION_SIGNiCONTINUATION_SIGNiDANDAjIGIT_EIGHToFIVEpOURoNINEoONEoSEVENpIXoTHREEpWO
   oZEROjOUBLE_DANDAiEKAMjXTRA_SHORT_VOWEL_MARKiHEADSTROKEiLETTER_AqAqIqUpBAqHApCAqHApDAqDArHAqHApE
   pGAqHApHApIqIpJAqHApKAqHApLAqLApMApNAqGAqNAqYApOpPAqHApRApSAqHAqSApTAqHAqTArHApUqUpVAqOCALIC_LyL
   xRyRpYAiOMiSANDHI_MARKjECTION_MARK-1v2kPARATORjIGN_ANUSVARAoVAGRAHAnCANDRABINDU
   nINVERTED_CANDRABINDUnJIHVAMULIYAnNUKTAnSIDDHAMnUPADHMANIYAnVIRAMApSARGAjUTRA_MARK
   iVOWEL_MODIFIER_MARKoSIGN_AAuIuUtEtIuItOtPRISHTHAMATRA_EtUuUtVOCALIC_L+cL+bR+cReKdVED_ICE
   eIAN_LETTER_ADOqGEqHqIRqRErRAYqSHqWEpBIBpCHURCHpDEADpEARrTqGGqRRpFEEpGAGpHA-HAqUNGpIANqCEqFpJUDGE
   pKICKpLOLLpMEASUREqIMEpNUNpOAKqILqNqOZEqRqUTpPEEPpROARpSOqUREpTHEYrIGHqOTpUPpVOWpWOErOLpYEArWpZOO
   cEEPcIELDdFT_INgOUTdNTO_SHRINEdPcOCKED_FACE_WITH_EXPLODING_HEADdOTING_STARdPPING_BAGSjTROLLEY
   dRT_BACKSLANTED_SOUTH_ARROWhENT_ARROW_POINTING_DOWNWARDS_THEN_NORTH_EASTgDOWN_TACKp_WITH_OVERBAR
   gLEFT_TACKgRIGHTWARDS_ARROW_ABOVE_LEFTWARDS_ARROWgSLANTED_NORTH_ARROWgUP_TACK
   n_ABOVE_SHORT_DOWN_TACKoWITH_UNDERBARfCAKEfHAND_FORMAT_CONTINUING_OVERLAPrDOWN_STEP
   rLETTER_OVERLAPrUP_STEPfSdULDERED_OPEN_BOXdWERcRIMPdUGcUFFLE_PRODUCTcYbIcDDHAM_DANDAjOUBLE_DANDA
   iEND_OF_TEXT_MARKiLETTER_AqAqIqLTERNATE_UqUpBAqHApCAqHApDAqDArHAqHApEpGAqHApHApIqIpJAqHApKAqHApLA
   pMApNAqGAqNAqYApOpPAqHApRApSAqHAqSApTAqHArREE-CIRCLE_ALTERNATE_IqTArHAqWO-CIRCLE_ALTERNATE_I+lIpU
   qUpVAqOCALIC_LyLxRyRpYAiREPETITION_MARK-1y2y3iSECTION_MARK_DOUBLE_RING+g_WITH_RAYS
   vWITH_CIRCLES_AND_FOUR_ENCLOSURES+mRAYS+mTWO_ENCLOSURES+aDOUBLE_CRESCENTS+aQUADRUPLE_CRESCENTS
   +aRAYS_AND_DOTTED_CRESCENTS+qDOUBLE_CRESCENTS+qTRIPLE_CRESCENTS+aSEPTUPLE_CRESCENTS
   +aTRIDENT_AND_DOTTED_CRESCENTS+mU-SHAPED_ORNAMENTS+dPLE_CRESCENTSkPARATOR_BARsDOTjIGN_ANUSVARA
   nCANDRABINDUnNUKTAnSIDDHAMnVIRAMApSARGAiVOWEL_SIGN_AAuIuLTERNATE_U+eUuUtEtIuItOtUuUtVOCALIC_R+cR
   dEWAYS_BLACK_DOWN_POINTING_INDEXpLEFT_POINTING_INDEXpRIGHT_POINTING_INDEXpUP_POINTING_INDEX
   jWHITE_DOWN_POINTING_INDEXpLEFT_POINTING_INDEXpRIGHT_POINTING_INDEXpUP_POINTING_INDEX
   cGN_OF_THE_HORNSeWRITING_AIR_BLOW_SMALL_ROTATIONSuING_OUTqSUCK_SMALL_ROTATIONSuING_IN
   mBREATH_EXHALEtINHALEoUSH_BETWEENsMULTIPLEsSINGLEmCHEEKS_NEUTRALtPUFFEDtSUCKEDnOLONoMMA
   mDREAMY_EYEBROWS_DOWN_NEUTRAL+cNEUTRAL_DOWN+kUP+cUP_NEUTRALnYNAMIC_ARROWHEAD_LARGE+eSMALL
   uEVERY_OTHER_TIMEuFASTuGRADUALuRELAXEDuSIMULTANEOUS+g_ALTERNATINGvLOWuTENSEmEARSnXCITEMENT
   nYE_BLINK_MULTIPLEwSINGLEqWINKpBROWS_STRAIGHT_DOWN+eNEUTRAL+eUPpGAZE-FLOORPLANE_CURVED+fSTRAIGHT
   +n_ALTERNATING+oDOUBLEuWALLPLANE_CIRCLING+fURVED+eSTRAIGHT+m_ALTERNATING+nDOUBLEpLASHES_DOWN
   wFLUTTERINGwUPpS_CLOSEDrHALF_CLOSEDwOPENrOPENrSQUEEZEDrWIDE_OPENvNING_MOVEMENT
   mFACE_DIRECTION_POSITION_NOSE_FORWARD_TILTING+pUP_OR_DOWN+z_TILTINGnILL_MODIFIER-2+a3+a4+a5+a6
   oNGERnLICK_LARGE_MULTIPLEySINGLEsSEQUENTIALtMALL_MULTIPLEySINGLEoOORPLANE_SHOULDER_HIP_MOVE
   nOREHEAD_CONTACTvNEUTRALvWRINKLEDnULL_STOPmGRASP_BETWEENsMULTIPLEsSINGLEmHAIRoND-ANGLEw_INDEX
   +c_MIDDLE_LITTLE+kRING+dRING_LITTLE+o_OUT+dTHUMB+i_IN+jOUTxLITTLE_INDEX+j_THUMB_INDEX_THUMB
   ++b_OUT+eUPxMIDDLE_RING_LITTLE+p_IN+qOUTxRING_DOWN_MIDDLE_THUMB_INDEX_CROSS+cLITTLErCIRCLEx_INDEX
   +d_BENT+eHINGE+eMIDDLE+k_CROSS_LITTLE+qED+lLITTLE+lRING+lTHUMB+eRING_LITTLEyLITTLE_INDEX+fUP
   yMIDDLE_RING_LITTLE+q_BENT+fUPyRING_LITTLEsLAWv_FOUR_FINGERS_CONJOINED
   wINDEX_THUMB_CURVE_THUMB_INSIDEwMIDDLE_RING_LITTLE_CONJOINED+y_SIDEwNO_THUMBwTHUMB_FORWARD+cSIDE
   sUPu_FIVE_FINGERS_SPREAD+o_OPENvINDEX+a_RING_LITTLE+bTHUMB+g_OPENvMIDDLE_RING_LITTLEvNO_THUMB
   vOPENz_NO_THUMB+aTHUMB_FORWARD+gSIDEvTHUMB_FORWARD+bSIDEtRLICUEz_INDEX_RING_LITTLE_ON
   +aMIDDLE_RING_LITTLE_ON+aOPENrFISTv_FOUR_FINGERS_CONJOINED_BENTwHEELwINDEX+b_BENT+g_OVER_MIDDLE
   +cCUPPED+cHINGED+i_LOW+jMIDDLE_UP+s_THUMB_SIDE+cMIDDLE+i_BENT+n_THUMB_STRAIGHT+jCONJOINED
   +s_CUPPED+z_THUMB_FORWARD+tHINGED+z_THUMB_SIDE+tINDEX_BENT+tMIDDLE_BENT+tTHUMB_FORWARD+zSIDE
   ++d_BENT++eCONJOINED+kROSS_LITTLE+oED+q_THUMB_SIDE+jHINGED+p_SPREAD_THUMB_SIDE+jLITTLE
   +jRAISED_KNUCKLES+kING+n_BENT+oCONJOINED+jSTRAIGHT_THUMB_BENT+jTHUMB+o_ANGLED+v_OUT+pBENT
   +pCIRCLED+qONJOINED_HINGED+qUPPED+pHINGED+qOOKED+jUP_SPREAD_THUMB_FORWARD+cRAISED_KNUCKLE
   +dING_LITTLE+cTHUMB_ANGLED_IN_MIDDLE_UP+pOUT_MIDDLE_UP+iCIRCLE+oD_MIDDLE_UP+jUPPED_MIDDLE_UP
   +kRLICUE+lVE_THUMB_INSIDE+uUNDER+iFORWARD_INDEX_BENT+wSTRAIGHT+iHOOK+mED_MIDDLE_HINGED+wUP+iSIDE
   +m_BOTH_BENT+nINDEX_BENT+tHINGE+nTHUMB_BENT+tCONJOINED+tDIAGONAL+cUP_MIDDLE_HINGED
   +s_THUMB_CONJOINED+zSIDEwLITTLE_BENT+dDOWN+h_OTHERS_CIRCLED+iRIPPLE_CURVED+pSTRAIGHT+dINDEX
   +i_THUMB+dRAISED_KNUCKLE+dTHUMB+eOUCHES_THUMB+dUPwMIDDLE_BENT_OVER_INDEX+dDOWN+dLITTLE
   +dRAISED_KNUCKLE+eING_LITTLE+dTHUMB_ANGLED_INDEX_UP+qOUT_INDEX_CROSSED++aUP+jCIRCLED_INDEX_HINGED
   +xUP+kUPPED_INDEX_UP+jHOOKED_INDEX_UP+jLITTLE+dUP+f_THUMB_SIDEwRING_DOWN+bINDEX+bLITTLE+bMIDDLE
   +h_CONJOINED+iRAISED_KNUCKLES+bRAISED_KNUCKLE+bTHUMB+bUPwTHUMB+b_BETWEEN_INDEX_MIDDLE+w_STRAIGHT
   +kMIDDLE_RING+kRING_LITTLE+cFORWARD+cHEEL+cOVER_FOUR_RAISED_KNUCKLES+hTWO_FINGERS+cSIDE_BENT
   +hCONJOINED+hDIAGONAL+cUNDER_FOUR_FINGERS+iINDEX_BENT+iLITTLE_UP+iTHREE_FINGERS+jWO_FINGERSsLAT
   v_BETWEEN_PALM_FACINGSwFIVE_FINGERS_SPREAD+p_BENT+qFOUR_BENT+qHINGED+w_NO_THUMB+xTHUMB_SIDE
   +qTHUMB_FORWARDxOUR_FINGERS+i_BENT+jCONJOINED+s_SPLIT+jHINGEDwHEEL+a_FIVE_FINGERS_SPREAD+u_BENT
   +vFOUR_BENT+bTHUMB_SIDEwSPLIT_CENTRE+i_THUMB_SIDE+t_BENT+cINDEX_THUMB_SIDE+cLITTLEwTHUMB_BENT
   +cFORWARD+cSIDErHINGEw_FIVE_FINGERS_SPREAD_OPENyOUR_FINGERS_CONJOINEDxINDEX+c_HINGED
   +dMIDDLE_LITTLE+kRING+o_CONJOINED+dRING_LITTLE+dTHUMB+i_LARGE+jOPEN+jSIDE+kMALLxLITTLE+d_INDEX
   +j_THUMB+eTHUMBxMIDDLE+d_RING_LITTLExNO_THUMBxOPEN+b_NO_THUMB+cTHUMB_FORWARD+iSIDExRING
   +b_DOWN_INDEX_THUMB_HOOK_MIDDLExSMALLxTHUMB_BETWEEN_MIDDLE_RING+dSIDE+h_TOUCHING_INDEXsOOK
   v_CURLICUEwINDEX_RING_LITTLE_IN+oOUT+oUNDERwMIDDLE_RING_LITTLE_CONJOINED+y_IN+zOUT+dTHUMB
   wRING_THUMBrOVALv_FIVE_FINGERS_SPREADwINDEXwLITTLE_UPwNO_THUMBwRING_LITTLEwTHUMB_FORWARD+cSIDE
   nEADq_MOVEMENT_CIRCLEz-FLOORPLANE_CURVE+lSTRAIGHT+aWALLPLANE_CURVE+kSTRAIGHT+kTILTrRIM
   mLIMB_COMBINATIONrLENGTH-1y2y3y4y5y6y7oP_LOWER_OVER_UPPERqUPPER_OVER_LOWERpS_PRESSED_TOGETHER
   nOCATION_DEPTHvHEAD_NECKxIGHTvLIMBS_DIGITSvTORSOvWIDTHu-FLOORPLANE_SPACEvWALLPLANE_SPACE
   mMOUTH_CLOSED_CONTACTzFORWARDzNEUTRALtORNERSsFROWNx_OPENyWRINKLEDsKISSw_FORWARDxWRINKLED
   sOPEN_CIRCLExFORWARDxOVAL+b_WRINKLED+cYAWNxRECTANGLE+g_WRINKLED+hYAWNxWRINKLEDsSMILEx_OPEN
   yWRINKLEDsTENSEx_FORWARDySUCKEDsWRINKLES_DOUBLE+bSINGLEoVEMENT-DIAGONAL_AWAY_LARGE+oST+jMEDIUM
   +jSMALL+eBETWEEN_AWAY_LARGE+wST+rMEDIUM+rSMALL+mTOWARDS_LARGE+zST+uMEDIUM+uSMALL+eTOWARDS_LARGE
   +rST+mMEDIUM+mSMALLvFLOORPLANE_ARM_CIRCLE_HITTING_WALL_LARGE_DOUBLE++kSINGLE++eMEDIUM_DOUBLE
   ++lSINGLE++eSMALL_DOUBLE++kSINGLE+gBEND+hOX_LARGE+kMEDIUM+kSMALL+gCHECK+hORNER_LARGE+nMEDIUM
   +nSMALL+hROSS+hURVE_COMBINED+mHITTING_CEILING_LARGE++cSMALL+uFLOOR_LARGE++aSMALL+mLARGE+rST
   +mMEDIUM+mSMALL+gDOUBLE_ALTERNATING+y_WRIST_FLEX+nSTRAIGHT+nWRIST_FLEX
   +gFINGER_CIRCLES_HITTING_WALL_DOUBLE++iSINGLE+oONTACT+gHUMP_HITTING_CEILING_LARGE_DOUBLE++hTRIPLE
   ++bSMALL_DOUBLE++hTRIPLE+tFLOOR_LARGE_DOUBLE+zSMALL_DOUBLE+zTRIPLE_LARGE_TRIPLE++gSMALL_TRIPLE
   +lSMALL+gJAW+gLOOP_HITTING_CEILING_LARGE_DOUBLE++hSINGLE++bSMALL_DOUBLE++hSINGLE
   +tFLOOR_LARGE_DOUBLE++fSINGLE+zSMALL_DOUBLE++fSINGLE+lSMALL+gPEAKS_LARGE+mMEDIUM+mSMALL
   +gSHAKING_PARALLEL+hINGLE_STRAIGHT_LARGE++bST+wMEDIUM+wSMALL+nWRIST_FLEX
   +gTRIPLE_ALTERNATING_MOVEMENT+zWRIST_FLEX+nSTRAIGHT_MOVEMENT+nWRIST_FLEX
   +gWAVE_HITTING_CEILING_LARGE++bSMALL+tFLOOR_LARGE+zSMALL+lLARGE+lSMALL+mNAKE
   +hRIST_CIRCLE_HITTING_WALL_DOUBLE++gSINGLE+gZIGZAG_LARGE+nMEDIUM+nSMALLvHINGE_DOWN_SEQUENTIAL
   +bSIDE_TO_SIDE_SCISSORS+bUP_DOWN_ALTERNATING_LARGE+vSMALL+jLARGE+jSMALL+eSEQUENTIAL
   vWALLPLANE_ARM_CIRCLE_MEDIUM_DOUBLE+xSINGLE+qSMALL_DOUBLE+wSINGLE+fBEND_LARGE+kMEDIUM+kSMALL
   +gOX_LARGE+jMEDIUM+jSMALL+fCHECK_LARGE+lMEDIUM+lSMALL+gORNER_LARGE+mMEDIUM+mROTATION+mSMALL+gROSS
   +gURVE_HALF-CIRCLE_LARGE++cST+xMEDIUM+xSMALL+mITTING_CHEST+tFRONT_WALL+lQUARTER_LARGE+yST+tMEDIUM
   +tSMALL+lTHEN_STRAIGHT+nREE-QUARTER_CIRCLE_MEDIUM++gSMALL+kD_CROSS_MEDIUM+sSMALL
   +fDOUBLE_ALTERNATING+x_WRIST_FLEX+mSTRAIGHT+mWRIST_FLEX+fFINGER_CIRCLES_DOUBLE+uSINGLE+nONTACT
   +fHUMP_HITTING_CHEST+sFRONT_WALL+kLARGE+kMEDIUM+kSMALL+fJAW+fLOOP_HITTING_CHEST+sFRONT_WALL
   +kLARGE+kMEDIUM+kSMALL+p_DOUBLE+fPEAKS_LARGE+lMEDIUM+lSMALL+fSHAKING+gINGLE_STRAIGHT_LARGE++aST
   +vMEDIUM+vSMALL+mWRIST_FLEX+fTRIPLE_ALTERNATING+x_WRIST_FLEX+mSTRAIGHT_MOVEMENT+mWRIST_FLEX
   +fWAVE_CURVE_DOUBLE_LARGE+xMEDIUM+xSMALL+qTRIPLE_LARGE+xMEDIUM+xSMALL+kDIAGONAL_PATH_LARGE
   +yMEDIUM+ySMALL+kHITTING_CHEST+sFRONT_WALL+gRIST_CIRCLE_FRONT_DOUBLE+ySINGLE+fZIGZAG_LARGE
   +mMEDIUM+mSMALLmNECKnOSE_CONTACTrNEUTRALrWIGGLESsRINKLESmPARENTHESISmROTATION_MODIFIER-10+f1+f2
   +f3+f4+f5+f6+e2+e3+e4+e5+e6+e7+e8+e9u-FLOORPLANE_ALTERNATING+r_HITTING_CEILING++aFLOOR+gDOUBLE
   +m_HITTING_CEILING+vFLOOR+gSINGLE+m_HITTING_CEILING+vFLOORvWALLPLANE_ALTERNATE+nING_HITTING_CHEST
   +zFRONT_WALL+fDOUBLE+l_HITTING_CHEST+uFRONT_WALL+fSINGLE+l_HITTING_CHEST+uFRONT_WALLnUB_BETWEEN
   qMULTIPLEqSINGLEmSEMICOLONnHOULDER_HIP_POSITIONSzSPINEvTILTING_FROM_WAIST
   nQUEEZE_FLICK_ALTERNATINGuLARGE_MULTIPLE+aSINGLEuSEQUENTIALvMALL_MULTIPLE+aSINGLEnTRIKE_BETWEEN
   tMULTIPLEtSINGLEnURFACE_BETWEENuSYMBOLSmTEETHr_BITE_LIPSsMOVEMENTsON_LIPSz_MOVEMENTvTONGUE
   +b_MOVEMENToNSE_CHEEKS_HIGHzLOWzMIDDLEnONGUE_CENTRE_INSIDE_MOUTH+aSTICKING_OUT
   tINSIDE_MOUTH_RELAXEDtLICKING_LIPStMOVES_AGAINST_CHEEKtSTICKING_OUT_FARtTIP_BETWEEN_LIPS
   xTOUCHING_INSIDE_MOUTHoRSO-FLOORPLANE_TWISTINGsWALLPLANE_CURVED_BEND+cSTRAIGHT_STRETCH
   oUCH_BETWEENsMULTIPLEsSINGLEnRAVEL-FLOORPLANE_ROTATION-FLOORPLANE_ALTERNATING+yDOUBLE+ySINGLE
   +nWALLPLANE_ALTERNATING+xDOUBLE+xSINGLE+eSHAKINGtWALLPLANE_ARM_SPIRAL_DOUBLE+oSINGLE+oTRIPLE
   +dROTATION-FLOORPLANE_ALTERNATING+xDOUBLE+xSINGLE+mWALLPLANE_ALTERNATING+wDOUBLE+wSINGLE+dSHAKING
   mUPPER_BODY_TILTING_FROM_HIP_JOINTSmWALLPLANE_SHOULDER_HIP_MOVEcLHOUETTE_OF_JAPAN
   cMILAR_ABOVE_GREATER-THAN_ABOVE_EQUALS_SIGNoLESS-THAN_ABOVE_EQUALS_SIGNiMINUS_SIMILAR
   iOR_GREATER-THANlLESS-THANcNE_WAVEdGLE_CHARACTER_INTRODUCERhGRAPHIC_CHARACTER_INTRODUCER
   hHIGH-REVERSED-9_QUOTATION_MARKhLEFT-POINTING_ANGLE_QUOTATION_MARKiOW-9_QUOTATION_MARK
   hRIGHT-POINTING_ANGLE_QUOTATION_MARKhSHIFT_THREEoWOg-SHIFT-2n3dHALA_ARCHAIC_DIGIT_EIGHTwFIVExOUR
   wNINEwONEwSEVENxIXwTHREExWOqNUMBER_EIGHTYxFIFTYyORTYxNINETYxONE_HUNDRED+bTHOUSANDxSEVENTYyIXTY
   xTENyHIRTYyWENTYiLETTER_AAYANNAqEEYANNArYANNAqIYANNAqLPAPRAANA_BAYANNA+aCAYANNA+aDAYANNA+bDAYANNA
   +aGAYANNA+aJAYANNA+aKAYANNA+aPAYANNA+aTAYANNA+bTAYANNAqMBA_BAYANNAqUYANNAqYANNApDANTAJA_LAYANNA
   xNAYANNAxSAYANNApEEYANNAqYANNApFAYANNApHAYANNApIIYANNAqLUUYANNAsYANNAqRUUYANNAsYANNAqYANNA
   pKANTAJA_NAASIKYAYApMAHAAPRAANA_BAYANNA+bCAYANNA+bDAYANNA+cDAYANNA+bGAYANNA+bJAYANNA+bKAYANNA
   +bPAYANNA+bTAYANNA+cTAYANNArYANNAqUURDHAJA_LAYANNAzNAYANNAzSAYANNApOOYANNAqYANNApRAYANNA
   pSANYAKA_DAYANNAyDAYANNAxGAYANNAxJAYANNApTAALUJA_NAASIKYAYAxSANYOOGA_NAAKSIKYAYAzYANNApUUYANNA
   qYANNApVAYANNApYAYANNAjITH_DIGIT_EIGHTtFIVEuOURtNINEtONEtSEVENuIXtTHREEuWOtZERO
   iPUNCTUATION_KUNDDALIYAiSIGN_AL-LAKUNAoNUSVARAYAnCANDRABINDUnVISARGAYAiVOWEL_SIGN_AELA-PILLA
   tDIGA_AEDA-PILLAyGAETTA-PILLA+aYANUKITTAyIS-PILLAyKOMBUVAyPAA-PILLAtGAETTA-PILLAvYANUKITTA
   tKETTI_AEDA-PILLAzIS-PILLAzPAA-PILLAuOMBU_DEKAyVA+a_HAA_AELA-PILLA+fDIGA_AELA-PILLA+fGAYANUKITTA
   cX_PETALLED_BLACK_AND_WHITE_FLORETTEfOINTED_BLACK_STARmPINWHEEL_STARmSTAR_WITH_MIDDLE_DOT
   d-PER-EM_SPACEdTEEN_POINTED_ASTERISKbKATEBOARDcI_AND_SKI_BOOTdERcULLf_AND_CROSSBONESdNK
   bLANTED_EQUAL_TO_OR_GREATER-THAN+g_WITH_DOT_INSIDEuLESS-THAN+d_WITH_DOT_INSIDE
   iNORTH_ARROW_WITH_HOOKED_HEAD+bRIZONTAL_TAILdVONIC_ASTERISKcEDdEPING_ACCOMMODATIONjFACEjSYMBOL
   fY_FACEdUTH_OR_SPYcICE_OF_PIZZAdGHTLY_FROWNING_FACEjSMILING_FACEcOPEeING_LARGE_ANDoORdT_MACHINEeH
   bMALL_AIRPLANEhMPERSANDhSTERISKgBLUE_DIAMONDgCOLONiMMAkERCIAL_ATiNTAINS_AS_MEMBERpWITH_OVERBAR
   uVERTICAL_BAR_AT_END_OF_HORIZONTAL_STROKEgDOLLAR_SIGNgELEMENT_OFq_WITH_OVERBAR
   wVERTICAL_BAR_AT_END_OF_HORIZONTAL_STROKEhM_DASHhQUALS_SIGNhXCLAMATION_MARKgFULL_STOP
   gGREATER-THAN_SIGNgHYPHEN-MINUSgIDEOGRAPHIC_COMMAgLEFT_CURLY_BRACKETlPARENTHESIS
   lTORTOISE_SHELL_BRACKETiSS-THAN_SIGNgNUMBER_SIGNgORANGE_DIAMONDgPERCENT_SIGNhLUS_SIGN
   gQUESTION_MARKgREVERSE_SOLIDUShIGHT_CURLY_BRACKETmPARENTHESISmTORTOISE_SHELL_BRACKET
   hOMAN_NUMERAL_EIGHTvLEVENuFIFTYwVEy_HUNDREDvOURuNINEuONEx_HUNDREDyTHOUSANDuSEVENvIXuTENvHREE
   vWELVEwOgSEMICOLONgTILDEhWO_DOTS_OVER_ONE_DOT_PUNCTUATIONgVEE_WITH_UNDERBARfER_THANm_OR_EQUAL_TO
   dSH_PRODUCTcILEeING_CAT_FACE_WITH_HEART-SHAPED_EYESwOPEN_MOUTHiFACE_WITH_HALOtEART-SHAPED_EYES
   tORNSsOPEN_MOUTH+c_AND_COLD_SWEAT+hSMILING_EYES+hTIGHTLY-CLOSED_EYESsSMILING_EYES
   +e_AND_HAND_COVERING_MOUTH+jTHREE_HEARTStUNGLASSESsTEARdRKING_FACEcOKING_SYMBOLbNAILdKE
   cEEZING_FACEcOW_CAPPED_MOUNTAINeBOARDEReFLAKEeMANh_WITHOUT_SNOWbOcCCER_BALLdKScFT_HYPHEN
   fICE_CREAMfSHELL_FLOPPY_DISKeBALLeWARE-FUNCTION_SYMBOLcGDIAN_COMBINING_CURVE_ABOVEyBELOW
   sDOT_ABOVEwBELOWsHOOK_ABOVExBELOWsLONG_HOOK_BELOWsRESH_BELOWsSTROKE_BELOWsTWO_DOTS_ABOVE+bBELOW
   iINDEPENDENT_SHINiLETTER_ALEPHqYINpBETHpFETHpGIMELpHErTHpKAPHpLAMEDHqESHpMEMpNUNpPEpRESH-AYIN
   pSADHErMEKHqHINpTAWpWAWpYODHpZAYINiNUMBER_ONEs_HUNDREDpTENqWENTYiPUNCTUATION_CIRCLE_WITH_DOT
   uHALF_CIRCLE_WITH_DOTuTWO_CIRCLES_WITH_DOTSyVERTICAL_BARS+l_WITH_DOTScHcLID_QUILT_SQUARE_ORNAMENT
   +b_IN_BLACK_SQUAREfUSh_WITH_OVERBARcM_SIGNcON_WITH_RIGHTWARDS_ARROW_ABOVEcRA_SOMPENG_DIGIT_EIGHT
   tFIVEuOURtNINEtONEtSEVENuIXtTHREEuWOtZEROnLETTER_AHuBAHuCAHuDAHuEEHvHuGAHuHAHuIHuJAHuKAHuLAHuMAE
   wHuNAHvGAHvYAHuOHuPAHuRAHuSAHuTAHuUHuVAHuYAHcScUND_RECORDING_COPYRIGHTdTH_EAST_ARROW
   q_AND_SOUTH_WEST_ARROWrCROSSING_NORTH_EAST_ARROWrTO_CORNERrWITH_HOOKlBLACK_ARROWlDOUBLE_ARROW
   lPOINTING_BUDuLEAFuVINE_LEAFlSANS-SERIF_ARROWlTRIANGLE-HEADED_ARROW+g_TO_BARlWHITE_ARROW
   gWEST_ARROWq_AND_NORTH_WEST_ARROWrWITH_HOOKlBLACK_ARROWlDOUBLE_ARROWlPOINTING_BUDuLEAFuVINE_LEAF
   lSANS-SERIF_ARROWlTRIANGLE-HEADED_ARROW+g_TO_BARlWHITE_ARROWcYOMBO_CLUSTER-INITIAL_LETTER_LA+fRA
   +fSA+gHAiFINAL_CONSONANT_SIGN_-A+dB+dD+dG+dK+dL+dM+dN+eG+dR+dS+eHiGEMINATION_MARK
   iHEAD_MARK_WITH_MOON_AND_SUN+j_AND_FLAME+oTRIPLE_FLAMEiLETTER_-ApApBAqHApCAqHApDAqDArHAqHAqZApGA
   qHApHApJAqHApKAqHAqSSApLApMApNAqGAqNAqYApPAqHApRApSAqHAqSApTAqHAqSArHAqTArHApVApYApZAqHA
   iMARK_DOUBLE_SHADnPLUTAnSHADnTSHEGiSIGN_ANUSVARAnJIHVAMULIYAnUPADHMANIYAnVISARGAjUBJOINER
   iTERMINAL_MARK-1w2iVOWEL_LENGTH_MARKoSIGN_AIuUtEtItOuEtUuEtVOCALIC_L+bRbPcAdCEdGHETTIdRKLEhS
   gING_HEARTcEAK-NO-EVIL_MONKEYfERh_WITH_CANCELLATION_STROKEnONE_SOUND_WAVEnTHREE_SOUND_WAVES
   fING_HEAD_IN_SILHOUETTEdECH_BALLOONeDBOATdSMILO_SIGNcHERICAL_ANGLEp_OPENING_LEFTyUPcIDERg_WEB
   dRAL_CALENDAR_PADhNOTE_PADhSHELLcLASHING_SWEAT_SYMBOLcONGEdOL_OF_THREADeNdRTS_MEDALdUTING_WHALE
   bQUARE_A_OVER_MiARUiMiNPEAiPAATOiRUHUAiUhBAARERUjRiEETAiIRUiORUTOiQiUSSYERUhC_OVER_KGiALjPiCiDiM
   j_CUBEDkSQUAREDiOjRPORATIONiUPhDAjASUiBiESIiJiLiMj_CUBEDkSQUAREDiORUhEEKAAiRA_NAME_HEISEIqMEIZI
   qREIWAqSYOUWAqTAISYOUjGiSUKUUDOiVhFMiOOTjUR_CORNERShGALjNMAjRONiBiHZiIGAjNIIjRUDAAiPAiURAMUnTONiY
   hHAjITUiEKUTAARUjRUTUiGiIRAGANA_HOKAiONjONkRUiPjAiUARADDOjIITOjRANiZhIMAGE_OFp_OR_EQUAL_TO
   tNOT_EQUAL_TOiNjINGUjTIiUhK_OHMiAjIRIjRATTOkORIIiBiCALiEESUiGiHZiIROlGURAMUlMEETORUlWATTOiKiLiM
   j_CAPITALlUBEDkSQUAREDiOOPOjRUNAiPAiTiUROONEkUZEIROiViWiYURIIhLEFT_OPEN_BOX_OPERATORiMiNiOGjZENGE
   iXhM_CUBEDjOHMkVER_Sp_SQUAREDjSQUAREDiAjHHAjIKUROkRUjNSYONjRUKUiBj_SMALLiEETORUjGAlTONiGiHZ
   iIKURONjLjRIlBAARUiLiMj_CUBEDkSQUAREDiOLiPAiSiU_AkFkGkLkMkSkVkWiVj_MEGAiWj_MEGAhNAjNOiFiMiOTTOiS
   iViWhONSUiOMUiRIGINAL_OFs_OR_EQUAL_TOwNOT_EQUAL_TOiVhPAj_AMPSjASENTOkTUiCiEEZIjNIHIkSUjSOiFiH
   iIASUTORUjKOkURUiMiOINTOjNDOjSITION_INDICATORiPMiRiSiViWhRADk_OVER_Sr_SQUAREDiEMUjNTOGEN
   iIGHT_OPEN_BOX_OPERATORjRAjTTORUiOOTiUPIIjUBURUhSAIKURUjNTIIMUiENTIlOiIRINGUiRiVhTARGETiHZiONhUON
   hV_OVER_MhWATTOiBiITH_BOTTOM_HALF_BLACKmCONTOURED_OUTLINEmDIAGONAL_CROSSHATCH_FILL
   mHORIZONTAL_FILLmLEFT_HALF_BLACKnOWER_LEFT_DIAGONAL_HALF_BLACKsRIGHT_DIAGONAL_HALF_BLACK
   mORTHOGONAL_CROSSHATCH_FILLmRIGHT_HALF_BLACKmTOP_HALF_BLACKmUPPER_LEFT_DIAGONAL_HALF_BLACK
   xTO_LOWER_RIGHT_FILLsRIGHT_DIAGONAL_HALF_BLACKyTO_LOWER_LEFT_FILLmVERTICAL_FILLhYAADOkRUiUAN
   gD_ASTERISKiCJK_UNIFIED_IDEOGRAPH-4E00+h9+g2D+g8C+gA4+e518D+f21D+g4D+g72+f3CC+gF3+f408+g39+f5B6
   +f8F0+f91A+g29+fB57+fDE6+fF8C+e624B+g53+g95+f307+g55+f599+gB0+f620+f708+h9+fE80+fF14+e7121+f51F
   +g33+f981+fA7A+fD42+e89E3+fCA9+fD70+e904A+f14DjLjOOLiDOT_OPERATORiEIGHT_KiFALLING_DIAGONAL_SLASH
   jIVE_POINT_ONEjOUR_DOT_PUNCTUATIONnKjREEiHCjDRjI-RESjViIDiKATAKANA_DErKOKOrSAjEY
   iLATIN_CAPITAL_LETTER_A+dB+dC+dD+dE+dF+dG+dH+dI+dJ+dK+dL+dM+dN+dO+dP+dQ+dR+dS+dT+dU+dV+dW+dX+dY
   +dZoSMALL_LETTER_DjOGICAL_ANDqORkSSLESSiMINUSjViNEWjGiOKjNE_HUNDRED_TWENTY_PiPLUSjPV
   iRISING_DIAGONAL_SLASHiSALTIREjDjECOND_SCREENkVEN_POINT_ONEjHVjIXTY_PjMALL_CIRCLEjOSjQUAREjS
   iTHREE_DjIMESjWENTY-TWO_POINT_TWOkO_KiUHDjP_WITH_EXCLAMATION_MARKiVODjSiWC
   eT_BLACK_RIGHTWARDS_ARROWdIDbS2c3cAbTcADIUMdFF_OF_AESCULAPIUSjHERMESdMPED_ENVELOPEdNDING_PERSON
   dR_AND_CRESCENTfEQUALSfOF_DAVIDgPERATORfWITH_LEFT_HALF_BLACKkRIGHT_HALF_BLACKeT_OF_GUARDED_AREA
   jHEADINGjPROTECTED_AREAjSELECTED_AREAkTRINGjTEXTdTIONeUE_OF_LIBERTYcEAM_LOCOMOTIVEfING_BOWL
   dNOGRAPHIC_FULL_STOPdTHOSCOPEcICK_FIGUREm_LEANING_LEFTvRIGHTnWITH_ARMS_RAISEDsDRESScOCK_CHART
   dPWATCHcRAIGHT_RULERiNESSeWBERRYdESS_OUTLINED_WHITE_STARdICTLY_EQUIVALENT_TOeNG_TERMINATORcS
   cUDIO_MICROPHONEdFFED_FLATBREADdPAcXbUBdSCRIPT_EIGHTlQUALS_SIGNkFIVElOURkLEFT_PARENTHESISkMINUS
   kNINEkONEkPLUS_SIGNkRIGHT_PARENTHESISkSEVENlIXkTHREElWOkZEROeET_ABOVE_RIGHTWARDS_ARROWnSUBSET
   pPERSEThOFj_ABOVE_ALMOST_EQUAL_TOqEQUALS_SIGNqNOT_EQUAL_TOqTILDE_OPERATORkOR_EQUAL_TO
   v_WITH_DOT_ABOVEkWITH_NOT_EQUAL_TOhWITH_DOTmMULTIPLICATION_SIGN_BELOWmPLUS_SIGN_BELOWeTITUTE
   cCCEEDSi_ABOVE_ALMOST_EQUAL_TOpEQUALS_SIGNpNOT_ALMOST_EQUAL_TOtEQUAL_TOpSINGLE-LINE_EQUALS_SIGN
   +bNOT_EQUAL_TOjBUT_NOT_EQUIVALENT_TOjOR_EQUAL_TOpIVALENT_TOjUNDER_RELATIONcMMATION_BOTTOMkTOP
   kWITH_INTEGRALcNd_BEHIND_CLOUDeWITH_FACEdDANESE_AVAGRAHAkCONSONANT_SIGN_PAMINGKAL+bNYAKRA+dIKU
   +bSANGAN_MA+iWAkDIGIT_EIGHTqFIVErOURqNINEqONEqSEVENrIXqTHREErWOqZEROkLETTER_AsErBAsHArCArDArEsU
   rFAsINAL_KxMrGArHArIrJArKAsHArLAsEUrMArNAsGAsYArOrPArQArRAsEUrSAsYArTArUrVArWArXArYArZA
   kPUNCTUATION_BINDU_BA_SATANGA+cCAKRA+cDA_SATANGA+cKA_SATANGA+cLEU_SATANGA+cPANGLONG+dURNAMA
   +cSURYAkSIGN_PAMAAEHrNGLAYARtWISADsYECEKpVIRAMAkVOWEL_SIGN_PAMEPETxNAELAENGyEULEUNGyGHULUyOLONG
   yYUKUdFLOWERdRISEh_OVER_MOUNTAINSdSET_OVER_BUILDINGScPERHEROfSCRIPT_EIGHTnQUALS_SIGNmFIVEnOUR
   mLATIN_SMALL_LETTER_I+fNnEFT_PARENTHESISmMINUSmNINEmONEmPLUS_SIGNmRIGHT_PARENTHESISmSEVENnIX
   mTHREEnWOmZEROgET_ABOVE_LEFTWARDS_ARROWpSUBSETrPERSETjBESIDE_AND_JOINED_BY_DASH_WITH_SUBSET
   qSUBSETjOFl_ABOVE_ALMOST_EQUAL_TOsEQUALS_SIGNsNOT_EQUAL_TOsTILDE_OPERATORmOR_EQUAL_TO
   x_WITH_DOT_ABOVEmWITH_NOT_EQUAL_TOjPRECEDING_SOLIDUSjWITH_DOToMULTIPLICATION_SIGN_BELOW
   oPLUS_SIGN_BELOWfVILLAINcRFACE_INTEGRALeERcSHIdPENSION_RAILWAYbWANdSH_AMPERSAND_ORNAMENTcIMMER
   cUNG_DASHbYLOTI_NAGRI_LETTER_AuBHOvOuCHOvOuDDHOwOvHOvOuEuGHOvOuHOuIuJHOvOuKHOvOuLOuMOuNOuOuPHOvO
   uROvROuSOuTHOvOvTHOwOuUnPOETRY_MARK-1z2z3z4nSIGN_ALTERNATE_HASANTAtNUSVARAsDVISVARAsHASANTA
   nVOWEL_SIGN_AyEyIyOOyUcMBOL_FOR_ACKNOWLEDGElBACKSPACEmELLlCANCELnRRIAGE_RETURNlDATA_LINK_ESCAPE
   mELETEr_FORM_TWOnVICE_CONTROL_FOUR+aONE+aTHREE+bWOlEND_OF_MEDIUMsTEXTtRANSMISSION+e_BLOCKnQUIRY
   mSCAPElFILE_SEPARATORmORM_FEEDlGROUP_SEPARATORlHORIZONTAL_TABULATIONlLINE_FEEDlMARKS_CHAPTER
   lNEGATIVE_ACKNOWLEDGEnWLINEmULLlRECORD_SEPARATORlSAMARITAN_SOURCEmHIFT_INrOUTmPACE
   mTART_OF_HEADINGuTEXTmUBSTITUTEv_FORM_TWOmYNCHRONOUS_IDLElTYPE_A_ELECTRONICSlUNIT_SEPARATOR
   lVERTICAL_TABULATIONdMETRYcNdAGOGUEdCHRONOUS_IDLEcRIAC_ABBREVIATION_MARKhBARREKH
   hCOLON_SKEWED_LEFTuRIGHTjNTRACTIONhDOTTED_ZLAMA_ANGULARuHORIZONTALhEND_OF_PARAGRAPHiSASA_ABOVE
   nBELOWhFEMININE_DOThHARKLEAN_ASTERISCUSqMETOBELUSqOBELUSiBASA_ABOVEnBELOWm-ESASA_DOTTED
   iORIZONTAL_COLONhLETTER_ALAPHoBETHoDALATHpOTLESS_DALATH_RISHoEoFINAL_SEMKATHoGAMALt_GARSHUNIoHE
   qTHoKAPHoLAMADHoMALAYALAM_BHAyJAyLLA+aLAyNGAzNA+aNAzYAyRAySSAyTTApIMoNUNoPEqRSIAN_BHETHwDHALATH
   wGHAMALoQAPHoREVERSED_PEpISHoSADHEpEMKATHpHINpOGDIAN_FEwKHAPHwZHAINpUPERSCRIPT_ALAPHoTAWpETH
   s_GARSHUNIoWAWoYUDHs_HEoZAINhMUSIChOBLIQUE_LINE_ABOVEuBELOWhPTHAHA_ABOVEoBELOWoDOTTEDhQUSHSHAYA
   hRBASA_ABOVEnBELOWiUKKAKHAiWAHAhSUBLINEAR_COLONw_SKEWED_LEFT+eRIGHTrFULL_STOPjPRALINEAR_COLON
   y_SKEWED_LEFTtFULL_STOPhTHREE_DOTS_ABOVEsBELOWiWO_VERTICAL_DOTS_ABOVEzBELOWhZQAPHA_ABOVEoBELOW
   oDOTTEDeNGEaT-REXcSHIRTbABdLE_TENNIS_PADDLE_AND_BALLcCOcG_AMPERSANDfPOSTROPHEfSTERISK
   eCIRCUMFLEX_ACCENTfOLONgMMAiERCIAL_ATeDIGIT_EIGHTkFIVElOURkNINEkONEkSEVENlIXkTHREElWOkZERO
   fOLLAR_SIGNeEQUALS_SIGNfXCLAMATION_MARKeFULL_STOPeGRAVE_ACCENTgEATER-THAN_SIGNeHYPHEN-MINUS
   eLATIN_CAPITAL_LETTER_AzBzCzDzEzFzGzHzIzJzKzLzMzNzOzPzQzRzSzTzUzVzWzXzYzZkSMALL_LETTER_AxBxCxDxE
   xFxGxHxIxJxKxLxMxNxOxPxQxRxSxTxUxVxWxXxYxZfEFT_CURLY_BRACKETjPARENTHESISjSQUARE_BRACKET
   gSS-THAN_SIGNfOW_LINEeNUMBER_SIGNePERCENT_SIGNfLUS_SIGNeQUESTION_MARKgOTATION_MARK
   eREVERSE_SOLIDUSfIGHT_CURLY_BRACKETkPARENTHESISkSQUARE_BRACKETeSEMICOLONfOLIDUSfPACEeTILDE
   eVERTICAL_LINEdALOG_LETTER_AqRCHAIC_RApBApDApGApHApIpKApLApMApNAqGApPApRApSApTApUpWApYA
   iSIGN_PAMUDPODnVIRAMAiVOWEL_SIGN_ItUdBANWA_LETTER_AqBAqDAqGAqIqKAqLAqMAqNArGAqPAqSAqTAqUqWAqYA
   jVOWEL_SIGN_IuUcI_LE_LETTER_ApIpUEoEpEpHoFAoHAoIoKApHAoLAoMAoNApGAoOpOoPApHAoQAoSAoTApHApONE-2t3
   t4t5t6pSAqHAoUpEoVAoXAoYAeTHAM_COMBINING_CRYPTOGRAMMIC_DOTlNSONANT_SIGN_BAyFINAL_NGA
   yHIGH_RATHA_OR_LOW_PAyLA_TANG_LAIzOW_PAyMAzEDIAL_LA+fRAySAjHORA_DIGIT_EIGHTuFIVEvOURuNINEuONE
   uSEVENvIXuTHREEvWOuZEROjLETTER_AqBAqDAqEEqGREAT_SAqHIGH_CAwHAvFAvHAvKAwHAwXAvPAwHAvRATHAvSAwHAwSA
   vTAwHAvYAqIrIqLAsErLArOW_CAvHAuFAuHAuKAvHAvXAuPAvHAuRATHAuSAuTAvHAuYArUEqMAqNArGArYAqOOqRAsNAsTA
   rUEqUrUqWAjSIGN_CAANGoDOKMAIoHANGpOYoKAANsKUUpEOWpHUEN_TONE-3z4z5t-LUE_KARANoMAI_KANGw_LAIsSAM
   sYAMOKoRA_HAAMpEVERSED_ROTATED_RANAoSAKOTqTKAANvKUUqWANoTONE-1t2oWIANGtWAAKjTHAM_DIGIT_EIGHTuFIVE
   vOURuNINEuONEuSEVENvIXuTHREEvWOuZEROjVOWEL_SIGN_AvAvEvIuEuIvIuMAI_SATuOvA_ABOVExBELOWvOvYuTALL_AA
   vHAM_AIuUvEvUwEeVIET_LETTER_HIGH_BOvCHOwOvDOvFOvGOvHOvKHHOxOwOvLOvMOvNGOwOwYOvOvPHOwOvROvSOvTHOwO
   vVOvYOqLOW_BOuCHOvOuDOuFOuGOuHOuKHHOwOvOuLOuMOuNGOvOvYOuOuPHOvOuROuSOuTHOvOuVOuYOjMAI_KANGoHIT
   jSYMBOL_HO_HOIqKOI_KOIsNqNUENGqSAMjTONE_MAI_EKsNUENGsSONGsTHOjVOWEL_AAqMqNqUEqYpEpIqApOpUqAqErA
   cKEOUT_BOXdRI_ABBREVIATION_SIGNgDIGIT_EIGHTmFIVEnOURmNINEmONEmSEVENnIXmTHREEnWOmZEROgLETTER_AoAoI
   oRCHAIC_KHAoUnBAoHAnCAoHAnDAoDApHAoHAnEnGAoHAnHAnIoInJAoHAnKAoHAnLAnMAnNAoGAoNAoYAnOnPAoHAnRAoRA
   nSAoHAnTAoHAoTApHAnUoUnVAnYAgSIGN_ANUSVARAlNUKTAlVIRAMAnSARGAgVOWEL_SIGN_AAsIsUrErIsIrOrUsU
   cLLY_MARK_FIVElONEcMALEdIL_AND_ODD_SIGNhS_ABOVE_SIGNhU_LENGTH_MARKgCREDIT_SIGNhURRENT_SIGN
   gDAY_SIGNhEBIT_SIGNhIGIT_EIGHTmFIVEnOURmNINEmONEmSEVENnIXmTHREEnWOmZEROhRY_CULTIVATION_SIGN
   gFRACTION_DOWNSCALING_FACTOR_KIIZHpONE_EIGHTHyIETHtFIFTHuORTIETHtHALF-1y2
   tONE-HUNDRED-AND-SIXTIETHtQUARTERtSIXTEENTH-1+d2xY-FOURTHtTENTHuHIRTY-SECOND
   vREE-HUNDRED-AND-TWENTIETHuWENTIETHpTHREE_EIGHTIETHSvQUARTERSvSIXTEENTHSzY-FOURTHSvTWENTIETHS
   gIN_POSSESSION_SIGNgLAND_SIGNhETTER_AoAoIoUnCAnEoEnHAnIoInJAnKAnLAoLApLAnMAnNAoGAoNApNAoYAnOoOnPA
   nRAoRAnSAoHAoSAnTAoTAnUoUnVAnYAgMONTH_SIGNgNUMBER_ONE_HUNDREDrTHOUSANDnSIGNnTENgOM
   gPUNCTUATION_END_OF_TEXTgRUPEE_SIGNgSALT_PAN_SIGNhIGN_AAZHAAKKUmNUSVARAlCEVITUlKAACUmURUNInZHI
   lMUKKURUNInTHALIYAnUVUZHAKKUlNELlPAARAMnNAMnTHAKKUmONlUZHAKKUlVAKAIYARAAnRAAKANmELImIRAMAnSARGA
   hPENT_SIGNhTARTING_FROM_SIGNgTOTAL_SIGNhRADITIONAL_CREDIT_SIGNsNUMBER_SIGNgVOWEL_SIGN_AAsIsUrEsE
   rIsIrOsOrUsUgWET_CULTIVATION_SIGNgYEAR_SIGNcNABATA_TREEdGERINEeSA_DIGIT_EIGHTnFIVEoOURnNINEnONE
   nSEVENoIXnTHREEoWOnZEROhLETTER_ACpQpWCqQqXqZpXpZoBAoCApHAoDApHAoECpQpXpZoFApINAL_NGoGApHAoHApTA
   qTAoICpQpXpZoKApHAoLApONG_UEXoMApCpQpXpZoNApGApHApYAoOCpQpXpZoPApHAoRAoSApHAqORT_AWXuUEZoTApHApSA
   oUCpECqQqXqZpICqQqUCrQrXrZqXqZpQpXpZoVCpQpXpZoWAoXAoYAoZAeUT_COMPONENT-001t2t3t4t5t6t7t8t9s10t1t2
   t3t4t5t6t7t8t9s20t1t2t3t4t5t6t7t8t9s30t1t2t3t4t5t6t7t8t9s40t1t2t3t4t5t6t7t8t9s50t1t2t3t4t5t6t7t8
   t9s60t1t2t3t4t5t6t7t8t9s70t1t2t3t4t5t6t7t8t9s80t1t2t3t4t5t6t7t8t9s90t1t2t3t4t5t6t7t8t9r100t1t2t3
   t4t5t6t7t8t9s10t1t2t3t4t5t6t7t8t9s20t1t2t3t4t5t6t7t8t9s30t1t2t3t4t5t6t7t8t9s40t1t2t3t4t5t6t7t8t9
   s50t1t2t3t4t5t6t7t8t9s60t1t2t3t4t5t6t7t8t9s70t1t2t3t4t5t6t7t8t9s80t1t2t3t4t5t6t7t8t9s90t1t2t3t4t5
   t6t7t8t9r200t1t2t3t4t5t6t7t8t9s10t1t2t3t4t5t6t7t8t9s20t1t2t3t4t5t6t7t8t9s30t1t2t3t4t5t6t7t8t9s40
   t1t2t3t4t5t6t7t8t9s50t1t2t3t4t5t6t7t8t9s60t1t2t3t4t5t6t7t8t9s70t1t2t3t4t5t6t7t8t9s80t1t2t3t4t5t6
   t7t8t9s90t1t2t3t4t5t6t7t8t9r300t1t2t3t4t5t6t7t8t9s10t1t2t3t4t5t6t7t8t9s20t1t2t3t4t5t6t7t8t9s30t1
   t2t3t4t5t6t7t8t9s40t1t2t3t4t5t6t7t8t9s50t1t2t3t4t5t6t7t8t9s60t1t2t3t4t5t6t7t8t9s70t1t2t3t4t5t6t7
   t8t9s80t1t2t3t4t5t6t7t8t9s90t1t2t3t4t5t6t7t8t9r400t1t2t3t4t5t6t7t8t9s10t1t2t3t4t5t6t7t8t9s20t1t2
   t3t4t5t6t7t8t9s30t1t2t3t4t5t6t7t8t9s40t1t2t3t4t5t6t7t8t9s50t1t2t3t4t5t6t7t8t9s60t1t2t3t4t5t6t7t8
   t9s70t1t2t3t4t5t6t7t8t9s80t1t2t3t4t5t6t7t8t9s90t1t2t3t4t5t6t7t8t9r500t1t2t3t4t5t6t7t8t9s10t1t2t3
   t4t5t6t7t8t9s20t1t2t3t4t5t6t7t8t9s30t1t2t3t4t5t6t7t8t9s40t1t2t3t4t5t6t7t8t9s50t1t2t3t4t5t6t7t8t9
   s60t1t2t3t4t5t6t7t8t9s70t1t2t3t4t5t6t7t8t9s80t1t2t3t4t5t6t7t8t9s90t1t2t3t4t5t6t7t8t9r600t1t2t3t4
   t5t6t7t8t9s10t1t2t3t4t5t6t7t8t9s20t1t2t3t4t5t6t7t8t9s30t1t2t3t4t5t6t7t8t9s40t1t2t3t4t5t6t7t8t9s50
   t1t2t3t4t5t6t7t8t9s60t1t2t3t4t5t6t7t8t9s70t1t2t3t4t5t6t7t8t9s80t1t2t3t4t5t6t7t8t9s90t1t2t3t4t5t6
   t7t8t9r700t1t2t3t4t5t6t7t8t9s10t1t2t3t4t5t6t7t8t9s20t1t2t3t4t5t6t7t8t9s30t1t2t3t4t5t6t7t8t9s40t1
   t2t3t4t5t6t7t8t9s50t1t2t3t4t5t6t7t8t9s60t1t2t3t4t5t6t7t8hITERATION_MARKcPE_CARTRIDGEfDRIVEcURUS
   cXIbEACUP_WITHOUT_HANDLEdPOTdR-OFF_CALENDAReDROP-BARBED_RIGHTWARDS_ARROWjSPOKED_ASTERISKcDDY_BEAR
   cLEPHONE_LOCATION_SIGNkON_TOP_OF_MODEMkRECEIVERs_WITH_PAGEnORDERkSIGNeSCOPEeVISION
   dUGU_AI_LENGTH_MARKhDIGIT_EIGHTnFIVEoOURnNINEnONEnSEVENoIXnTHREEoWOnZERO
   hFRACTION_DIGIT_ONE_FOR_EVEN_POWERS_OF_FOUR+eODD_POWERS_OF_FOURwTHREE_FOR_EVEN_POWERS_OF_FOUR
   +gODD_POWERS_OF_FOURxWO_FOR_EVEN_POWERS_OF_FOUR+eODD_POWERS_OF_FOURwZERO_FOR_ODD_POWERS_OF_FOUR
   hLENGTH_MARKjTTER_ApApIpUoBApHAoCApHAoDApDAqHApHApZAoEpEoGApHAoHAoIpIoJApHAoKApHAoLApLAqLAoMAoNA
   qKAARA_POLLUpGApNApYAoOpOoPApHAoRApRAqRAoSApHApSAoTApHApSApTAqHAoUpUoVApOCALIC_LxLwRxRoYA
   hSIGN_ANUSVARAnVAGRAHAmCANDRABINDUnOMBINING_ANUSVARA_ABOVEwCANDRABINDU_ABOVEmNUKTAmSIDDHAMmTUUMU
   mVIRAMAoSARGAhVOWEL_SIGN_AAtItUsEtEsItIsOtOsUtUsVOCALIC_L+bL+aR+bRcNGE_SIGNdNIS_RACQUET_AND_BALL
   dTcST_TUBEcTRAGRAM_FOR_ACCUMULATIONpDVANCEpGGRAVATIONpSCENToBARRIERpOLD_RESOLUTIONpRANCHING_OUT
   oCENTREpHANGEpLOSED_MOUTHtNESSsUREpOMPLETIONtIANCEqNSTANCYrTACTsENTIONsRARIETYoDARKENING
   pECISIVENESSqFECTIVENESS_OR_DISTORTIONqPARTUREpIFFICULTIESqMINISHMENTrMINGqVERGENCEpOUBTpUTIES
   oEASEpMBELLISHMENTpNCOUNTERSqDEAVOURqLARGEMENTpTERNITYpXHAUSTIONoFAILUREpLIGHTpOLLOWINGqSTERING
   pULL_CIRCLEsNESSoGATHERINGx_INpOING_TO_MEETpREATNESSpUARDEDNESSoHARDNESSpOLDING_BACKoINCREASEqNER
   oJOYoKEEPING_SMALLpINSHIPoLABOURINGqW_OR_MODELpEGIONoMASSINGpEASUREpIREDoON_THE_VERGEpPPOSITION
   oPACKINGqTTERNpENETRATIONpURITYoREACHqLEASEqSIDENCEsSTANCErPONSEpITUALoSEVERANCEpINKINGpTOPPAGE
   rVEqRENGTHoUNITYoVASTNESS_OR_WASTINGoWAITINGqTCHoYOUTHFULNESSbHAANA_AABAAFILIiBAFILIhEBEFILI
   iEBEEFILIiYBEYFILIhIBIFILIhLETTER_AINUpLIFUoBAAoCHAVIYANIoDAADHUqVIYANIpHAALUoFAAFUoGAAFUpHAINU
   pNAVIYANIoHAApHAAoJAVIYANIoKAAFUpHAAoLAAMUpHAVIYANIoMEEMUoNAApOONUoPAVIYANIoQAAFUoRAAoSAADHUpEENU
   pHAVIYANIqEENUoTAVIYANIpHAAsLUpOpTAAoVAAVUoWAAVUoYAAoZAAqVIYANIpOhOABOAFILIiBOFILIiOBOOFILIhSUKUN
   hUBUFILIdI_CHARACTER_ANGKHANKHUpBO_BAIMAIpCHO_CHANxGvINGvOEpDO_CHADAsDEKpFO_FAuNrNGMANpHO_HIP
   sNOKHUKpKHO_KHAIvONvUATvWAItRAKHANGsMUTqO_KAIpLAKKHANGYAOqO_CHULAsLINGqUpMAI_CHATTAWAtEKtHAN-AKAT
   tTHOuRIsTAIKHUsYAMOKqO_MApNGO_NGUqIKHAHITqO_NENtUpO_ANGpPAIYANNOIqHINTHUrO_PHANvUNGtSAMPHAOqO_PLA
   pRO_RUAqUpSARA_AvAvEvI_MAIMALAI+bUANvMuEuIvIuOuUvEwEvUqO_RUSIsSALAtOtUApTHANTHAKHATrO_NANGMONTHO
   tPHUTHAOtTHAHANwNvONGvUNGqO_PATAKsTAOpWO_WAENpYAMAKKANqO_YAKtINGgURRENCY_SYMBOL_BAHTfDIGIT_EIGHT
   lFIVEmOURlNINElONElSEVENmIXlTHREEmWOlZEROcERE_DOES_NOT_EXISTgEXISTSfFOREeMODYNAMICgMETER
   cIN_GREEK_CROSSfSALTIREgPACEeKING_FACEdRD_PLACE_MEDALcONG_SANDALdUGHT_BALLOONcREE_BUTTON_MOUSE
   gCONSECUTIVE_EQUALS_SIGNSgDIMENSIONAL_ANGLEhOT_PUNCTUATIONgLEFTWARDS_ARROWShINES_CONVERGING_LEFT
   xRIGHTgNETWORKED_COMPUTERSgPOINTED_BLACK_STARgRAYS_ABOVElBELOWlLEFTlRIGHThIGHTWARDS_ARROWS
   gSPEECH_BUBBLESf-D_BOTTOM-LIGHTED_RIGHTWARDS_ARROWHEAD
   iLEFT-LIGHTED_DOWNWARDS_EQUILATERAL_ARROWHEADiRIGHT-LIGHTED_UPWARDS_EQUILATERAL_ARROWHEAD
   iTOP-LIGHTED_LEFTWARDS_EQUILATERAL_ARROWHEADuRIGHTWARDS_ARROWHEAD+fEQUILATERAL_ARROWHEADgEM_DASH
   gPER-EM_SPACEcUMBS_DOWN_SIGNhUP_SIGNdNDER_CLOUD_AND_RAINhSTORMbIBETAN_ASTROLOGICAL_SIGN_-KHYUD_PA
   +aSDONG_TSHUGS+bGRA_GCAN_-CHAR_RTAGSiCANTILLATION_SIGN_CANG_TE-U+aHEAVY_BEAT+aLIGHT_BEAT
   +aSBUB_-CHALiDIGIT_EIGHToFIVEpOURoHALF_EIGHTtFIVEuOURtNINEtONEtSEVENuIXtTHREEuWOtZEROoNINEoONE
   oSEVENpIXoTHREEpWOoZEROiKU_RU_KHAr_BZHI_MIG_CANiLETTER_-ApApBAqHApCAqHApDAqDArHAqHAqZArHA
   pFIXED-FORM_RApGAqHApHApJApKAqHAqKAqSSApLApMApNAqGAqNAqYApPAqHApRAqRApSAqHAqSApTAqHAqSArHAqTArHA
   pWApYApZAqHAjOGOTYPE_SIGN_CHAD_RTAGSwLHAG_RTAGSiMARK_ANG_KHANG_GYASzONnBKA-_SHOG_YIG_MGO
   oSDUS_RTAGSpKA-_SHOG_GI_MGO_RGYANqUR_YIG_MGOnCARET_-DZUD_RTAGS_BZHI_MIG_CAN+fME_LONG_CAN
   tYIG_MGO_PHUR_SHAD_MAoHE_MGOoLOSING_BRDA_RNYING_YIG_MGO_SGAB_MAvYIG_MGO_SGAB_MA
   nDELIMITER_TSHEG_BSTARnGTER_TSHEGsYIG_MGO_-UM_GTER_TSHEG_MA+eRNAM_BCAD_MA+aTRUNCATED_A
   oUG_RTAGS_GYASzONnHALANTAnINITIAL_BRDA_RNYING_YIG_MGO_MDUN_MAvYIG_MGO_MDUN_MApTERSYLLABIC_TSHEG
   nLEADING_MCHAN_RTAGSnMNYAM_YIG_GI_MGO_RGYANnNGAS_BZUNG_NYI_ZLAySGOR_RTAGSoYIS_SHADsTSHEGx_SHAD
   nPALUTAnRGYA_GRAM_SHADoIN_CHEN_SPUNGS_SHADnSBRUL_SHADoHADnTRAILING_MCHAN_RTAGSoSA_-PHRUpHEG_SHAD
   nYIG_MGO_TSHEG_SHAD_MAiSIGN_GRU_CAN_RGYINGSrMED_RGYINGSnINVERTED_MCHU_CANnLCE_TSA_CANpI_RTAGS
   nMAR_TSHESoCHU_CANnNYI_ZLA_NAA_DAnRDEL_DKAR_GCIGyNYISySUMxRDEL_NAGsNAG_GCIGxNYISxSUMwRDEL_DKAR
   oJES_SU_NGA_ROoNAM_BCADnSNA_LDANnYANG_RTAGSpR_TSHESjUBJOINED_LETTER_-AzAzBA+aHAzCA+aHAzDA+aDA+bHA
   +aHA+aZA+bHAzFIXED-FORM_RA+kWA+kYAzGA+aHAzHAzJAzKA+aHA+aSSAzLAzMAzNA+aGA+aNA+aYAzPA+aHAzRAzSA+aHA
   +aSAzTA+aHA+aSA+bHA+aTA+bHAzWAzYAzZA+aHAsSIGN_INVERTED_MCHU_CANxLCE_TSA_CANxMCHU_CANjYLLABLE_OM
   kMBOL_DRIL_BUpNOR_BUv_BZHI_-KHYILwGSUM_-KHYILwNYIS_-KHYILpPADMA_GDANqHUR_PApRDO_RJEw_RGYA_GRAM
   iVOWEL_SIGN_AAtEuEtIuItOuOtREVERSED_I+dItUuUtVOCALIC_L+cL+bR+cRcCKETcE_OVER_INFINITY
   cFINAGH_CONSONANT_JOINERjLETTER_AHAGGAR_YAZHrYER_YAGHqBERBER_ACADEMY_YAH+hJqTAWELLEMET_YAZ
   rUAREG_YAGH+aNzHzK+aHzNGzQzZHqYAsAsBtHsCHsDtDuHtHsFsGtHuHsHtHsJsKtHuHsLsMsNsPsQsRtRsStHtSsTtHtTsV
   sWsYsZtHtZrEsYrIrOrUjMODIFIER_LETTER_LABIALIZATION_MARKjSEPARATOR_MARKcGERf_FACE
   dHT_TRIFOLIATE_SNOWFLAKEcLDEf_OPERATORo_ABOVE_LEFTWARDS_ARROWvRIGHTWARDS_ARROWpWITH_DOT_ABOVE
   uRISING_DOTSgWITH_DOT_ABOVEpBELOWlRING_ABOVEcMER_CLOCKeS_WITH_LEFT_HALF_BLACKlRIGHT_HALF_BLACKcNY
   e_TWO_DOTS_OVER_ONE_DOT_PUNCTUATIONcRED_FACEdHUTA_ABBREVIATION_SIGNjNJIiDIGIT_EIGHToFIVEpOURoNINE
   oONEoSEVENpIXoTHREEpWOoZEROiGVANGiLETTER_AqAqIqUpBAqHApCAqHApDAqDArHAqHApEpGAqHApHApIqIpJAqHApKA
   qHApLApMApNAqGAqNAqYApOpPAqHApRApSAqHAqSApTAqHAqTArHApUqUpVAqOCALIC_LyLxRyRpYAiOMiSIGN_ANUSVARA
   oVAGRAHAnCANDRABINDUnNUKTAnVIRAMApSARGAiVOWEL_SIGN_AAuIuUtEtIuItOtSHORT_EzOtUuUtVOCALIC_L+cL+bR
   +cRdONIAN_SIGN_CAPITAL_EToETbOILETcKYO_TOWERcMATOcNGUEcOLBOXdTHfBRUSHcP_ARC_ANTICLOCKWISE_ARROW
   +b_WITH_PLUSiCLOCKWISE_ARROW_WITH_MINUSeCURLY_BRACKETeHALF_BLACK_CIRCLEjINTEGRALjLEFT_PARENTHESIS
   jRIGHT_PARENTHESISjSECTION_SIGNgTeLEFT_CORNERkROPjHALF_BRACKETePARENTHESISeRIGHT_CORNERlROP
   kHALF_BRACKETeSQUARE_BRACKETeTORTOISE_SHELL_BRACKETeWITH_UPWARDS_ARROW_ABOVE
   cRTOISE_SHELL_BRACKETED_CJK_UNIFIED_IDEOGRAPH-4E09+x8C+v52DD+wB89+v6253+w557+w72C+v70B9+w6D7
   zLATIN_CAPITAL_LETTER_ScTAL_RUNOUTdO_LETTER_AnEmBAnREATHY_AEuEvOuIvUmCHAmDAmEnOmGAmHAmInUmJAmKA
   mLAmMAmNAnGAmOmPAmRAmSAmTAmUmWAmYAfSIGN_RISING_TONEbRACKBALLeTORdDE_MARK_SIGNdINdMe_CARdNSPLUTO
   fVERSAL_INTERSECTIONcIANGLE_WITH_DOT_ABOVEoROUNDED_CORNERSoSERIFS_AT_BOTTOMoUNDERBAR
   i-HEADED_RIGHTWARDS_ARROWgULAR_BULLETlFLAG_ON_POSTlRULERdCOLONdDENT_EMBLEMdGRAM_FOR_EARTHmFIRE
   mHEAVENmLAKEmMOUNTAINmTHUNDERmWATERnINDdPLE_COLON_OPERATORhDAGGER
   hHORIZONTAL_BAR_WITH_DOUBLE_VERTICAL_STROKE+bTRIPLE_VERTICAL_STROKEhINTEGRALhNESTED_GREATER-THAN
   oLESS-THANhPLUSiRIMEhSOLIDUS_BINARY_RELATIONhTILDEhVERTICAL_BAR_BINARY_RELATIONuDELIMITER
   uRIGHT_TURNSTILEuWITH_HORIZONTAL_STROKEcOLLfEYBUSdPHYeICAL_DRINKjFISHcUEe_LIGHT_MOON_ARTAdMPET
   bUGRIK_SIGNcLIPcMBLER_GLASScRKEYeISH_LIRA_SIGNdNED_AMPERSANDiNGLEhBLACK_PENTAGONnSHOGI_PIECE
   hCAPITAL_FiOMMAhDAGGERiIGIT_THREEoWOhGREEK_SMALL_LETTER_IOTAhNORTH_EAST_POINTING_LEAF
   nWEST_POINTING_LEAFjT_SIGNhOK_HAND_SIGNhSANS-SERIF_CAPITAL_G+aL+aYiEMICOLONiMALL_F
   iOUTH_EAST_POINTING_LEAFnWEST_POINTING_LEAFhWHITE_SHOGI_PIECEdTLEbWELVE_POINTED_BLACK_STAR
   cISTED_RIGHTWARDS_ARROWScO_ASTERISKS_ALIGNED_VERTICALLYeBUTTON_MOUSEeCONSECUTIVE_EQUALS_SIGNS
   eDOT_LEADERiPUNCTUATIONhS_OVER_ONE_DOT_PUNCTUATIONeHEARTSeINTERSECTING_LOGICAL_ANDzOR
   eJOINED_SQUARESeLOGICAL_AND_OPERATORmOR_OPERATOReMEN_HOLDING_HANDSeSPEECH_BUBBLES
   eWOMEN_HOLDING_HANDSd-EM_DASHaUGARITIC_LETTER_AINrLPAqBETAqDELTArHALqGAMLArHAINqHOsTAqIqKAFrHA
   qLAMDAqMEMqNUNqPUqQOPAqRASHAqSADEsMKArHINrSUqTETrHANNArOqUqWOqYODqZETArUjWORD_DIVIDERbMBRELLA
   i_ON_GROUNDjWITH_RAIN_DROPSbNAMUSED_FACEcCERTAINTY_SIGNcDERTIEdO_SYMBOLcICORN_FACEdON
   f_ABOVE_BAR_ABOVE_INTERSECTIONmINTERSECTIONgBESIDE_AND_JOINED_WITH_UNIONgWITH_LOGICAL_OR
   lMINUS_SIGNlOVERBARdT_SEPARATOReED_SYMBOLdVERSAL_RECYCLING_SYMBOLcMARRIED_PARTNERSHIP_SYMBOL
   bP_ARROW_THROUGH_CIRCLEiHEADm_BETWEEN_TWO_HORIZONTAL_BARSnIN_A_RECTANGLE_BOX
   dBARB_LEFT_DOWN_BARB_LEFT_HARPOONxRIGHT_HARPOONiRIGHT_DOWN_BARB_LEFT_HARPOONyRIGHT_HARPOON
   dDOWN_ARROWn_WITH_BASEiBLACK_ARROWiDOUBLE_ARROWiSANS-SERIF_ARROWiTRIANGLE-HEADED_ARROW
   iWHITE_ARROWdFISH_TAILdRIGHT_DIAGONAL_ELLIPSISdTACKh_WITH_CIRCLE_ABOVEc-POINTING_AIRPLANE
   mMILITARY_AIRPLANEmRED_TRIANGLEmSMALL_AIRPLANEsRED_TRIANGLEmTRIANGLE_WITH_LEFT_HALF_BLACK
   +aRIGHT_HALF_BLACKcPER_AND_LEFT_AND_LOWER_TRIANGULAR_THREE_QUARTERS_BLOCKlOWER_ONE_EIGHTH_BLOCK
   qTRIANGULAR_HALF_BLOCKkRIGHT_AND_LOWER_TRIANGULAR_THREE_QUARTERS_BLOCKgBLADE_SCISSORS
   gFIVE_EIGHTHS_BLOCKgHALF_BLOCKq_AND_LOWER_HALF_INVERSE_MEDIUM_SHADElCIRCLE
   lINVERSE_MEDIUM_SHADE_AND_LOWER_HALF_BLOCKtWHITE_CIRCLElMEDIUM_SHADE
   gLEFT_BLOCK_DIAGONAL_LOWER_CENTRE_TO_LOWER_MIDDLE_RIGHT+qUPPER_MIDDLE_RIGHT+wRIGHT
   +gLEFT_TO_LOWER_MIDDLE_RIGHT+oUPPER_CENTRE+uMIDDLE_RIGHT+gMIDDLE_LEFT_TO_UPPER_CENTRE
   ++bMIDDLE_RIGHT++bRIGHT+aUPPER_MIDDLE_LEFT_TO_UPPER_CENTRE++bRIGHTlCORNER_WITH_DOT
   lOR_LOWER_RIGHT_CURLY_BRACKET_SECTIONlQUADRANT_CIRCULAR_ARClTO_LOWER_RIGHT_FILLmRIANGLE
   rULAR_MEDIUM_SHADEgONE_EIGHTH_BLOCKkQUARTER_BLOCK
   gRIGHT_BLOCK_DIAGONAL_LOWER_MIDDLE_LEFT_TO_LOWER_CENTRE++cRIGHT
   +bUPPER_CENTRE_TO_LOWER_MIDDLE_RIGHT+xRIGHT+rUPPER_MIDDLE_RIGHT+hLEFT_TO_LOWER_CENTRE
   +vMIDDLE_RIGHT+pUPPER_MIDDLE_RIGHT+hMIDDLE_LEFT_TO_LOWER_CENTRE++cMIDDLE_RIGHT++cRIGHT
   mDROP-SHADOWED_WHITE_SQUAREmOR_LOWER_LEFT_CURLY_BRACKET_SECTIONmPENCILmQUADRANT_CIRCULAR_ARC
   mSHADOWED_WHITE_CIRCLE+bSQUAREmTO_LOWER_LEFT_FILLnRIANGLEsULAR_MEDIUM_SHADEgSEVEN_EIGHTHS_BLOCK
   gTHREE_EIGHTHS_BLOCKmQUARTERS_BLOCKhRIANGULAR_ONE_QUARTER_BLOCKcSIDE-DOWN_FACEcWARDS_ANCORAjRROW
   n_AND_RIGHT_ONE_EIGHTH_BLOCKoFROM_BARoLEFTWARDS_OF_DOWNWARDS_ARROWoTO_BARoWITH_DOUBLE_STROKE
   tEQUILATERAL_ARROWHEADtHORIZONTAL_STROKEtLARGE_TRIANGLE_ARROWHEADtMEDIUM_TRIANGLE_ARROWHEAD
   tNOTCHED_TAILtSMALL_EQUILATERAL_ARROWHEADzTRIANGLE_ARROWHEADtTIP_LEFTWARDSxRIGHTWARDSiBLACK_ARROW
   oCIRCLED_WHITE_ARROWiCOMPRESSED_ARROWiDASHED_ARROWjOUBLE_ARROWiFINGER-POST_ARROW
   iHARPOON_WITH_BARB_LEFT_BESIDE_DOWNWARDS_HARPOON_WITH_BARB_RIGHT+mUPWARDS_HARPOON_WITH_BARB_RIGHT
   +fFROM_BAR+fTO_BAR+eWARDS+aRIGHT_FROM_BAR+gTO_BAR+fWARDSjEAVY_ARROWoCOMPRESSED_ARROW
   iPAIRED_ARROWSiQUADRUPLE_ARROWiROCKETiSANS-SERIF_ARROWjQUARED_ARROWiTRIANGLE_ARROWHEAD
   q-HEADED_ARROW+d_LEFTWARDS_OF_DOWNWARDS_TRIANGLE-HEADED_ARROW+eTO_BAR+eWITH_BOLD_SHAFT
   +jDOUBLE_HORIZONTAL_STROKE+jHEAVY_SHAFT+jLONG_TIP_LEFTWARDS+sRIGHTWARDS+jMEDIUM_SHAFT
   +jNARROW_SHAFT+jVERY_HEAVY_SHAFTyDASHED_ARROWyPAIRED_ARROWSlPLE_ARROWjWO_HEADED_ARROW
   l-HEADED_ARROW_FROM_SMALL_CIRCLEzWITH_TRIANGLE_ARROWHEADSiWHITE_ARROWt_FROM_BAR
   +c_WITH_HORIZONTAL_BARuON_PEDESTAL+f_WITH_HORIZONTAL_BAR+lVERTICAL_BARuWITHIN_TRIANGLE_ARROWHEAD
   oDOUBLE_ARROW+a_ON_PEDESTALbRANUSbSaVAI_COMMAeDIGIT_EIGHTkFIVElOURkNINEkONEkSEVENlIXkTHREElWO
   kZEROeFULL_STOPeQUESTION_MARKeSYLLABLE_AoNnBAoEpEoHApEqEpIpOqOpUoIoOpOoUnCAoEpEoIoOpOoUnDAoEpEoHA
   pEqEpHAqErEqIqOrOqUpIpOqOpUoIoOpOoUnEoEpNoNnFAoEpEoIoOpOoUnGAoBApEqEqNpIpOqNqOpUoEpEpNoIoOpOoUnHA
   pNoEpEpNoIpNoOpNpOoUpNnIoNnJAoEpEoIoOpOoUnKApNoEpEoIoOpOoPAqNpEqEqNpIpOqOpUoUnLAoEpEpNGTHENERoIoO
   pOoUnMAoBApEqEpIpOqOpUoEpEoGBAqErEqIqOrOqUoIoOpOoUnNAoDApEqEpIpOqLE_DOtFAtKAtMAtSOOqOpUoEpEoGpAN
   pENpGAqErErNqIqOrOqUpONoIoJApEqEpIpOqOpUoOpOoUoYApEqEpIpOqOpUnOoNoOpNnPAoEpEoIoOpOoUnRAoEpEoIoOpO
   oUnSAoEpEoHApEqEpIpOqOpUoIoOpOoUnTAoEpEoHApEqEpIpOqOpUoIoOpOoUnUoNnVAoEpEoIoOpOoUnWApNoEpEqNpNoI
   pNoOpNpOqNoUpNnYAoEpEoIoOpOoUnZAoEpEoHApEqEpIpOqOpUoIoOpOoUgMBOL_BANGlDANGmO-OnONGlFAAmEENGlJONG
   lKEENGmUNGlNIIlTAAmINGmONGcMPIREcRIATION_SELECTOR-1u0v0v1v2v3v4v5v6v7v8v9u1v0v1v2v3v4v5v6v7v8v9u2
   v0v1v2v3v4v5v6v7v8v9u3v0v1v2v3v4v5v6v7v8v9u4v0v1v2v3v4v5v6v7v8v9u5v0v1v2v3v4v5v6v7v8v9u6v0v1v2v3
   v4v5v6v7v8v9u7v0v1v2v3v4v5v6v7v8v9u8v0v1v2v3v4v5v6v7v8v9u9v0v1v2v3v4v5v6v7v8v9t2u0v0v1v2v3v4v5v6
   v7v8v9u1v0v1v2v3v4v5v6v7v8v9u2v0v1v2v3v4v5v6v7v8v9u3v0v1v2v3v4v5v6v7v8v9u4v0v1v2v3v4v5v6v7v8v9u5
   v0v1v2v3v4v5v6u6u7u8u9t3u0u1u2u3u4u5u6u7u8u9t4u0u1u2u3u4u5u6u7u8u9t5u0u1u2u3u4u5u6u7u8u9t6u0u1u2
   u3u4u5u6u7u8u9t7u0u1u2u3u4u5u6u7u8u9t8u0u1u2u3u4u5u6u7u8u9t9u0u1u2u3u4u5u6u7u8u9
   bECTOR_OR_CROSS_PRODUCTcDIC_SIGN_ANUSVARA_ANTARGOMUKHAuBAHIRGOMUKHAuUBHAYATO_MUKHAuVAMAGOMUKHA
   +f_WITH_TAILmRDHAVISARGAmTIKRAMAlDOUBLE_ANUSVARA_ANTARGOMUKHAlHEXIFORM_LONG_ANUSVARAlJIHVAMULIYA
   lLONG_ANUSVARAlNIHSHVASAlREVERSED_VISARGA_ANUDATTA+cUDATTAmOTATED_ARDHAVISARGA
   mTHANG_LONG_ANUSVARAlTIRYAKlUPADHMANIYAlVISARGA_ANUDATTA+b_WITH_TAILtSVARITAtUDATTAz_WITH_TAIL
   lYAJURVEDIC_MIDLINE_SVARITAgTONE_ATHARVAVEDIC_INDEPENDENT_SVARITAlCANDRA_ABOVEsBELOWlDOT_BELOW
   nUBLE_RING_ABOVEsSVARITAlKARSHANAnTHAKA_ANUDATTAlPRENKHAlRIGVEDIC_KASHMIRI_INDEPENDENT_SVARITA
   nNG_ABOVElSHARAlTHREE_DOTS_BELOWmRIPLE_SVARITAmWO_DOTS_BELOW
   lYAJURVEDIC_AGGRAVATED_INDEPENDENT_SVARITAwINDEPENDENT_SVARITAwKATHAKA_INDEPENDENT_SVARITA
   +x_SCHROEDERcRSICLEdTICAL_BAR_BESIDE_RIGHT_TRIANGLEnDOUBLE_LEFT_TURNSTILEnTRIPLE_RIGHT_TURNSTILE
   nWITH_HORIZONTAL_STROKEjELLIPSISjFOUR_DOTSjIDEOGRAPHIC_ITERATION_MARKjKANA_REPEAT_MARK
   z_LOWER_HALF+aUPPER_HALFvWITH_VOICED_SOUND_MARK+r_UPPER_HALFjLINEn_EXTENSIONoWITH_CIRCLE_ABOVE
   +aBELOWtMIDDLE_DOTjMALE_WITH_STROKE_SIGNjONE_EIGHTH_BLOCK-2+a3+a4+a5+a6+a7jSIX_DOTSjTAB_KEY
   mULATIONt_SETkILDEkRAFFIC_LIGHTjZIGZAG_LINEdY_BOLD_GREEK_CROSSfHEAVY_EIGHT_POINTED_BLACK_STAR
   rSPOKED_ASTERISKlFIVE_SPOKED_ASTERISKlGREEK_CROSSlREVERSE_SOLIDUSlSALTIREmIX_SPOKED_ASTERISK
   mOLIDUSlWHITE_CIRCLErSQUAREfMUCH_GREATER-THANkLESS-THANcSTAbIBRATION_MODEcCTORY_HANDcDEO_CAMERA
   gGAMEfCASSETTEcETNAMESE_ALTERNATE_READING_MARK_CA+iNHAYdWDATA_SQUAREcOLINcRGO
   cTHKUQI_CAPITAL_LETTER_AyBBEzEyCEzHEyDEzHEyEzIyFEyGAyHAzHAyIzJEyJEyKAyLAzLAyMEyNEzJEyOyPEyQAyRE
   ySEzHEyTEzHEyUyVEyXEyYyZEjSMALL_LETTER_AwBBExEwCExHEwDExHEwExIwFEwGAwHAxHAwIxJEwJEwKAwLAxLAwMEwNE
   xJEwOwPEwQAwREwSExHEwTExHEwUwVEwXEwYwZEbOIDED_GREEK_CROSScLCANOdLEYBALLdUME_INTEGRALbS1d0e0e1e2e3
   e4e5e6e7e8e9d1e0e1e2e3e4e5e6e7e8e9d2e0e1e2e3e4e5e6e7e8e9d3e0e1e2e3e4e5e6e7e8e9d4e0e1e2e3e4e5e6e7
   e8e9d5e0e1e2e3e4e5e6e7e8e9d6e0e1e2e3e4e5e6e7e8e9d7e0e1e2e3e4e5e6e7e8e9d8e0e1e2e3e4e5e6e7e8e9d9e0
   e1e2e3e4e5e6e7e8e9c2d0e0e1e2e3e4e5e6e7e8e9d1e0e1e2e3e4e5e6e7e8e9d2e0e1e2e3e4e5e6e7e8e9d3e0e1e2e3
   e4e5e6e7e8e9d4e0e1e2e3e4e5e6e7e8e9d5e0e1e2e3e4e5e6d6d7d8d9c3d0d1d2d3d4d5d6d7d8d9c4d0d1d2d3d4d5d6
   d7d8d9c5d0d1d2d3d4d5d6d7d8d9c6d0d1d2d3d4d5d6d7d8d9c7d0d1d2d3d4d5d6d7d8d9c8d0d1d2d3d4d5d6d7d8d9c9
   d0d1d2d3d4d5d6d7d8d9bTcSbULCANUSdGAR_FRACTION_FIVE_EIGHTHSvSIXTHSrOUR_FIFTHSqONE_EIGHTHuFIFTH
   uHALFuNINTHuQUARTERuSEVENTHvIXTHuTENTHvHIRDqSEVEN_EIGHTHSqTHREE_EIGHTHSwFIFTHSwQUARTERSrWO_FIFTHS
   uTHIRDSqZERO_THIRDSaWAFFLEcNCHO_DIGIT_EIGHTnFIVEoOURnNINEnONEnSEVENoIXnTHREEoWOnZEROhLETTER_ApAqN
   rGpNGpUoBAoCAoDAoEpNoFAoGAoHAoIpNGoJAoKApHAoLApLHAoMAoNApGApYAoOpNqGoPApHAoRAoSApHAoTApHApRApSAoU
   pENoVAoWAoYApIHoZAhNGUN_SIGNhTONE_KOIpNImTUPpNIdING_CRESCENT_MOON_SYMBOLhGIBBOUS_MOON_SYMBOL
   cRANG_CITI_CAPITAL_LETTER_A+cM+cNG+cT+bBU+bDA+bE+cNN+dY+bGA+bHAR+cIYO+cOLO+dRR+bII+bKO+bNGAA+cUNG
   +bO+cDD+bPU+bSII+cSUU+bTTE+bUC+cU+bVIYO+bWI+bYA+cO+cU+dJmDIGIT_EIGHTsFIVEtOURsNINEsONEsSEVENtIX
   sTHREEtWOsZEROmNUMBER_EIGHTYtFIFTYuORTYtNINETYtSEVENTYuIXTYtTENuHIRTYuWENTYmOMmSMALL_LETTER_A+aM
   +aNG+aTzBUzDAzE+aNN+bYzGAzHAR+aIYO+aOLO+bRRzIIzKOzNGAA+aUNGzO+aDDzPUzSII+aSUUzTTEzUC+aUzVIYOzWI
   zYA+aO+aU+bJdNING_SIGNcSTEBASKETcTCHdER_BUFFALOgCLOSETgPOLOgWAVEfMELON
   cVE_ARROW_POINTING_DIRECTLY_LEFT+dRIGHTfDASHdING_BLACK_FLAGhHAND_SIGNhWHITE_FLAGdY_DASHfLINE
   gOW_LINEfOVERLINEcXING_CRESCENT_MOON_SYMBOLhGIBBOUS_MOON_SYMBOLbEARY_CAT_FACEgFACEcDDING
   dGE-TAILED_RIGHTWARDS_ARROWcIERSTRASS_ELLIPTIC_FUNCTIONdGHT_LIFTERcST_SYRIAC_CROSSbHALEcEEL
   f_OF_DHARMAfCHAIR_SYMBOLcITE_ARROW_SHAFT_WIDTH_ONEyTWO_THIRDSgBULLETgCHESS_BISHOP
   s_ROTATED_NINETY_DEGREES+bTWO_HUNDRED_SEVENTY_DEGREESmEQUIHOPPERw_ROTATED_NINETY_DEGREESmKING
   q_ROTATED_NINETY_DEGREESzTWO_HUNDRED_SEVENTY_DEGREESnNIGHTs_ROTATED_FORTY-FIVE_DEGREES
   +bNINETY_DEGREES+bONE_HUNDRED_THIRTY-FIVE_DEGREES+bTHREE_HUNDRED_FIFTEEN_DEGREES
   +cWO_HUNDRED_SEVENTY_DEGREES+nTWENTY-FIVE_DEGREESs-BISHOPtQUEENtROOKmPAWNq_ROTATED_NINETY_DEGREES
   zTWO_HUNDRED_SEVENTY_DEGREESmQUEENr_ROTATED_NINETY_DEGREES+aTWO_HUNDRED_SEVENTY_DEGREESmROOK
   q_ROTATED_NINETY_DEGREESzTWO_HUNDRED_SEVENTY_DEGREESmTURNED_BISHOPtKINGuNIGHTtPAWNtQUEENtROOK
   hIRCLEm_CONTAINING_BLACK_SMALL_CIRCLEnWITH_DOT_RIGHTuWN_ARROWsLOWER_LEFT_QUADRANTyRIGHT_QUADRANT
   sTWO_DOTSsUPPER_LEFT_QUADRANTyRIGHT_QUADRANThLUB_SUIThONCAVE-SIDED_DIAMOND+b_WITH_LEFTWARDS_TICK
   +hRIGHTWARDS_TICKgDIAMONDn_CONTAINING_BLACK_MEDIUM_DIAMOND+fSMALL_DIAMOND+fVERY_SMALL_DIAMOND
   oIN_SQUAREoSUIToWITH_CENTRED_DOThOWN_POINTING_BACKHAND_INDEXuINDEXuLEFT_HAND_INDEX
   k-POINTING_SMALL_TRIANGLEuTRIANGLEhRAUGHTS_KINGpMANgEXCLAMATION_MARK_ORNAMENTgFLAG
   k_WITH_HORIZONTAL_MIDDLE_BLACK_STRIPEiORETTEjWERhOUR_POINTED_CUSPtSTARhROWNING_FACE
   gHARD_SHELL_FLOPPY_DISKhEARTl_SUITjVY_CHECK_MARKmSALTIRE_WITH_ROUNDED_CORNERSiXAGON
   hORIZONTAL_ELLIPSEiURGLASSgLARGE_SQUAREiTIN_CROSShEFT_LANE_MERGElPOINTING_BACKHAND_INDEXuINDEX
   k-POINTING_POINTERuSMALL_TRIANGLEuTRIANGLEhOZENGE_CONTAINING_BLACK_SMALL_LOZENGEgMEDIUM_DIAMOND
   nLOZENGEnSMALL_SQUAREoQUAREoTARhOON_SELENAgNIBgPARALLELOGRAMhENNANTjTAGONgQUESTION_MARK_ORNAMENT
   gRECTANGLEhIGHT_POINTING_BACKHAND_INDEXvINDEXl-POINTING_PENTAGONwOINTERvSMALL_TRIANGLEvTRIANGLE
   gSCISSORShESAME_DOThHOGI_PIECEhMALL_LOZENGEmSQUAREnTARiILING_FACEhPADE_SUIThQUAREm_BUTTON
   nCONTAINING_BLACK_MEDIUM_SQUARE+eSMALL_SQUARE+eVERY_SMALL_SQUAREnWITH_CENTRE_VERTICAL_LINE
   sLEFTWARDS_TICKtOWER_LEFT_QUADRANTyRIGHT_QUADRANTsRIGHTWARDS_TICKtOUNDED_CORNERS
   sUPPER_LEFT_QUADRANTyRIGHT_QUADRANTsVERTICAL_BISECTING_LINEhTARhUNj_BEHIND_CLOUDw_WITH_RAIN
   kWITH_RAYSpSMALL_CLOUDgTELEPHONEhOUCHTONE_TELEPHONEhRAPEZIUM
   iIANGLE_CONTAINING_SMALL_WHITE_TRIANGLEhWO-WAY_LEFT_WAY_TRAFFICgUP_POINTING_BACKHAND_INDEXsINDEX
   i-POINTING_CHEVRONsSMALL_TRIANGLEsTRIANGLE+a_WITH_DOTgVERTICAL_BARpELLIPSEpRECTANGLE
   jY_SMALL_SQUAREf-FEATHERED_RIGHTWARDS_ARROWbIDE-HEADED_DOWNWARDS_BARB_ARROWwHEAVY_BARB_ARROW
   wLIGHT_BARB_ARROWwMEDIUM_BARB_ARROWwVERY_HEAVY_BARB_ARROWmLEFTWARDS_BARB_ARROWwHEAVY_BARB_ARROW
   wLIGHT_BARB_ARROWwMEDIUM_BARB_ARROWwVERY_HEAVY_BARB_ARROWmNORTH_EAST_BARB_ARROWxHEAVY_BARB_ARROW
   xLIGHT_BARB_ARROWxMEDIUM_BARB_ARROWxVERY_HEAVY_BARB_ARROWsWEST_BARB_ARROWxHEAVY_BARB_ARROW
   xLIGHT_BARB_ARROWxMEDIUM_BARB_ARROWxVERY_HEAVY_BARB_ARROWmRIGHTWARDS_BARB_ARROWxHEAVY_BARB_ARROW
   xLIGHT_BARB_ARROWxMEDIUM_BARB_ARROWxVERY_HEAVY_BARB_ARROWmSOUTH_EAST_BARB_ARROWxHEAVY_BARB_ARROW
   xLIGHT_BARB_ARROWxMEDIUM_BARB_ARROWxVERY_HEAVY_BARB_ARROWsWEST_BARB_ARROWxHEAVY_BARB_ARROW
   xLIGHT_BARB_ARROWxMEDIUM_BARB_ARROWxVERY_HEAVY_BARB_ARROWmUPWARDS_BARB_ARROWuHEAVY_BARB_ARROW
   uLIGHT_BARB_ARROWuMEDIUM_BARB_ARROWuVERY_HEAVY_BARB_ARROWcGGLY_VERTICAL_LINEcLTED_FLOWER
   cND_BLOWING_FACEfCHIMEeOWdE_GLASSdKING_FACEcRED_KEYBOARDbJbOLF_FACEcMANf_WITH_BUNNY_EARSfS_BOOTS
   hCLOTHEShHAThSANDALdENS_SYMBOLcN_SIGNcODcRD_JOINERfSEPARATOR_MIDDLE_DOTdLD_MAPdMdRIED_FACE
   bRAPPED_PRESENTcEATH_PRODUCTdNCHdSTLERScITING_HANDaX_IN_A_RECTANGLE_BOXb-RAYbIANGQI_BLACK_CANNON
   pHARIOToELEPHANToGENERALoHORSEoMANDARINoSOLDIERiRED_CANNONnHARIOTmELEPHANTmGENERALmHORSEmMANDARIN
   mSOLDIERbORaYAWNING_FACEbELLOW_HEARTcN_SIGNcZIDI_COMBINING_HAMZA_MARKrMADDA_MARKhHYPHENATION_MARK
   hLETTER_BEoCHHIMqIMpIMoDADqLoELIFpTpWpYNoFAoGAFoHAYpHAoJAoKAFpHAFoLAMr_WITH_DOT_ABOVEoMIMoNUNoOW
   oPEpHEoQAFoRApHAoSADpEpHINpINoTApHEoUMoVAq_ALTERNATE_FORMoWAWoXApHEYNoYOTr_WITH_CIRCUMFLEX_ABOVE
   oZAqLpEbI_RADICAL_BBUTmURlCHEmIPmUOPmYnPnTlDDURmUlGAmEPmGOPnUOmOTlHMOmXITnOPnUOlJJIEnUTnYmOlKEmIT
   lLInEmYRlMImOPlNBIEmYIPnOPmZUPlOPlPUTmYTlQOTlSHATnOPnURnYmSIlTATmUlVEPmURlWOlYITmOlZAmOTmUPnR
   mZIETdSYLLABLE_AnPnTnXmBAoPoToXnBApPpTpXoEpPpXoIpEqPqTqXpPpTpXoOpPpTpXoUpOqPqXpPpRqXpTpXoYpPpTpX
   nEoPoXnIoEpPpTpXoPoToXnOoPoToXnUoOpPpXoPoRpXoToXnYoPoRpXoToXmCAoPoToXnEoPoXnHApPpTpXoEpPpTpXoOpP
   pTpXoUpOqPqTqXpPpRqXpXoYpPpRqXpTpXnIoEpPpTpXoPoToXnOoPoToXnUoOpPpXoPoRpXoToXnYoPoRpXoToXmDAoPoToX
   nDApPpTpXoEpPpXoIpEqPqXpPpTpXoOpPpTpXoUpOqPqXpPpRqXpTpXnEoPoXnIoEpPpXoPoToXnOoPoToXnUoOpXoPoRpXoT
   oXmEnXmFAoPoToXnIoPoToXnOoPoXnUoPoRpXoToXnYoPoToXmGAoPoToXnEoPoToXnGApPpTpXoEpPpTpXoIpEqPqXpTpXoO
   pPpTpXoUpOqPqTqXpPpRqXpTpXnIoEpPpTpXoPoToXnOoPoToXnUoOpPpTpXoPoRpXoToXmHAoPoToXnEoPoXnIEpXoTnLApP
   pTpXoEpPpXoIpEqPqXpPpTpXoOpPpXoUpOqPqXpPpRqXpTpXoYpPpRqXpTpXnMApPpTpXoIpEqPqXpPpTpXoOpPpTpXoUpOqP
   qXpPpRqXpTpXoYpPpRqXpXnNApPpTpXoEpPpXoIpEqPqTqXpPpTpXoOPpTpXoUOqXpTnOoPoToXnUOpPpTpXnXApPpTpXoEpP
   pXoIpEqPqTqXpPpTpXoOpPpTpXoUOqPqTqXmInEoPoToXnPnToERATION_MARKnXmJIoEpPpTpXoPoToXnJIpEqPqTqXpPpT
   pXoOpPpTpXoUpOqPqXpPpRqXpTpXoYpPpTpXnOoPoToXnUoOpPpTpXoPoRpXoToXnYoPoRpXoToXmKAoPoToXnEoPoToXnIoE
   pPpXoPoToXnOoPoToXnUoOpPpXoPoRpXoToXmLAoPoToXnEoPoXnIoEpPpTpXoPoToXnOoPoToXnUoOpPpTpXoPoRpXoToXnY
   oPoRpXoToXmMAoPoToXnEoXnGApPpTpXoEpPpXoIEqXoOpPpTpXoUpOqPqXpPpRqXpTpXnIoEpPpXoPoToXnOoPoToXnUoOpP
   pTpXoPoRpXoToXnYoPoToXmNAoPoXnBApPpTpXoIpEqPqXpPpTpXoOpPpTpXoUpPpRqXpTpXoYpPpRqXpTpXnDApPpTpXoEpP
   pXoIpEqXpPpTpXoOpPpTpXoUpPpRqXpTpXnEoPoXnGApPpTpXoEpPpXoIEqPqXoOpPpTpXoUOqTqXnIoEpPpXoPoToXnJIpE
   qPqTqXpPpTpXoOpPpTpXoUpOqXpPpRqXpXoYpPpRqXpTpXnOoPoToXnRApPpTpXoEpPpTpXoOpPpXoUpPpRqXpTpXoYpPpRqX
   pTpXnUoOpPpXoPoRpXoToXnYIpEqPqTqXpPpTpXoOpPpTpXoUpOqPqXpPpTpXnZApPpTpXoEpXoIpEqPqXpPpTpXoOPpXoUpO
   qXpPpRqXpXoYpPpRqXpTpXmOnPnTnXmPAoPoToXnIoEpPpXoPoToXnOoPoToXnUoOpPpXoPoRpXoToXnYoPoRpXoToXmQIoE
   pPpTpXoPoToXnOoPoToXnUoOpPpTpXoPoRpXoToXnYoPoRpXoToXmRAoPoToXnEoPoXnOoPoToXnRApXoEpPpTpXoOpPpTpX
   oUpOqXpPpRqXpTpXoYpPpRqXpTpXnUoOpPpXoPoRpXoToXnYoPoRpXoToXmSAoPoToXnEoPoXnHApPpTpXoEpPpTpXoOpPpT
   pXoUpOqPqXpPpRqXpTpXoYpPpRqXpTpXnIoEpPpXoPoToXnOoPoToXnSApPpTpXoEpPpXoIpEqPqXpPpTpXoOpPpTpXoUpPpT
   pXoYpPpRqXpTpXnUoOpPpXoPoRpXoToXnYoPoRpXoToXmTAoPoToXnEoPoXnIoEpPpXoPoToXnOoPoToXnUoOpPpTpXoPoRpX
   oToXmUOoPoXmVAoPoToXnEPoXnIoEpPpTpXoPoToXnOoPoToXnUoPoRpXoToXnYoPoRpXoToXmWAoPoToXnEoPoXnOoPoXnU
   oOpPpXmXIoEpPpTpXoPoToXnOoPoToXnUOpXnYoPoRpXoToXmYIoEpPpTpXoPoToXnOoPoToXnUoOpPpTpXoPoRpXoToXnYoP
   oRpXoToXmZAoPoToXnEoPoXnHApPpTpXoEpPpTpXoOpPpTpXoUpOqPqXpPpRqXpTpXoYpPpRqXpTpXnIoEpPpXoPoToXnOoP
   oToXnUoOpPpXoPoRpXoToXnYoPoRpXoToXnZApPpTpXoEpPpXoIpEqPqTqXpPpTpXoOpPpXoUpPpRqXpXoYpPpRqXpTpX
   cN_YANGbO-YOaZ_NOTATION_BAG_MEMBERSHIPlDOMAIN_ANTIRESTRICTIONlLEFT_BINDING_BRACKETqIMAGE_BRACKET
   lRANGE_ANTIRESTRICTIONmELATIONAL_COMPOSITIONmIGHT_BINDING_BRACKETrIMAGE_BRACKET
   lSCHEMA_COMPOSITIONsPIPINGtROJECTIONmPOTlTYPE_COLON
   bANABAZAR_SQUARE_CLOSING_DOUBLE-LINED_HEAD_MARKzHEAD_MARKtUSTER-FINAL_LETTER_LA+mRA+mVA+mYA
   zINITIAL_LETTER_RArFINAL_CONSONANT_MARKrINITIAL_DOUBLE-LINED_HEAD_MARKzHEAD_MARKrLETTER_-AyAyBA
   zHAyCAzHAyDAzDA+aHAzHAzZA+aHAyGAzHAyHAyJAyKAzHAzSSAyLAyMAyNAzGAzNAzYAyPAzHAyRAySAzHAzSAyTAzHAzSA
   +aHAzTA+aHAyVAyYAyZAzHArMARK_DOUBLE_SHADwLONG_TSHEGwSHADwTSHEGrSIGN_ANUSVARAwCANDRA_WITH_ORNAMENT
   +cBINDU+h_WITH_ORNAMENTwVIRAMAySARGAsUBJOINERrVOWEL_LENGTH_MARKxSIGN_AI+dU+cE+cI+cO+dE
   +cREVERSED_I+cU+dEbEBRA_FACEcRO_WIDTH_JOINERlNO-BREAK_SPACEnN-JOINERlSPACEcUSbIPPER-MOUTH_FACE
   bNAMENNY_COMBINING_ATTACHING_VERTICAL_OMETtLOWER_TONAL_RANGE_INDICATORtMARK_BORZAYAyCHASHKA
   +f_POLNAYAzURVED_OMETyDEMESTVENNY_ZADERZHKAzVOETOCHIEyGORAZDO_NIZKO_ON_LEFT+pRIGHT
   +mS_KRYZHEM_ON_LEFT+zRIGHT+gVYSOKOyKACHKAzRYZH+d_ON_LEFTzUPNAYAyLOMKAyMALO_POVYSHE_ON_LEFT+oRIGHT
   +lS_KHOKHLOM_ON_LEFT+zRIGHT+oRYZHEM+mTRANNOyNIZKO_ON_LEFT+hRIGHT+eS_KRYZHEM_ON_LEFT+rRIGHT
   yOBLACHKOzNzTSECHKAyPODCHASHIE+i_WITH_VERTICAL_STROKE+bVERTKA+aVYSHE_ON_LEFT+jRIGHT
   +gS_KHOKHLOM_ON_LEFT+uRIGHT+jRYZHEM+hTRANNOyRAVNO+aZSEKAySKOBAzOROCHYA_NOZHKAzREDNE_ON_LEFT
   +iRIGHTzTRANNO_MALO_POVYSHEyTIKHAYAzOCHKAzSATA_ON_LEFT+hRIGHT+eS_KRYZHEMyUDARKAyVYSOKO_ON_LEFT
   +iRIGHT+fS_KHOKHLOM_ON_LEFT+tRIGHT+iRYZHEMyZADERZHKAzELO+aVOKtTONAL_RANGE_MARK_MRACHNO+kSVETLO
   +kTRESVETLOjNEUME_CHASHKArELYUSTKApDEMESTVENNY_KLYUCHrRBITSAqOUBLE_ZAPYATAYAqUDAqVA_V_CHELNUpFITA
   pGOLUBCHIK_BORZYzMRACHNYzSVETLYzTIKHY+aRESVETLYpKHAMILOqLYUCHqOBYLAqRYUKu_TIKHYsZHqUFISMApMECHIK
   v_KLYUCHENEPOSTOYANNY+dPOVODNY+dVOYwPOVODNYpNEMKApOBLAKOqSOKAu_KLYUCHEVAYA_NEPOSTOYANNAYA
   +hSVETLAYAwRYUKOVAYA_SVETLAYAvSVETLAYAvTRESVETLAYApPALKArRAKLITrUKqEREVODKAy_NEPOSTOYANNAYA
   qODCHASHIErLKULIZMYpREVERSED_CHELYUSTKAqOGpSKAMEYTSA_DVOECHELNAYA_KLYUCHEVAYA+mNEPOSTOYANNAYA
   +mPROSTAYA+mSVETLAYAzKLYUCHENEPOSTOYANNAYA+gVAYA_SVETLAYA+lTIKHAYAzMRACHNAYAzSVETLAYAzTIKHAYA
   +aRESVETLAYAqLOZHITIEy_S_KRYZHEM+bZAPYATOYzZAKRYTOEqTATYAv_NEPOSTOYANNAYAwS_DVUMYA_ZAPYATYMI
   yKRYZHEM+f_I_ZAPYATOYyROGOMyZAPYATOY+g_I_KRYZHEM+jPODCHASHIEMwZAKRYTAYA+f_S_ZAPYATOYrOPITSA
   x_S_OCHKOMyWITH_SOROCHYA_NOZHKArRELA_DVOECHELNAYA+i_KLYUCHEVAYA+fOKRYZHEVAYA+gPOVODNAYA
   +p_KLYUCHEVAYAwGROMNAYA+e_WITH_SINGLE_ZAPYATAYA+aOKRYZHEVAYA+l_POVODNAYA+bPOVODNAYA
   +k_WITH_DOUBLE_ZAPYATAYA+qSINGLE_ZAPYATAYAwKLYUCHENEPOSTOYANNAYA+dPOVODNAYAxRYUKOVAYA+g_GROMNAYA
   +p_WITH_SINGLE_ZAPYATAYA+lOKRYZHEVAYA+w_POVODNAYA+mPOVODNAYA+v_WITH_DOUBLE_ZAPYATAYA
   ++bSINGLE_ZAPYATAYA+hPOVODNAYA+hTRYASKAzZHEVAYAwMRACHNOTIKHAYAwNEPOSTOYANNAYAwPOLUPOVODNAYA
   yVODNAYAxROSTAYAwTIKHAYA_PUTNAYAxRYASOGLASNAYA+cPOVODNAYA+cSTRELNAYA
   pVRAKHIYA_KLYUCHEVAYA_MRACHNAYA+kPROSTAYA+kSVETLAYA+kTRESVETLAYAyMRACHNAYAyPROSTAYAySVETLAYA
   yTRESVETLAYApZANOZHEKrPYATAYAqMEYTSAjPRIZNAK_MODIFIER_DIRECTION_FLIP+aKRYZH+aLEVEL-2+g3+aROG
   bOMBIEbWJcNBSPdJcSP"

end ModelViews.Text
