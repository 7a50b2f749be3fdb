import ModelViews.Proofs.Literals

namespace ModelViews.Definition

/-- The text up to the mark that ends it, as it was before it was escaped. Only backslashes and quotes
stand behind a backslash, and nothing stands behind the mark. -/
def unescaped? (mark : Char) : List Char → Option (List Char)
  | [] => none
  | '\\' :: text =>
    match text with
    | [] => none
    | c :: text =>
      if c = '\\' ∨ c = '"' ∨ c = '\'' then (unescaped? mark text).map (c :: ·) else none
  | c :: text =>
    if c = mark then if text.isEmpty then some [] else none
    else (unescaped? mark text).map (c :: ·)

def unquote? (literal : String) : Option String :=
  match literal.toList with
  | [] => none
  | mark :: text =>
    if mark = '"' ∨ mark = '\'' then (unescaped? mark text).map String.ofList else none

def escapedText (definition : String) : String :=
  String.ofList (definition.toList.flatMap escaped)

private theorem unescaped_flatMap (text : List Char) :
    unescaped? '"' (text.flatMap escaped ++ ['"']) = some text := by
  induction text with
  | nil => rfl
  | cons c text ih =>
      rw [List.flatMap_cons, List.append_assoc]
      by_cases special : c = '\\' ∨ c = '"'
      · have marked : c = '\\' ∨ c = '"' ∨ c = '\'' := by
          rcases special with backslash | mark
          · exact .inl backslash
          · exact .inr (.inl mark)
        have pair : escaped c = ['\\', c] := if_pos special
        rw [pair, List.cons_append, List.cons_append, List.nil_append, unescaped?, if_pos marked, ih]
        rfl
      · have single : escaped c = [c] := if_neg special
        rw [not_or] at special
        rw [single, List.cons_append, List.nil_append, unescaped?, if_neg special.2, ih]
        · rfl
        · exact special.1

theorem unquote_quote (definition : String) : unquote? (quote definition) = some definition := by
  rw [quote, unquote?, String.toList_ofList, List.cons_append]
  simp only [true_or, if_true, unescaped_flatMap, Option.map_some, String.ofList_toList]

private theorem quote_inj {first second : String} (same : quote first = quote second) :
    first = second := by
  have read : unquote? (quote first) = unquote? (quote second) := congrArg unquote? same
  rw [unquote_quote, unquote_quote] at read
  exact Option.some.inj read

private theorem escapedText_append (first second : String) :
    escapedText (first ++ second) = escapedText first ++ escapedText second := by
  rw [escapedText, String.toList_append, List.flatMap_append, String.ofList_append]
  rfl

private theorem quote_eq (definition : String) :
    quote definition = literal '"' (escapedText definition) := by
  rw [literal, escapedText, String.toList_ofList]
  rfl

private theorem needsGrouping_escapedText (definition : String) :
    needsGrouping (escapedText definition) = needsGrouping definition := by
  rw [needsGrouping, escapedText, String.toList_ofList, List.any_flatMap, needsGrouping]
  congr 1
  funext c
  by_cases special : c = '\\' ∨ c = '"'
  · rw [escaped, if_pos special]
    rcases special with rfl | rfl <;> rfl
  · rw [escaped, if_neg special]
    simp

private theorem listOf_escapedText (definition : String) :
    listOf (escapedText definition) = escapedText (listOf definition) := by
  have opening : escapedText "(" = "(" := rfl
  have ending : escapedText ")[]" = ")[]" := rfl
  have brackets : escapedText "[]" = "[]" := rfl
  rw [listOf, needsGrouping_escapedText, listOf]
  by_cases grouped : needsGrouping definition = true
  · rw [if_pos grouped, if_pos grouped, escapedText_append, escapedText_append, opening, ending]
  · rw [if_neg grouped, if_neg grouped, escapedText_append, brackets]

private theorem orNullOf_escapedText (definition : String) :
    orNullOf (escapedText definition) = escapedText (orNullOf definition) := by
  have null : escapedText " | null" = " | null" := rfl
  rw [orNullOf, orNullOf, escapedText_append, null]

/-- Wrapping between the quotes is quoting what is wrapped, where the wrapping does not mind escapes. -/
theorem insideLiteral_quote {wrap : String → String} {definition : String}
    (commutes : wrap (escapedText definition) = escapedText (wrap definition)) :
    insideLiteral wrap (quote definition) = quote (wrap definition) := by
  rw [quote_eq, quote_eq, insideLiteral_literal, commutes]

theorem arrayOf_quote (definition : String) :
    arrayOf (quote definition) = quote (listOf definition) := by
  rw [arrayOf, if_pos (isLiteral_quote definition)]
  exact insideLiteral_quote (listOf_escapedText definition)

theorem orNull_quote (definition : String) :
    orNull (quote definition) = quote (orNullOf definition) := by
  rw [orNull, if_pos (isLiteral_quote definition)]
  exact insideLiteral_quote (orNullOf_escapedText definition)

/-- Quoting gives a literal from which the definition is read back, different literals for different
definitions, and it commutes with the list form, the null form and both of them. -/
theorem quote_invertible_commutes :
    Function.Injective quote ∧ ∀ definition : String,
      isLiteral (quote definition) = true ∧
      unquote? (quote definition) = some definition ∧
      arrayOf (quote definition) = quote (listOf definition) ∧
      orNull (quote definition) = quote (orNullOf definition) ∧
      orNull (arrayOf (quote definition)) = quote (orNullOf (listOf definition)) := by
  constructor
  · intro first second same
    exact quote_inj same
  · intro definition
    have both : orNull (arrayOf (quote definition)) = quote (orNullOf (listOf definition)) :=
      calc
        orNull (arrayOf (quote definition)) = orNull (quote (listOf definition)) := by
          rw [arrayOf_quote]
        _ = quote (orNullOf (listOf definition)) := orNull_quote (listOf definition)
    exact ⟨isLiteral_quote definition, unquote_quote definition, arrayOf_quote definition,
      orNull_quote definition, both⟩

example : orNull (arrayOf "\"'it\\\"s' | 'a\\\\b'\"") = "\"('it\\\"s' | 'a\\\\b')[] | null\"" := by
  decide +kernel

end ModelViews.Definition
