import ModelViews.Command.Run
import ModelViews.Proofs.Escaping
import ModelViews.Proofs.OpeningWords
import ModelViews.Proofs.Spellings
import ModelViews.Proofs.Tables

namespace ModelViews

namespace Emoji

variable {c : Char} {text rest : List Char}

private theorem replaced_nil : replaced [] = [] := by
  rw [replaced]

private theorem replaced_cons (other : c ≠ ':') : replaced (c :: rest) = c :: replaced rest := by
  rw [replaced]
  exact other

private theorem replaced_colon : replaced [':'] = [':'] := by
  rw [replaced]
  split
  · rename_i closed
    cases closed
  · rw [replaced_nil]

private theorem replaced_label (free : ':' ∉ text) : replaced (text ++ [':']) = text ++ [':'] := by
  induction text with
  | nil => exact replaced_colon
  | cons c rest ih =>
      rw [List.cons_append, replaced_cons (List.ne_of_not_mem_cons free).symm,
        ih (List.not_mem_of_not_mem_cons free)]

end Emoji

namespace Markup

private theorem shownBehind_space (text : String) : ∃ more, shownBehind text = ' ' :: more := by
  have blank (run : List Char) : shown (unescaped (' ' :: run)) = ' ' :: shown (unescaped run) := by
    have space : (' ' : Char) ≠ ':' := by decide
    change StyledText.kept (Emoji.replaced (' ' :: unescaped run)) = _
    rw [Emoji.replaced_cons space]
    rfl
  rw [shownBehind]
  cases pieces (escaped text).toList with
  | nil => exact ⟨_, congrArg (· ++ _) (blank [])⟩
  | cons first others =>
      cases first with
      | plain run => exact ⟨_, congrArg (· ++ _) (blank run)⟩
      | tag backslashes body => exact ⟨_, congrArg (· ++ _) (blank [])⟩

/-- What a labelled text shows: the label as it is, and the text behind a space. -/
def remark (label text : String) : List Char :=
  label.toList ++ shownBehind text

end Markup

namespace Screen

open Markup

structure IsHeading (label : String) : Prop where
  isLabel : IsLabel label.toList
  asWritten : shown (unescaped label.toList) = label.toList
  onLine : ∃ words, words ≠ [] ∧ AreOpening width words ∧ spaced words = label.toList ++ [' ']

variable {label : String}

private theorem numberError_none : Style.numberError? "" = none := by
  have empty : Text.words "" = [] := by decide +kernel
  rw [Style.numberError?, empty]
  rfl

private theorem styledText_labelled (heading : IsHeading label) (text : String) :
    styledText (labelled label text) =
      .ok (highlighted ⟨remark label text, [⟨0, label.toList.length, "red"⟩]⟩) := by
  rw [styledText, styled_labelled heading.isLabel, heading.asWritten]
  rfl

private theorem style_highlighted {text : StyledText} {stretch : Stretch}
    (member : stretch ∈ (highlighted text).stretches) :
    stretch.style = "" ∨ stretch ∈ text.stretches := by
  rw [highlighted] at member
  split at member
  · rcases List.mem_append.mp member with set | own
    · obtain ⟨⟨start, stop⟩, _, found⟩ := List.mem_filterMap.mp set
      simp only at found
      split at found
      · rw [← Option.some.inj found]
        exact .inl rfl
      · cases found
    · exact .inr own
  · exact .inr member

private theorem plain_highlighted (text : StyledText) : (highlighted text).plain = text.plain := by
  rw [highlighted]
  split <;> rfl

/-- How a labelled text reaches the screen: from its label on, or not all of it, where it has a joiner
and cannot be cut. -/
structure Reaches (label text : String) (print : Print) : Prop where
  begins : print.fault = none → label.toList ++ [' '] <+: print.text.toList
  uncut : ∀ fault, print.fault = some fault →
    (∃ error, fault = .cut error) ∧ Cells.joiner ∈ remark label text

theorem reaches_labelled (heading : IsHeading label) (text : String) :
    Reaches label text (.styled (labelled label text)) := by
  have print : Print.styled (labelled label text) =
      Print.ofText (highlighted ⟨remark label text, [⟨0, label.toList.length, "red"⟩]⟩) := by
    rw [Print.styled, styledText_labelled heading]
  rw [print]
  constructor
  · intro shown
    obtain ⟨words, some, opening, same⟩ := heading.onLine
    obtain ⟨more, behind⟩ := shownBehind_space text
    rw [← same]
    refine prefix_ofText opening some ?_ shown
    rw [plain_highlighted, remark, behind, same]
    exact ⟨more, by rw [List.append_assoc]; rfl⟩
  · intro fault failed
    have known : ∀ stretch ∈ (highlighted ⟨remark label text,
        [⟨0, label.toList.length, "red"⟩]⟩).stretches, Style.numberError? stretch.style = none := by
      intro stretch member
      rcases style_highlighted member with none | own
      · rw [none, numberError_none]
      · rw [List.mem_singleton.mp own, Style.numberError_red]
    obtain ⟨cut, joined⟩ := Print.fault_ofText known failed
    rw [plain_highlighted] at joined
    exact ⟨cut, joined⟩

private theorem isHeading_of_words (name : List Char) (words : List (List Char)) (some : words ≠ [])
    (opening : AreOpening width words) (same : spaced words = name ++ [':'] ++ [' '])
    (isLabel : IsLabel (name ++ [':'])) (free : ':' ∉ name)
    (plain : StyledText.kept (name ++ [':']) = name ++ [':'])
    (unmarked : unescaped (name ++ [':']) = name ++ [':']) :
    IsHeading (String.ofList (name ++ [':'])) where
  isLabel := by rwa [String.toList_ofList]
  asWritten := by rw [String.toList_ofList, unmarked, shown, Emoji.replaced_label free, plain]
  onLine := ⟨words, some, opening, by rw [same, String.toList_ofList]⟩

theorem isHeading_error : IsHeading "Error:" :=
  isHeading_of_words "Error".toList ["Error:".toList] (by decide) (by decide +kernel)
    (by decide +kernel) (by decide +kernel) (by decide +kernel) (by decide +kernel) (by decide +kernel)

private theorem isHeading_annotation : IsHeading "Invalid annotation:" :=
  isHeading_of_words "Invalid annotation".toList ["Invalid".toList, "annotation:".toList] (by decide)
    (by decide +kernel) (by decide +kernel) (by decide +kernel) (by decide +kernel)
    (by decide +kernel) (by decide +kernel)

end Screen

namespace Command

open Checked

def labelOf : Failure → String
  | .directive _ => "Invalid annotation:"
  | _ => "Error:"

def saidOf : Failure → String
  | .directive error => Text.trimmed error.line
  | failure => failure.message

def report (failure : Failure) : Screen.Print :=
  .styled (Markup.labelled (labelOf failure) (saidOf failure))

theorem isHeading_labelOf (failure : Failure) : Screen.IsHeading (labelOf failure) := by
  cases failure with
  | directive error => exact Screen.isHeading_annotation
  | _ => exact Screen.isHeading_error

/-- A command ends on a failure with the line that complains of it, if the failure is one to report, and
else with the failure itself. -/
theorem conclude_eq (failure : Failure) (desk : Desk) :
    conclude failure desk =
      if failure.isReported then finish .complained (put (report failure) desk)
      else ⟨desk, .raised failure, []⟩ := by
  cases failure <;> rfl

namespace GenerateRequest

variable (request : GenerateRequest)

def named : List (String × Json) :=
  ("arktypeImportDependencyName", .str request.importName) ::
    (request.ignoredKeys.map fun keys =>
      ("ignoredKeysOnInputModels", Json.arr (keys.map .str))).toList

def members : List (String × Json) :=
  request.named ++ [("output", .str request.output)]

private theorem find_output :
    (Name.plain "output").find? request.members = some ("output", .str request.output) := by
  cases keys : request.ignoredKeys <;>
    simp [Name.find?, Name.plain, members, named, keys, Keyed.lookup_cons_ite]

private theorem find_importName :
    Name.find? ⟨"arktypeImportDependencyName", "arktype_import_dependency_name"⟩ request.members =
      some ("arktypeImportDependencyName", .str request.importName) := by
  simp [Name.find?, members, named]

private theorem find_ignoredKeys :
    Name.find? ⟨"ignoredKeysOnInputModels", "ignored_keys_on_input_models"⟩ request.members =
      request.ignoredKeys.map fun keys => ("ignoredKeysOnInputModels", .arr (keys.map .str)) := by
  cases keys : request.ignoredKeys <;>
    simp [Name.find?, members, named, keys, Keyed.lookup_cons_ite]

private theorem options_eq : request.options = .obj request.named := by
  cases keys : request.ignoredKeys <;> simp only [options, named, keys] <;> rfl

private theorem put_output :
    Keyed.put "output" (.str request.output) request.named = request.members := by
  cases keys : request.ignoredKeys <;> simp [Keyed.put, members, named, keys]

private theorem optionMembers_options :
    Settings.optionMembers request.options = .ok request.named := by
  rw [options_eq]
  rfl

theorem settings_eq : request.settings =
    if Text.trimmed request.importName = "" then
      .error (.problems [⟨[.name "arktypeImportDependencyName"], .blankImportName⟩])
    else .ok ⟨Path.ofText request.output, Text.trimmed request.importName,
      request.ignoredKeys.getD Settings.standard.ignoredKeys⟩ := by
  have ignoredKeys : defaulted ⟨"ignoredKeysOnInputModels", "ignored_keys_on_input_models"⟩
      Settings.standard.ignoredKeys Settings.readKeys request.members =
        .good (request.ignoredKeys.getD Settings.standard.ignoredKeys) := by
    rw [defaulted, find_ignoredKeys]
    cases request.ignoredKeys with
    | none => rfl
    | some keys =>
        have read : Settings.readKeys (.arr (keys.map .str)) = .good keys :=
          reads_list reads_text keys _ (Form.list_map Form.text_str keys)
        rw [Option.map_some]
        simp only [read]
        rfl
  have read : Settings.readMembers request.members =
      app (app (.good (Settings.mk (Path.ofText request.output)))
        ((Settings.readImportName (.str request.importName)).under
          (.name "arktypeImportDependencyName")))
        (.good (request.ignoredKeys.getD Settings.standard.ignoredKeys)) := by
    rw [Settings.readMembers, ignoredKeys, defaulted, find_output, defaulted, find_importName]
    rfl
  simp only [settings, Settings.resolve, optionMembers_options, put_output, read,
    Settings.readImportName]
  by_cases blank : Text.trimmed request.importName = ""
  · rw [if_pos blank, if_pos blank]
    rfl
  · rw [if_neg blank, if_neg blank]
    rfl

end GenerateRequest

end Command
end ModelViews
