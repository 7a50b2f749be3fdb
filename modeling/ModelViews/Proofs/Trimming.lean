import Mathlib.Data.List.TakeWhile
import ModelViews.Proofs.Documentation

namespace ModelViews

namespace Text

variable {left right text needle : List Char}

def IsBlankText (text : List Char) : Prop :=
  ∀ c ∈ text, isBlank c = true

structure IsSolid (text : List Char) : Prop where
  nonempty : text ≠ []
  solid : ∀ c ∈ text, isBlank c = false

private theorem isSolid_iff : text ≠ [] ∧ text.all (!isBlank ·) = true ↔ IsSolid text := by
  simp only [List.all_eq_true, Bool.not_eq_true']
  exact ⟨fun both => ⟨both.1, both.2⟩, fun isSolid => ⟨isSolid.nonempty, isSolid.solid⟩⟩

instance (text : List Char) : Decidable (IsSolid text) :=
  decidable_of_iff (text ≠ [] ∧ text.all (!isBlank ·) = true) isSolid_iff

theorem IsBlankText.not_mem {c : Char} (blank : IsBlankText text) (solid : isBlank c = false) :
    c ∉ text := by
  intro member
  rw [blank c member] at solid
  cases solid

theorem IsSolid.not_mem {c : Char} (solid : IsSolid text) (blank : isBlank c = true) : c ∉ text := by
  intro member
  rw [solid.solid c member] at blank
  cases blank

private theorem trimStart_blank (blank : IsBlankText text) : trimStart text = [] := by
  rw [trimStart, List.dropWhile_eq_nil_iff]
  exact blank

theorem trim_between (text : List Char) :
    ∃ left right, text = left ++ trim text ++ right ∧ IsBlankText left ∧ IsBlankText right := by
  have front : text.takeWhile isBlank ++ trimStart text = text :=
    List.takeWhile_append_dropWhile
  have back : trimEnd (trimStart text) ++
      ((trimStart text).reverse.takeWhile isBlank).reverse = trimStart text := by
    rw [trimEnd, ← List.reverse_append, List.takeWhile_append_dropWhile, List.reverse_reverse]
  refine ⟨text.takeWhile isBlank, ((trimStart text).reverse.takeWhile isBlank).reverse, ?_, ?_, ?_⟩
  · rw [trim, List.append_assoc, back, front]
  · intro c member
    exact List.mem_takeWhile_imp member
  · intro c member
    exact List.mem_takeWhile_imp (List.mem_reverse.mp member)

theorem trim_append_blank (blank : IsBlankText right) : trim (text ++ right) = trim text := by
  by_cases empty : trimStart text = []
  · have all : IsBlankText text := List.dropWhile_eq_nil_iff.mp empty
    have whole : IsBlankText (text ++ right) :=
      fun c member => (List.mem_append.mp member).elim (all c) (blank c)
    rw [trim, trim, trimStart_blank whole, trimStart_blank all]
  · have ends : right.reverse.dropWhile isBlank = [] :=
      List.dropWhile_eq_nil_iff.mpr fun c member => blank c (List.mem_reverse.mp member)
    have starts : trimStart (text ++ right) = trimStart text ++ right := by
      rw [trimStart, List.dropWhile_append, if_neg (by simpa [trimStart] using empty)]
      rfl
    rw [trim, trim, starts, trimEnd, trimEnd, List.reverse_append, List.dropWhile_append, ends]
    rfl

private theorem IsSolid.not_prefix_blank (solid : IsSolid needle) (blank : IsBlankText right) :
    ¬ needle <+: right := by
  intro begins
  obtain ⟨first, rest, rfl⟩ := List.exists_cons_of_ne_nil solid.nonempty
  exact blank.not_mem (solid.solid first List.mem_cons_self) (begins.subset List.mem_cons_self)

private theorem IsSolid.prefix_append_blank (solid : IsSolid needle) (blank : IsBlankText right) :
    needle <+: text ++ right ↔ needle <+: text := by
  constructor
  · intro begins
    rcases List.prefix_or_prefix_of_prefix begins (List.prefix_append text right) with within | beyond
    · exact within
    · -- What the needle has beyond the text would be both solid and blank.
      obtain ⟨more, rfl⟩ := beyond
      cases more with
      | nil => simp
      | cons c more =>
          have within : c :: more <+: right := (List.prefix_append_right_inj text).mp begins
          have solidMore : IsSolid (c :: more) :=
            ⟨by simp, fun other member => solid.solid other (List.mem_append_right _ member)⟩
          exact absurd within (solidMore.not_prefix_blank blank)
  · exact fun begins => begins.trans (List.prefix_append text right)

private theorem after_blank (solid : IsSolid needle) (blank : IsBlankText left) :
    after? needle (left ++ text) = after? needle text := by
  induction left with
  | nil => rfl
  | cons c left ih =>
      have others := ih fun other member => blank other (by simp [member])
      obtain ⟨first, rest, rfl⟩ := List.exists_cons_of_ne_nil solid.nonempty
      have apart : first ≠ c := by
        rintro rfl
        exact blank.not_mem (solid.solid first List.mem_cons_self) List.mem_cons_self
      rw [List.cons_append, after?, if_neg (by simp [List.isPrefixOf_cons_cons, apart]), others]

private theorem after_append_blank (solid : IsSolid needle) (blank : IsBlankText right) :
    after? needle (text ++ right) = (after? needle text).map (· ++ right) := by
  induction text with
  | nil =>
      have nowhere : after? needle (right ++ []) = after? needle [] := after_blank solid blank
      have none : after? needle [] = none := by
        rw [after?, if_neg (by simpa using solid.nonempty)]
      rw [List.append_nil] at nowhere
      rw [List.nil_append, nowhere, none]
      rfl
  | cons c rest ih =>
      have same : needle.isPrefixOf (c :: rest ++ right) = needle.isPrefixOf (c :: rest) := by
        rw [Bool.eq_iff_iff, List.isPrefixOf_iff_prefix, List.isPrefixOf_iff_prefix]
        exact solid.prefix_append_blank blank
      rw [List.cons_append, after?, ← List.cons_append, same, after?, ih]
      by_cases begins : needle.isPrefixOf (c :: rest) = true
      · have short : needle.length ≤ (c :: rest).length :=
          (List.isPrefixOf_iff_prefix.mp begins).length_le
        rw [if_pos begins, if_pos begins, List.drop_append_of_le_length short]
        rfl
      · rw [if_neg begins, if_neg begins]

private theorem after_trim (solid : IsSolid needle) (text : List Char) :
    ∃ right, IsBlankText right ∧
      after? needle text = (after? needle (trim text)).map (· ++ right) := by
  obtain ⟨left, right, between, blankLeft, blankRight⟩ := trim_between text
  refine ⟨right, blankRight, ?_⟩
  calc after? needle text
      = after? needle (left ++ (trim text ++ right)) := by rw [← List.append_assoc, ← between]
    _ = after? needle (trim text ++ right) := after_blank solid blankLeft
    _ = (after? needle (trim text)).map (· ++ right) := after_append_blank solid blankRight

theorem toList_trimmed (line : String) : (trimmed line).toList = trim line.toList :=
  String.toList_ofList

theorem occursIn_trimmed {name : String} (solid : IsSolid name.toList) (line : String) :
    occursIn name (trimmed line) = occursIn name line := by
  obtain ⟨right, _, same⟩ := after_trim solid line.toList
  rw [occursIn, occursIn, toList_trimmed, same, Option.isSome_map]

private theorem beforeLast_append {mark : Char} (absent : mark ∉ right) :
    beforeLast? mark (text ++ right) = beforeLast? mark text := by
  induction text with
  | nil =>
      rw [List.nil_append]
      induction right with
      | nil => rfl
      | cons c right ih =>
          simp only [List.mem_cons, not_or] at absent
          have others : beforeLast? mark right = none := ih absent.2
          simp only [beforeLast?, others, if_neg (Ne.symm absent.1)]
  | cons c rest ih => rw [List.cons_append, beforeLast?, ih, beforeLast?]

end Text

open Text (trimmed)

namespace DirectiveKind

theorem aliases_solid (kind : DirectiveKind) :
    ∀ name ∈ kind.aliases, Text.IsSolid name.toList := by
  cases kind <;> decide +kernel

private theorem ofLine_trimmed (line : String) : ofLine? (trimmed line) = ofLine? line := by
  have each (kind : DirectiveKind) : occursOn (trimmed line) kind = occursOn line kind := by
    rw [occursOn, occursOn, Bool.eq_iff_iff, List.any_eq_true, List.any_eq_true]
    refine exists_congr fun name => and_congr_right fun member => ?_
    rw [Text.occursIn_trimmed (kind.aliases_solid name member)]
  rw [ofLine?, ofLine?, firstOn?, firstOn?, funext each]

end DirectiveKind

namespace Annotation

private theorem optionsPayload_trimmed (line : String) :
    optionsPayload? (trimmed line) = optionsPayload? line := by
  have solid : Text.IsSolid "@prisma-arktype.options\x7b".toList := by decide +kernel
  have brace : Text.isBlank '}' = false := by decide
  obtain ⟨right, blank, same⟩ := Text.after_trim solid line.toList
  have absent : '}' ∉ right := blank.not_mem brace
  rw [optionsPayload?, optionsPayload?, Text.toList_trimmed, same]
  cases Text.after? "@prisma-arktype.options\x7b".toList (Text.trim line.toList) with
  | none => rfl
  | some rest => simp only [Option.map_some, Text.beforeLast_append absent]

private theorem overwritePayload_trimmed (line : String) :
    overwritePayload? (trimmed line) = overwritePayload? line := by
  have solid : Text.IsSolid "@prisma-arktype.typeOverwrite=".toList := by decide +kernel
  obtain ⟨right, blank, same⟩ := Text.after_trim solid line.toList
  rw [overwritePayload?, overwritePayload?, Text.toList_trimmed, same]
  cases Text.after? "@prisma-arktype.typeOverwrite=".toList (Text.trim line.toList) with
  | none => rfl
  | some rest => simp only [Option.map_some, Text.trim_append_blank blank]

private theorem ofLine_trimmed (kind : DirectiveKind) (line : String) :
    (ofLine kind (trimmed line)).toOption = (ofLine kind line).toOption := by
  cases kind with
  | options =>
      rw [ofLine, ofLine, optionsPayload_trimmed]
      cases optionsPayload? line <;> rfl
  | typeOverwrite =>
      rw [ofLine, ofLine, overwritePayload_trimmed]
      cases overwritePayload? line <;> rfl
  | hidden => rfl
  | hiddenInput => rfl
  | hiddenCreate => rfl
  | hiddenUpdate => rfl

end Annotation

namespace Documentation

private theorem lineAnnotation_trimmed (line : String) :
    lineAnnotation? (trimmed line) = lineAnnotation? line := by
  rw [lineAnnotation?, lineAnnotation?, DirectiveKind.ofLine_trimmed]
  exact Option.bind_congr fun kind _ => Annotation.ofLine_trimmed kind line

def directiveTexts (text : Option String) : List String :=
  ((linesOf text).filter fun line => (DirectiveKind.ofLine? line).isSome).map trimmed

def annotations? (text : Option String) : Option (List Annotation) :=
  (read text).toOption.map Documentation.annotations

private theorem annotate_lines (lines : List String) :
    (annotate (lines.filterMap fun line =>
        (DirectiveKind.ofLine? line).map (·, line))).toOption =
      (lines.filter fun line => (DirectiveKind.ofLine? line).isSome).mapM lineAnnotation? := by
  induction lines with
  | nil => rfl
  | cons line rest ih =>
      rw [List.filterMap_cons, List.filter_cons]
      cases named : DirectiveKind.ofLine? line with
      | none => exact ih
      | some kind =>
          simp only [Option.map_some, Option.isSome_some, ↓reduceIte, List.mapM_cons, annotate,
            ← ih, lineAnnotation?, named, Option.bind_some]
          cases Annotation.ofLine kind line with
          | error error => rfl
          | ok first =>
              cases annotate (rest.filterMap fun line =>
                (DirectiveKind.ofLine? line).map (·, line)) <;> rfl

/-- Whether a documentation is read, and with which annotations, is told by its trimmed directive
lines. -/
theorem annotations_eq (text : Option String) :
    annotations? text = (directiveTexts text).mapM lineAnnotation? := by
  have lines := annotate_lines (linesOf text)
  have trims : lineAnnotation? ∘ trimmed = lineAnnotation? := by
    funext line
    rw [Function.comp_apply, lineAnnotation_trimmed]
  rw [directiveTexts, List.mapM_map, trims, ← lines, annotations?, read]
  change _ = (annotate (directiveLines (text.getD ""))).toOption
  cases annotate (directiveLines (text.getD "")) <;> rfl

end Documentation
end ModelViews
