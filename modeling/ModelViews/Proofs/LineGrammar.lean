import Mathlib.Data.List.Forall2
import ModelViews.Proofs.TextParts

namespace ModelViews

open Text (First Splits Trims)

namespace DirectiveKind

variable {kind : DirectiveKind} {line : String}

def StandsOn (kind : DirectiveKind) (line : String) : Prop :=
  ∃ name ∈ kind.aliases, name.toList <:+: line.toList

instance (kind : DirectiveKind) (line : String) : Decidable (kind.StandsOn line) :=
  inferInstanceAs (Decidable (∃ name ∈ kind.aliases, name.toList <:+: line.toList))

def Leads (kind : DirectiveKind) (line : String) : Prop :=
  ∃ earlier later, all = earlier ++ kind :: later ∧ kind.StandsOn line ∧
    ∀ other ∈ earlier, ¬ other.StandsOn line

theorem mem_all (kind : DirectiveKind) : kind ∈ all := by
  cases kind <;> decide

theorem occursOn_iff : occursOn line kind = true ↔ kind.StandsOn line := by
  simp only [occursOn, List.any_eq_true, Text.occursIn_iff, StandsOn]

private theorem ofLine_eq_some : ofLine? line = some kind ↔ kind.Leads line := by
  rw [ofLine?, firstOn?, List.find?_eq_some_iff_append, occursOn_iff, Leads]
  simp only [Bool.not_eq_true', ← Bool.not_eq_true, occursOn_iff]
  constructor
  · rintro ⟨stands, earlier, later, split, others⟩
    exact ⟨earlier, later, split, stands, others⟩
  · rintro ⟨earlier, later, split, stands, others⟩
    exact ⟨stands, earlier, later, split, others⟩

theorem ofLine_isSome : (ofLine? line).isSome ↔ ∃ kind ∈ all, kind.StandsOn line := by
  simp only [ofLine?, firstOn?, List.find?_isSome, occursOn_iff]

end DirectiveKind

namespace Annotation

/-- What a line carries for a directive: for options, the text between their first opening and the last
closing brace of the line; for a type overwrite, the trimmed text behind its first equals sign; both
only where there is such a text and it is not empty. For the other directives it carries nothing. -/
inductive Carries (line : String) : DirectiveKind → Option String → Prop where
  | options {before body behind : List Char}
      (opened : First "@prisma-arktype.options\x7b".toList line.toList before (body ++ '}' :: behind))
      (last : '}' ∉ behind) (nonempty : body ≠ []) :
      Carries line .options (some (String.ofList body))
  | typeOverwrite {before rest body : List Char}
      (set : First "@prisma-arktype.typeOverwrite=".toList line.toList before rest)
      (trims : Trims rest body) (nonempty : body ≠ []) :
      Carries line .typeOverwrite (some (String.ofList body))
  | bare {kind : DirectiveKind} (noOptions : kind ≠ .options) (noOverwrite : kind ≠ .typeOverwrite) :
      Carries line kind none

variable {kind : DirectiveKind} {line payload : String} {given : Option String}
  {note : Annotation} {error : AnnotationError}

private theorem carries_of_optionsPayload (found : optionsPayload? line = some payload) :
    Carries line .options (some payload) := by
  rw [optionsPayload?] at found
  split at found
  · cases found
  · next rest opened =>
      split at found
      · cases found
      · next body closed =>
          obtain ⟨before, first⟩ := Text.after_eq_some.mp opened
          obtain ⟨behind, rfl, last⟩ := Text.beforeLast_eq_some.mp closed
          split at found
          · cases found
          · next nonempty =>
              cases found
              exact .options first last (by simpa using nonempty)

private theorem carries_options_iff :
    Carries line .options given ↔ ∃ payload, optionsPayload? line = some payload ∧
      given = some payload := by
  constructor
  · intro carries
    cases carries with
    | @options before body behind opened last nonempty =>
        have first := Text.after_eq_some.mpr ⟨before, opened⟩
        have closed : Text.beforeLast? '}' (body ++ '}' :: behind) = some body :=
          Text.beforeLast_eq_some.mpr ⟨behind, rfl, last⟩
        exact ⟨_, by simp only [optionsPayload?, first, closed, List.isEmpty_iff, if_neg nonempty],
          rfl⟩
    | bare noOptions _ => exact absurd rfl noOptions
  · rintro ⟨payload, found, rfl⟩
    exact carries_of_optionsPayload found

example : optionsPayload? "@prisma-arktype.options\x7b\x7d @prisma-arktype.options\x7bpipe\x7d" =
    some "\x7d @prisma-arktype.options\x7bpipe" := by
  decide +kernel

private theorem carries_of_overwritePayload (found : overwritePayload? line = some payload) :
    Carries line .typeOverwrite (some payload) := by
  rw [overwritePayload?] at found
  split at found
  · cases found
  · next rest set =>
      obtain ⟨before, first⟩ := Text.after_eq_some.mp set
      dsimp only at found
      split at found
      · cases found
      · next nonempty =>
          cases found
          exact .typeOverwrite first (Text.trims_iff.mpr rfl) (by simpa using nonempty)

private theorem carries_overwrite_iff :
    Carries line .typeOverwrite given ↔ ∃ payload, overwritePayload? line = some payload ∧
      given = some payload := by
  constructor
  · intro carries
    cases carries with
    | @typeOverwrite before rest body set trims nonempty =>
        have first := Text.after_eq_some.mpr ⟨before, set⟩
        obtain rfl := Text.trims_iff.mp trims
        exact ⟨_, by simp only [overwritePayload?, first, List.isEmpty_iff, if_neg nonempty], rfl⟩
    | bare _ noOverwrite => exact absurd rfl noOverwrite
  · rintro ⟨payload, found, rfl⟩
    exact carries_of_overwritePayload found

private theorem carries_bare_iff (noOptions : kind ≠ .options)
    (noOverwrite : kind ≠ .typeOverwrite) :
    Carries line kind given ↔ given = none := by
  constructor
  · intro carries
    cases carries with
    | options => exact absurd rfl noOptions
    | typeOverwrite => exact absurd rfl noOverwrite
    | bare => rfl
  · rintro rfl
    exact .bare noOptions noOverwrite

/-- The annotation of a directive line has what the line carries. -/
theorem ofLine_eq_ok :
    ofLine kind line = .ok note ↔
      note.kind = kind ∧ Carries line kind note.payload := by
  obtain ⟨found, given⟩ := note
  cases kind with
  | options =>
      rw [carries_options_iff, ofLine]
      cases optionsPayload? line <;> simp [eq_comm]
  | typeOverwrite =>
      rw [carries_overwrite_iff, ofLine]
      cases overwritePayload? line <;> simp [eq_comm]
  | _ =>
      rw [carries_bare_iff (by decide) (by decide)]
      simp [ofLine, eq_comm]

private theorem error_of_ofLine (failed : ofLine kind line = .error error) :
    error = .missingPayload kind line := by
  cases kind with
  | options =>
      rw [ofLine] at failed
      cases payload : optionsPayload? line <;> simp_all
  | typeOverwrite =>
      rw [ofLine] at failed
      cases payload : overwritePayload? line <;> simp_all
  | _ => cases failed

/-- There is no annotation of a directive line that carries nothing that would do. -/
theorem ofLine_eq_error :
    ofLine kind line = .error error ↔
      (∀ given, ¬ Carries line kind given) ∧ error = .missingPayload kind line := by
  constructor
  · intro failed
    refine ⟨?_, error_of_ofLine failed⟩
    intro given carries
    have made : ofLine kind line = .ok ⟨kind, given⟩ := ofLine_eq_ok.mpr ⟨rfl, carries⟩
    rw [failed] at made
    cases made
  · rintro ⟨nothing, rfl⟩
    cases made : ofLine kind line with
    | ok note =>
        exact absurd (ofLine_eq_ok.mp made).2 (nothing note.payload)
    | error error => rw [error_of_ofLine made]

end Annotation

namespace Documentation

open Annotation (Carries)

def IsDirective (line : String) : Prop :=
  ∃ kind ∈ DirectiveKind.all, kind.StandsOn line

instance (line : String) : Decidable (IsDirective line) :=
  inferInstanceAs (Decidable (∃ kind ∈ DirectiveKind.all, kind.StandsOn line))

def Lacks (kind : DirectiveKind) (line : String) : Prop :=
  kind.Leads line ∧ ∀ given, ¬ Carries line kind given

/-- An annotation says of which directive a line is, and what the line carries for it. -/
structure Annotates (line : String) (note : Annotation) : Prop where
  leads : note.kind.Leads line
  carries : Carries line note.kind note.payload

variable {line : String} {note : Annotation} {error : AnnotationError}

private theorem lineFault_eq_some :
    lineFault? line = some error ↔ ∃ kind, Lacks kind line ∧ error = .missingPayload kind line := by
  cases named : DirectiveKind.ofLine? line with
  | none =>
      have sound : lineFault? line = none := by rw [lineFault?, named]
      rw [sound]
      simp only [reduceCtorEq, false_iff]
      rintro ⟨kind, ⟨leads, _⟩, _⟩
      rw [← DirectiveKind.ofLine_eq_some, named] at leads
      cases leads
  | some kind =>
      rw [← ofLine_fault named, errorOf_eq_some, Annotation.ofLine_eq_error]
      have leads := DirectiveKind.ofLine_eq_some.mp named
      constructor
      · rintro ⟨nothing, same⟩
        exact ⟨kind, ⟨leads, nothing⟩, same⟩
      · rintro ⟨other, ⟨leads, nothing⟩, same⟩
        rw [← DirectiveKind.ofLine_eq_some, named, Option.some.injEq] at leads
        subst leads
        exact ⟨nothing, same⟩

theorem lineAnnotation_eq_some :
    lineAnnotation? line = some note ↔ Annotates line note := by
  rw [lineAnnotation?, Option.bind_eq_some_iff]
  simp only [DirectiveKind.ofLine_eq_some, toOption_eq_some, Annotation.ofLine_eq_ok]
  constructor
  · rintro ⟨kind, leads, rfl, carries⟩
    exact ⟨leads, carries⟩
  · rintro ⟨leads, carries⟩
    exact ⟨_, leads, rfl, carries⟩

theorem isDirective_iff : IsDirective line ↔ ∃ kind, DirectiveKind.ofLine? line = some kind := by
  rw [← Option.isSome_iff_exists, DirectiveKind.ofLine_isSome, IsDirective]

theorem lineFault_eq_none (directive : IsDirective line) :
    lineFault? line = none ↔ ∃ note, lineAnnotation? line = some note := by
  obtain ⟨kind, named⟩ := isDirective_iff.mp directive
  rw [← ofLine_fault named, lineAnnotation?, named, Option.bind_some]
  cases Annotation.ofLine kind line <;> simp [Except.toOption]

theorem nothing_of_prose (prose : ¬ IsDirective line) :
    lineFault? line = none ∧ lineAnnotation? line = none := by
  have unnamed : DirectiveKind.ofLine? line = none := by
    rw [isDirective_iff, ← Option.isSome_iff_exists] at prose
    simpa using prose
  rw [lineFault?, lineAnnotation?, unnamed]
  exact ⟨rfl, rfl⟩

private theorem annotates_iff {lines : List String} {annotations : List Annotation} :
    List.Forall₂ Annotates (lines.filter fun line => IsDirective line) annotations ↔
      (∀ line ∈ lines, lineFault? line = none) ∧ annotations = lines.filterMap lineAnnotation? := by
  induction lines generalizing annotations with
  | nil => simp
  | cons line rest ih =>
      rw [List.filter_cons, List.filterMap_cons, List.forall_mem_cons]
      by_cases directive : IsDirective line
      · rw [if_pos (decide_eq_true directive), List.forall₂_cons_left_iff,
          lineFault_eq_none directive]
        simp only [ih, ← lineAnnotation_eq_some]
        cases made : lineAnnotation? line with
        | none => simp
        | some note =>
            constructor
            · rintro ⟨first, others, same, ⟨sound, rfl⟩, rfl⟩
              obtain rfl := Option.some.inj same
              exact ⟨⟨⟨_, rfl⟩, sound⟩, rfl⟩
            · rintro ⟨⟨_, sound⟩, rfl⟩
              exact ⟨note, _, rfl, ⟨sound, rfl⟩, rfl⟩
      · obtain ⟨sound, unmade⟩ := nothing_of_prose directive
        rw [if_neg (by simpa using directive), ih, sound, unmade]
        simp

theorem description_of_read {text : Option String} {doc : Documentation}
    (gave : read text = .ok doc) : doc.description = prose (text.getD "") :=
  (read_parts gave).2

theorem read_eq_ok {text : Option String} {doc : Documentation} :
    read text = .ok doc ↔ (∀ line ∈ linesOf text, lineFault? line = none) ∧
      doc.annotations = annotationsOf text ∧ doc.description = prose (text.getD "") := by
  constructor
  · intro gave
    exact ⟨sound_of_read gave, read_annotations gave, description_of_read gave⟩
  · rintro ⟨sound, annotations, description⟩
    have nowhere : errorOf? (read text) = none := by
      rw [read_fault, firstFault?, List.findSome?_eq_none_iff]
      exact sound
    obtain ⟨found, gave⟩ := errorOf_eq_none.mp nowhere
    rw [← read_annotations gave] at annotations
    rw [← description_of_read gave] at description
    obtain rfl : doc = found := by
      cases doc
      cases found
      simp_all
    exact gave

private theorem prose_trims (text description : String) :
    Trims ("\n".intercalate ((Text.lines text).filter fun line => ¬ IsDirective line)).toList
        description.toList ↔ description = prose text := by
  have same : (fun line => decide (¬ IsDirective line)) =
      fun line => (DirectiveKind.ofLine? line).isNone := by
    funext line
    simp only [isDirective_iff, ← Option.isSome_iff_exists]
    cases DirectiveKind.ofLine? line <;> simp
  rw [Text.trims_iff, prose, Text.trimmed, same, ← String.toList_inj, String.toList_ofList]

/-- The lines of a documentation are its pieces at line feeds. The first directive line that lacks what
it has to carry ends the reading, with its directive and its whole text in the error. Where no line
does, there is one annotation for each directive line, in the order of the lines, and the description
is the other lines, joined and trimmed. Without a text, or with an empty one, there is neither. -/
theorem read_by_lines (text : Option String) :
    (∃ lines, (∀ parts, Splits '\n' (text.getD "") parts ↔ parts = lines) ∧
      (∀ error, read text = .error error ↔ ∃ before line after kind,
        lines = before ++ line :: after ∧ Lacks kind line ∧
        (∀ earlier ∈ before, ∀ other, ¬ Lacks other earlier) ∧
        error = .missingPayload kind line) ∧
      ∀ doc, read text = .ok doc ↔
        List.Forall₂ Annotates (lines.filter fun line => IsDirective line) doc.annotations ∧
        Trims ("\n".intercalate (lines.filter fun line => ¬ IsDirective line)).toList
          doc.description.toList) ∧
    read none = .ok ⟨[], ""⟩ ∧ read (some "") = .ok ⟨[], ""⟩ := by
  have nothing : read none = .ok ⟨[], ""⟩ := by decide +kernel
  refine ⟨⟨linesOf text, fun parts => Text.splits_iff, ?_, ?_⟩, nothing, nothing⟩
  · intro error
    rw [← errorOf_eq_some, read_fault, firstFault?, List.findSome?_eq_some_iff]
    have sound (line : String) : lineFault? line = none ↔ ∀ kind, ¬ Lacks kind line := by
      rw [Option.eq_none_iff_forall_ne_some]
      simp only [ne_eq, lineFault_eq_some, not_exists, not_and]
      exact ⟨fun none kind lacks => none _ kind lacks rfl, fun none _ kind lacks _ => none kind lacks⟩
    simp only [lineFault_eq_some, sound]
    constructor
    · rintro ⟨before, line, after, split, ⟨kind, lacks, same⟩, earlier⟩
      exact ⟨before, line, after, kind, split, lacks, earlier, same⟩
    · rintro ⟨before, line, after, kind, split, lacks, earlier, same⟩
      exact ⟨before, line, after, split, ⟨kind, lacks, same⟩, earlier⟩
  · intro doc
    rw [annotates_iff, linesOf, prose_trims, read_eq_ok, and_assoc]
    rfl

end Documentation
end ModelViews
