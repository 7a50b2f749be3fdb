import ModelViews.Documentation
import ModelViews.Proofs.Outcomes

namespace ModelViews.Documentation

open Annotation (ofLine optionsPayload? overwritePayload?)

/-- The lines of a documentation. Without any there is one empty line. -/
def linesOf (text : Option String) : List String :=
  Text.lines (text.getD "")

def carries (kind : DirectiveKind) (text : Option String) : Bool :=
  (linesOf text).any fun line => DirectiveKind.ofLine? line = some kind

def lineFault? (line : String) : Option AnnotationError :=
  match DirectiveKind.ofLine? line with
  | some .options =>
    if (optionsPayload? line).isNone then some (.missingPayload .options line) else none
  | some .typeOverwrite =>
    if (overwritePayload? line).isNone then some (.missingPayload .typeOverwrite line)
    else none
  | _ => none

def firstFault? (text : Option String) : Option AnnotationError :=
  (linesOf text).findSome? lineFault?

def IsFaulty (text : Option String) : Prop :=
  ∃ line ∈ linesOf text, (lineFault? line).isSome

def lineAnnotation? (line : String) : Option Annotation :=
  (DirectiveKind.ofLine? line).bind fun kind => (ofLine kind line).toOption

def annotationsOf (text : Option String) : List Annotation :=
  (linesOf text).filterMap lineAnnotation?

theorem firstFault_isSome {text : Option String} : (firstFault? text).isSome ↔ IsFaulty text := by
  rw [firstFault?, List.findSome?_isSome_iff, IsFaulty]

private theorem ofLine_kind {kind : DirectiveKind} {line : String} {found : Annotation}
    (gave : ofLine kind line = .ok found) : found.kind = kind := by
  unfold ofLine at gave
  split at gave
  · split at gave <;> cases gave
    rfl
  · split at gave <;> cases gave
    rfl
  · cases gave
    rfl

theorem ofLine_fault {kind : DirectiveKind} {line : String}
    (named : DirectiveKind.ofLine? line = some kind) :
    errorOf? (ofLine kind line) = lineFault? line := by
  unfold lineFault?
  rw [named]
  cases kind with
  | options => cases payload : optionsPayload? line <;> simp [ofLine, payload]
  | typeOverwrite =>
      cases payload : overwritePayload? line <;> simp [ofLine, payload]
  | hidden => rfl
  | hiddenInput => rfl
  | hiddenCreate => rfl
  | hiddenUpdate => rfl

private theorem annotate_fault (directives : List (DirectiveKind × String)) :
    errorOf? (annotate directives) =
      directives.findSome? fun directive => errorOf? (ofLine directive.1 directive.2) := by
  induction directives with
  | nil => rfl
  | cons directive rest ih =>
      rw [List.findSome?_cons, ← ih, annotate]
      cases ofLine directive.1 directive.2 with
      | error error => rfl
      | ok first => cases annotate rest <;> rfl

private theorem annotate_eq_ok {directives : List (DirectiveKind × String)}
    {annotations : List Annotation}
    (gave : annotate directives = .ok annotations) :
    annotations = directives.filterMap
      fun directive => (ofLine directive.1 directive.2).toOption := by
  induction directives generalizing annotations with
  | nil =>
      cases gave
      rfl
  | cons directive rest ih =>
      rw [annotate] at gave
      cases first : ofLine directive.1 directive.2 with
      | error error => simp [first] at gave
      | ok annotation =>
          cases tail : annotate rest with
          | error error => simp [first, tail] at gave
          | ok others =>
              simp only [first, tail, Except.ok.injEq] at gave
              rw [← gave, List.filterMap_cons, first, ih tail]
              rfl

private theorem directiveLines_fault (text : String) :
    ((directiveLines text).findSome?
      fun directive => errorOf? (ofLine directive.1 directive.2)) =
        (Text.lines text).findSome? lineFault? := by
  rw [directiveLines]
  induction Text.lines text with
  | nil => rfl
  | cons line rest ih =>
      rw [List.filterMap_cons, List.findSome?_cons]
      cases named : DirectiveKind.ofLine? line with
      | none => simpa [lineFault?, named] using ih
      | some kind =>
          simp only [Option.map_some, List.findSome?_cons]
          rw [ofLine_fault named, ih]

theorem read_fault (text : Option String) : errorOf? (read text) = firstFault? text := by
  rw [firstFault?, linesOf, ← directiveLines_fault, ← annotate_fault, read]
  cases annotate (directiveLines (text.getD "")) <;> rfl

/-- What is read are the annotations of the directive lines, and the prose. -/
theorem read_parts {text : Option String} {doc : Documentation} (gave : read text = .ok doc) :
    annotate (directiveLines (text.getD "")) = .ok doc.annotations ∧
      doc.description = prose (text.getD "") := by
  rw [read] at gave
  cases annotated : annotate (directiveLines (text.getD "")) with
  | error error => simp [annotated] at gave
  | ok annotations =>
      simp only [annotated, Except.ok.injEq] at gave
      rw [← gave]
      exact ⟨rfl, rfl⟩

theorem read_annotations {text : Option String} {doc : Documentation}
    (gave : read text = .ok doc) : doc.annotations = annotationsOf text := by
  rw [annotate_eq_ok (read_parts gave).1, directiveLines, List.filterMap_filterMap, annotationsOf,
    linesOf]
  congr 1
  funext line
  cases named : DirectiveKind.ofLine? line <;> simp [lineAnnotation?, named]

private theorem lineAnnotation_kind {line : String} (sound : lineFault? line = none)
    (kind : DirectiveKind) :
    (lineAnnotation? line).any (fun annotation => annotation.kind = kind) =
      decide (DirectiveKind.ofLine? line = some kind) := by
  cases named : DirectiveKind.ofLine? line with
  | none => simp [lineAnnotation?, named]
  | some found =>
      obtain ⟨found, made⟩ := errorOf_eq_none.mp ((ofLine_fault named).trans sound)
      simp [lineAnnotation?, named, made, Except.toOption, ofLine_kind made]

theorem sound_of_read {text : Option String} {doc : Documentation} (gave : read text = .ok doc) :
    ∀ line ∈ linesOf text, lineFault? line = none := by
  have sound : firstFault? text = none := by rw [← read_fault, gave, errorOf_ok]
  exact List.findSome?_eq_none_iff.mp sound

/-- Where a documentation is read, its annotations are of the kinds that its lines name. -/
theorem hides_eq_carries {text : Option String} {doc : Documentation}
    (gave : read text = .ok doc) (kind : DirectiveKind) : doc.hides kind = carries kind text := by
  have sound := sound_of_read gave
  rw [hides, Annotation.anyOf, read_annotations gave, annotationsOf, carries]
  generalize linesOf text = lines at sound ⊢
  induction lines with
  | nil => rfl
  | cons line rest ih =>
      have head := lineAnnotation_kind (sound line (by simp)) kind
      have tail := ih fun other member => sound other (by simp [member])
      rw [List.any_cons, ← head, ← tail, List.filterMap_cons]
      cases lineAnnotation? line <;> simp

private theorem overwrite_payload {line : String} {found : Annotation}
    (made : lineAnnotation? line = some found) (overwrites : found.kind = .typeOverwrite) :
    found.payload.isSome := by
  cases named : DirectiveKind.ofLine? line with
  | none => simp [lineAnnotation?, named] at made
  | some kind =>
      cases given : ofLine kind line with
      | error error => simp [lineAnnotation?, named, given, Except.toOption] at made
      | ok other =>
          have same : other = found := by
            simpa [lineAnnotation?, named, given, Except.toOption] using made
          subst same
          rw [ofLine_kind given] at overwrites
          subst overwrites
          cases payload : overwritePayload? line with
          | none => simp [ofLine, payload] at given
          | some body =>
              simp only [ofLine, payload, Except.ok.injEq] at given
              simp [← given]

/-- A type overwrite always has a text, so that it is there as soon as a line names it. -/
theorem overwrite_isSome {text : Option String} {doc : Documentation}
    (gave : read text = .ok doc) : doc.typeOverwrite?.isSome = carries .typeOverwrite text := by
  rw [← hides_eq_carries gave, hides, Annotation.anyOf, typeOverwrite?, Annotation.typeOverwrite?]
  cases found : doc.annotations.find? (fun annotation => annotation.kind = .typeOverwrite) with
  | none =>
      have absent := List.find?_eq_none.mp found
      symm
      simpa using absent
  | some annotation =>
      have overwrites : annotation.kind = .typeOverwrite := by simpa using List.find?_some found
      have member := List.mem_of_find?_eq_some found
      have present :
          (doc.annotations.any fun annotation => annotation.kind = .typeOverwrite) = true :=
        List.any_eq_true.mpr ⟨_, member, by simpa using overwrites⟩
      rw [read_annotations gave, annotationsOf] at member
      obtain ⟨line, _, made⟩ := List.mem_filterMap.mp member
      rw [present]
      simpa using overwrite_payload made overwrites

end ModelViews.Documentation
