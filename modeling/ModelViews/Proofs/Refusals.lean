import ModelViews.Proofs.ReportedFailures
import ModelViews.Proofs.TextParts

namespace ModelViews

/-- A value that is asked whether it has a member `datamodel`, and answers rightly: an object, or a text or
a list in which the name does not occur. -/
def Json.IsSearchable : Json → Prop
  | .obj _ => True
  | .str text => ¬ "datamodel".toList <:+: text.toList
  | .arr items => .str "datamodel" ∉ items
  | _ => False

namespace Datamodel

variable {document value : Json} {error : DocumentError}

def refusal : Json → DocumentError
  | .str _ => .memberOfText
  | .arr _ => .memberOfList
  | value => .notSearchable value.kindName

def contained (document : Json) : Json :=
  (document.member? "datamodel").getD document

private theorem any_isDatamodelKey {items : List Json} :
    items.any isDatamodelKey = true ↔ .str "datamodel" ∈ items := by
  have key (item : Json) : isDatamodelKey item = true ↔ item = .str "datamodel" := by
    cases item <;> simp [isDatamodelKey]
  simp [List.any_eq_true, key]

private theorem unwrapped_searchable (searchable : document.IsSearchable) :
    unwrapped document = .ok (contained document) := by
  cases document with
  | obj members => rfl
  | str text =>
      have absent : ¬ Text.occursIn "datamodel" text = true := mt Text.occursIn_iff.mp searchable
      rw [unwrapped, if_neg absent]
      rfl
  | arr items =>
      have absent : ¬ items.any isDatamodelKey = true := mt any_isDatamodelKey.mp searchable
      rw [unwrapped, if_neg absent]
      rfl
  | null => exact searchable.elim
  | bool value => exact searchable.elim
  | int value => exact searchable.elim
  | float value => exact searchable.elim

private theorem unwrapped_unsearchable (unsearchable : ¬ document.IsSearchable) :
    unwrapped document = .error (refusal document) := by
  cases document with
  | obj members => exact absurd trivial unsearchable
  | str text =>
      have present : Text.occursIn "datamodel" text = true :=
        Text.occursIn_iff.mpr (Decidable.not_not.mp unsearchable)
      rw [unwrapped, if_pos present]
      rfl
  | arr items =>
      have present : items.any isDatamodelKey = true := by
        refine Decidable.byContradiction fun absent => unsearchable fun member => ?_
        exact absent (any_isDatamodelKey.mpr member)
      rw [unwrapped, if_pos present]
      rfl
  | null => rfl
  | bool value => rfl
  | int value => rfl
  | float value => rfl

private theorem ofModels_error (failed : ofModels value = .error error) :
    (error = .noDatamodel ∧ value.member? "models" = none) ∨
      ∃ members problems, value = .obj members ∧ readMembers members = .bad problems ∧
        error = .problems problems := by
  cases value with
  | obj members =>
      rw [ofModels] at failed
      split at failed
      · next absent => exact .inl ⟨(Except.error.inj failed).symm, absent⟩
      · split at failed
        · cases failed
        · next problems bad =>
            exact .inr ⟨members, problems, rfl, bad, (Except.error.inj failed).symm⟩
  | _ => exact .inl ⟨(Except.error.inj failed).symm, rfl⟩

/-- A searchable document is refused only in ways that are reported. -/
theorem ofDocument_reported (searchable : document.IsSearchable)
    (failed : ofDocument document = .error error) : (Failure.document error).isReported = true := by
  simp only [ofDocument, unwrapped_searchable searchable] at failed
  rcases ofModels_error failed with ⟨rfl, _⟩ | ⟨_, problems, _, _, rfl⟩
  · rfl
  · rfl

/-- Any other document is refused, in a way that is not. -/
theorem ofDocument_unsearchable (unsearchable : ¬ document.IsSearchable) :
    ofDocument document = .error (refusal document) ∧
      (Failure.document (refusal document)).isReported = false := by
  refine ⟨by simp only [ofDocument, unwrapped_unsearchable unsearchable], ?_⟩
  cases document <;> rfl

end Datamodel

def FailsUnreported {α : Type} (outcome : Except Failure α) : Prop :=
  ∃ failure, outcome = .error failure ∧ failure.isReported = false

@[simp] theorem failsUnreported_error {α : Type} (failure : Failure) :
    FailsUnreported (.error failure : Except Failure α) ↔ failure.isReported = false := by
  simp [FailsUnreported]

private theorem failsUnreported_document (document : Json) :
    FailsUnreported ((Datamodel.ofDocument document).mapError .document) ↔
      ¬ document.IsSearchable := by
  constructor
  · rintro ⟨failure, failed, unreported⟩ searchable
    cases refused : Datamodel.ofDocument document with
    | ok datamodel =>
        rw [refused] at failed
        cases failed
    | error error =>
        rw [refused] at failed
        rw [← Except.error.inj failed, Datamodel.ofDocument_reported searchable refused] at unreported
        cases unreported
  · intro unsearchable
    obtain ⟨refused, unreported⟩ := Datamodel.ofDocument_unsearchable unsearchable
    exact ⟨_, by rw [refused]; rfl, unreported⟩

def content? (bytes : List UInt8) : Option String :=
  (Text.Utf8.decode bytes).toOption.map fun text => String.ofList (lineFeeds text.toList)

/-- Whether a file is refused in a way that is not reported: it is nested too deeply to be read, or holds
a document that is not searchable. -/
def IsUnguarded (limits : Json.Limits) (bytes : List UInt8) : Prop :=
  ∃ content, content? bytes = some content ∧
    ((∃ container, Json.parseWithin limits content = .error (.tooDeep container)) ∨
      ∃ document, Json.parseWithin limits content = .ok document ∧ ¬ document.IsSearchable)

private theorem Tree.loadDatamodel_unreported {tree : Tree} {schema : String} {bytes : List UInt8}
    (readable : tree.read (Path.ofText schema) = .ok bytes) (limits : Json.Limits) :
    FailsUnreported (tree.loadDatamodel schema limits) ↔ IsUnguarded limits bytes := by
  simp only [loadDatamodel, readable]
  cases decoded : Text.Utf8.decode bytes with
  | error fault =>
      have none : content? bytes = none := by
        rw [content?, decoded]
        rfl
      simp [IsUnguarded, none, Failure.isReported]
  | ok text =>
      have content : content? bytes = some (String.ofList (lineFeeds text.toList)) := by
        rw [content?, decoded]
        rfl
      simp only [IsUnguarded, content, Option.some.injEq, exists_eq_left']
      cases parsed : Json.parseWithin limits (String.ofList (lineFeeds text.toList)) with
      | error fault => cases fault <;> simp [Failure.isReported]
      | ok document => simpa using failsUnreported_document document

namespace Command

variable {desk : Desk} {schema : Path} {failure : Failure}

/-- What the commands and the callback of a watch make of a failure to load a schema. -/
structure TakesUp (failure : Failure) (schema : Path) (desk : Desk) : Prop where
  generates : ∀ request settings happenings, request.schema = schema →
    request.settings = .ok settings → generate request desk happenings = conclude failure desk
  inspects : ∀ request views, request.schema = schema → request.views = .ok views →
    inspect request desk = conclude failure desk
  regenerates : ∀ settings, regenerate settings schema desk =
    if failure.isReported then
      (desk.write (complaint failure).text, (complaint failure).fault.isSome)
    else (desk, true)

private theorem takesUp_of_unloaded
    (unloaded : desk.tree.loadDatamodel schema.text desk.limits = .error failure) :
    TakesUp failure schema desk where
  generates := by
    rintro request settings happenings rfl settled
    simp only [generate, settled, generateOnce_unloaded unloaded]
  inspects := by
    rintro request views rfl chosen
    simp only [inspect, chosen, compileSchema, unloaded]
  regenerates := by
    intro settings
    simp only [regenerate, generateOnce_unloaded unloaded, put, Option.isSome_map]

/-- A document is refused in a way that is not reported exactly if it is not searchable, and a file that
can be read exactly if it holds such a document or is nested too deeply. Both commands, and the callback of
a watch, complain of a file that is refused in any other way, and none of them of one that is refused in
that way. -/
theorem refused_unreported (document : Json) (desk : Desk) (schema : Path) :
    (FailsUnreported ((Datamodel.ofDocument document).mapError .document) ↔
      ¬ document.IsSearchable) ∧
    (¬ document.IsSearchable →
      Datamodel.ofDocument document = .error (Datamodel.refusal document)) ∧
    (∀ text bytes, desk.tree.read (Path.ofText text) = .ok bytes →
      (FailsUnreported (desk.tree.loadDatamodel text desk.limits) ↔ IsUnguarded desk.limits bytes)) ∧
    ∀ failure, desk.tree.loadDatamodel schema.text desk.limits = .error failure →
      TakesUp failure schema desk ∧
      (failure.isReported = true → Reports failure desk (conclude failure desk) ∧
        Screen.Reaches "Error:" failure.message (complaint failure)) ∧
      (failure.isReported = false → conclude failure desk = ⟨desk, .raised failure, []⟩) := by
  refine ⟨failsUnreported_document document, fun unsearchable => ?_,
    fun text bytes readable => Tree.loadDatamodel_unreported readable desk.limits,
    fun failure unloaded => ⟨takesUp_of_unloaded unloaded, fun reported => ?_,
      fun unreported => ?_⟩⟩
  · exact (Datamodel.ofDocument_unsearchable unsearchable).1
  · exact ⟨conclude_reports reported, Screen.reaches_labelled Screen.isHeading_error failure.message⟩
  · rw [conclude_eq, if_neg (by simp [unreported])]

/-- An empty list is complained of, and null is not. -/
theorem null_raised_list_reported :
    generate toOut (deskWith "null") [] =
        ⟨deskWith "null", .raised (.document (.notSearchable "NoneType")), []⟩ ∧
      Reports (.document .noDatamodel) (deskWith "[]") (generate toOut (deskWith "[]") []) := by
  constructor
  · have unloaded : (deskWith "null").tree.loadDatamodel toOut.schema.text .standard =
        .error (.document (.notSearchable "NoneType")) := by
      rw [← errorOf_eq_some]
      decide +kernel
    obtain ⟨_, _, _, taken⟩ := refused_unreported .null (deskWith "null") toOut.schema
    obtain ⟨takesUp, _, raises⟩ := taken _ unloaded
    rw [takesUp.generates toOut _ [] rfl settings_toOut, raises rfl]
  · have unloaded : (deskWith "[]").tree.loadDatamodel toOut.schema.text .standard =
        .error (.document .noDatamodel) := by
      rw [← errorOf_eq_some]
      decide +kernel
    obtain ⟨_, _, _, taken⟩ := refused_unreported (.arr []) (deskWith "[]") toOut.schema
    obtain ⟨takesUp, reports, _⟩ := taken _ unloaded
    rw [takesUp.generates toOut _ [] rfl settings_toOut]
    exact (reports rfl).1

/-- Null is no data model, but is not refused as such. -/
theorem null_refused_unreported :
    ¬ ∀ document error, Datamodel.ofDocument document = .error error →
      (Failure.document error).isReported = true := by
  intro always
  have refused := always .null (.notSearchable "NoneType") rfl
  cases refused

end Command
end ModelViews
