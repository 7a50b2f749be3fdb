import Mathlib.Data.List.Basic
import ModelViews.Proofs.Faults

namespace ModelViews

open Documentation (carries)

namespace Logged

variable {ε α β : Type}

/-- The warnings among what a computation reports. -/
def warnings (run : Logged ε α) : List LogEntry :=
  run.log.filter fun entry => entry.level = .warning

@[simp] theorem log_done (value : α) : (done value : Logged ε α).log = [] := rfl

@[simp] theorem log_pure (value : α) : (pure value : Logged ε α).log = [] := rfl

@[simp] theorem log_report (entry : LogEntry) :
    (report entry : Logged ε Unit).log = [entry] := rfl

private theorem bind_log {first : Logged ε α} {next : α → Logged ε β} {value : α}
    (gave : first.outcome = .ok value) : (first >>= next).log = first.log ++ (next value).log := by
  change (andThen first next).log = first.log ++ (next value).log
  simp only [andThen, gave]

/-- A collection that gives a value reports what its steps report, in their order. -/
theorem collect_log {step : α → Logged ε (Option β)} {items : List α} {results : List β}
    (gave : (collect step items).outcome = .ok results) :
    (collect step items).log = items.flatMap fun item => (step item).log := by
  induction items generalizing results with
  | nil => rfl
  | cons first rest ih =>
      rw [collect] at gave ⊢
      obtain ⟨result, head, gave⟩ := bind_eq_ok.mp gave
      obtain ⟨others, tail, _⟩ := bind_eq_ok.mp gave
      rw [bind_log head, bind_log tail, ih tail, log_pure, List.append_nil, List.flatMap_cons]

end Logged

private theorem flatMap_if {α β : Type} (keep : α → Bool) (give : α → β) (items : List α) :
    (items.flatMap fun item => if keep item then [give item] else []) =
      (items.filter keep).map give := by
  induction items with
  | nil => rfl
  | cons item rest ih =>
      rw [List.flatMap_cons, ih, List.filter_cons]
      split <;> rfl

/-- Whether the type of a field is an enum: it is of that kind, names no scalar type, and is not
overwritten. -/
def Field.hasEnumType (field : Field) : Bool :=
  field.kind = .enum && (Scalar.ofName? field.type).isNone &&
    !carries .typeOverwrite field.documentation

namespace Field

variable {field : Field} {doc : Documentation} {enums : List CompiledEnum}

theorem baseType_enum (documented : Documentation.read field.documentation = .ok doc)
    (typed : field.hasEnumType = true) :
    field.baseType doc enums = .ok (match CompiledEnum.find? enums field.type with
      | some enum => .known (Definition.quote enum.union)
      | none => .undefinedEnum) := by
  rw [hasEnumType, ← Documentation.overwrite_isSome documented] at typed
  simp only [Bool.and_eq_true, decide_eq_true_eq, Option.isNone_iff_eq_none, Bool.not_eq_true',
    Option.isSome_eq_false_iff] at typed
  obtain ⟨⟨isEnum, scalar⟩, overwritten⟩ := typed
  simp only [baseType, overwritten, scalar, isEnum, ↓reduceIte]
  cases CompiledEnum.find? enums field.type <;> rfl

/-- Without an enum for its type, what type a field has does not depend on the enums. -/
theorem baseType_free (documented : Documentation.read field.documentation = .ok doc)
    (free : field.hasEnumType = false) :
    field.baseType doc enums ≠ .ok .undefinedEnum ∧
      ∀ others, field.baseType doc others = field.baseType doc enums := by
  rw [hasEnumType, ← Documentation.overwrite_isSome documented] at free
  simp only [baseType]
  cases overwritten : doc.typeOverwrite? with
  | some text => simp
  | none =>
      cases named : Scalar.ofName? field.type with
      | some scalar => cases limited : scalar.type doc.annotations <;> simp [Except.map, limited]
      | none =>
          have other : field.kind ≠ .enum := by simpa [overwritten, named] using free
          simp [other]

private theorem baseType_undefined (documented : Documentation.read field.documentation = .ok doc) :
    field.baseType doc enums = .ok .undefinedEnum ↔
      field.hasEnumType = true ∧ CompiledEnum.find? enums field.type = none := by
  cases typed : field.hasEnumType with
  | false => simpa using (baseType_free documented typed).1
  | true =>
      rw [baseType_enum documented typed]
      cases CompiledEnum.find? enums field.type <;> simp

end Field

namespace View

variable {view : View} {context : Context} {model : Model} {field : Field} {doc : Documentation}

/-- Whether a view takes up a field: its documentation is read and does not hide it, and the view
admits it. -/
def takes (view : View) (context : Context) (model : Model) (field : Field) : Bool :=
  match Documentation.read field.documentation with
  | .ok doc => !doc.hidden && view.admits context model field doc
  | .error _ => false

def misses (view : View) (context : Context) (model : Model) (field : Field) : Bool :=
  view ∈ typed && view.takes context model field && field.hasEnumType &&
    (CompiledEnum.find? context.enums field.type).isNone

private theorem entry_undefined :
    view.entry context field doc = .ok .undefinedEnum ↔
      view ∈ typed ∧ field.baseType doc context.enums = .ok .undefinedEnum := by
  have made (view : View) : view.typedEntry context field doc = .ok .undefinedEnum ↔
      field.baseType doc context.enums = .ok .undefinedEnum := by
    rw [typedEntry]
    cases field.baseType doc context.enums with
    | error error => simp
    | ok found => cases found <;> simp
  have written (type : String → String) : inputEntry context field type ≠ .undefinedEnum := by
    rw [inputEntry]
    cases Relation.identity? context.models field.type <;> simp
  cases view with
  | plain => simpa [entry, mem_typed] using made .plain
  | filter => simpa [entry, mem_typed] using made .filter
  | uniqueFilter => simpa [entry, mem_typed] using made .uniqueFilter
  | create => simpa [entry, mem_typed] using made .create
  | update => simpa [entry, mem_typed] using made .update
  | relationsCreate => simpa [entry, mem_typed] using written Relation.connect
  | relationsUpdate => simpa [entry, mem_typed] using written (Relation.change field)
  | _ => simp [entry, mem_typed]

private theorem choose_undefined :
    view.choose context model field = .ok .undefinedEnum ↔
      view.misses context model field = true := by
  rw [choose, misses, takes]
  cases documented : Documentation.read field.documentation with
  | error error => simp
  | ok doc =>
      by_cases out : doc.hidden || !view.admits context model field doc
      · have left : (!doc.hidden && view.admits context model field doc) = false := by
          rw [← Bool.not_not (_ && _), Bool.not_and, Bool.not_not, out, Bool.not_true]
        simp [out, left]
      · have taken : (!doc.hidden && view.admits context model field doc) = true := by
          simpa using out
        simp only [out, taken]
        rw [if_neg Bool.false_ne_true, entry_undefined, Field.baseType_undefined documented]
        simp [and_assoc]

private theorem compileField_log :
    (view.compileField context model field).log =
      if view.misses context model field then [.undefinedEnum field.type field.name] else [] := by
  rw [compileField]
  by_cases missed : view.misses context model field = true
  · rw [choose_undefined.mpr missed, if_pos missed]
    rfl
  · rw [if_neg missed]
    rw [← choose_undefined] at missed
    cases chosen : view.choose context model field with
    | error error => rfl
    | ok selected =>
        cases selected with
        | undefinedEnum => exact absurd chosen missed
        | _ => rfl

/-- What a view warns of: the fields of a model that is not hidden whose enums it misses. -/
def warnings (view : View) (context : Context) (model : Model) : List LogEntry :=
  if carries .hidden model.documentation then []
  else (model.fields.filter (view.misses context model)).map fun field =>
    .undefinedEnum field.type field.name

private theorem compileModel_log {row : Option Row}
    (gave : (view.compileModel context model).outcome = .ok row) :
    (view.compileModel context model).log = view.warnings context model := by
  rw [compileModel] at gave ⊢
  cases documented : Documentation.read model.documentation with
  | error error => simp [documented] at gave
  | ok doc =>
      have same : carries .hidden model.documentation = doc.hidden :=
        (Documentation.hides_eq_carries documented .hidden).symm
      rw [warnings, same]
      cases hidden : doc.hidden with
      | true => simp [hidden]
      | false =>
          simp only [documented, hidden, Bool.false_eq_true, ↓reduceIte] at gave ⊢
          obtain ⟨entries, collected, _⟩ := Logged.bind_eq_ok.mp gave
          rw [Logged.bind_log collected, Logged.collect_log collected, Logged.log_pure,
            List.append_nil, ← flatMap_if]
          simp only [compileField_log]

private theorem compile_log {rows : List Row} (gave : (view.compile context).outcome = .ok rows) :
    (view.compile context).log = context.models.flatMap (view.warnings context) := by
  rw [compile, Logged.collect_log gave]
  apply List.flatMap_congr
  intro model member
  have sound : errorOf? (view.compile context).outcome = none := by rw [gave, errorOf_ok]
  rw [compile_fault] at sound
  obtain ⟨row, given⟩ := errorOf_eq_none.mp (List.findSome?_eq_none_iff.mp sound model member)
  exact compileModel_log given

private theorem warnings_level (entry : LogEntry) (warned : entry ∈ view.warnings context model) :
    entry.level = .warning := by
  rw [warnings] at warned
  split at warned
  · exact absurd warned List.not_mem_nil
  · obtain ⟨field, _, rfl⟩ := List.mem_map.mp warned
    rfl

end View

namespace Datamodel

private theorem compileViews_log {context : Context} {views : List View}
    {table : List (View × List Row)}
    (gave : (compileViews context views).outcome = .ok table) :
    (compileViews context views).log = views.flatMap fun view =>
      context.models.flatMap (view.warnings context) ++
        [.compiled (context.models.filterMap (view.rowOf? context)).length view.name] := by
  induction views generalizing table with
  | nil => rfl
  | cons view views ih =>
      rw [compileViews] at gave ⊢
      obtain ⟨rows, compiled, gave⟩ := Logged.bind_eq_ok.mp gave
      obtain ⟨_, _, gave⟩ := Logged.bind_eq_ok.mp gave
      obtain ⟨others, rest, _⟩ := Logged.bind_eq_ok.mp gave
      rw [Logged.bind_log compiled, Logged.bind_log (Logged.outcome_report _),
        Logged.bind_log rest, View.compile_log compiled, ih rest, Logged.log_report,
        Logged.log_pure, List.append_nil, List.flatMap_cons, List.append_assoc,
        View.compile_ok view context compiled]

variable {datamodel : Datamodel} {settings : Settings} {schemas : Schemas}

/-- A compilation that succeeds warns of the enums that its views miss, and of nothing else. -/
theorem compile_warnings (compiled : (datamodel.compile settings).outcome = .ok schemas) :
    (datamodel.compile settings).warnings = View.all.flatMap fun view =>
      datamodel.models.flatMap (view.warnings (datamodel.context settings)) := by
  rw [compile] at compiled ⊢
  obtain ⟨table, views, _⟩ := Logged.bind_eq_ok.mp compiled
  rw [Logged.warnings, Logged.bind_log views, Logged.log_pure, List.append_nil,
    compileViews_log views, List.filter_flatMap]
  apply List.flatMap_congr
  intro view _
  have warned : ∀ entry ∈
      (datamodel.context settings).models.flatMap (view.warnings (datamodel.context settings)),
      decide (entry.level = .warning) = true := by
    intro entry member
    obtain ⟨model, _, member⟩ := List.mem_flatMap.mp member
    exact decide_eq_true (View.warnings_level entry member)
  rw [List.filter_append, List.filter_eq_self.mpr warned]
  exact List.append_nil _

end Datamodel
end ModelViews
