import ModelViews.Compilation
import ModelViews.Proofs.Outcomes

namespace ModelViews

namespace View

def entryOf? (view : View) (context : Context) (model : Model) (field : Field) : Option Entry :=
  match view.choose context model field with
  | .ok (.entry entry) => some entry
  | _ => none

/-- The fields of a model that have an entry in a view, each with its entry. -/
def contributions (view : View) (context : Context) (model : Model) : List (Field × Entry) :=
  model.fields.filterMap fun field => (view.entryOf? context model field).map (field, ·)

def rowOf? (view : View) (context : Context) (model : Model) : Option Row :=
  match Documentation.read model.documentation with
  | .error _ => none
  | .ok doc =>
    if doc.hidden then none
    else view.row? model doc ((view.contributions context model).map Prod.snd)

theorem mem_all (view : View) : view ∈ all := by
  cases view <;> decide

variable (view : View) (context : Context) (model : Model) (field : Field)

/-- A field has an entry where its documentation is read and does not hide it, and where the view
admits it and makes an entry of it. -/
theorem entryOf_eq_some {entry : Entry} :
    view.entryOf? context model field = some entry ↔
      ∃ doc, Documentation.read field.documentation = .ok doc ∧ doc.hidden = false ∧
        view.admits context model field doc = true ∧
        view.entry context field doc = .ok (.entry entry) := by
  rw [entryOf?, choose]
  cases Documentation.read field.documentation with
  | error error => simp
  | ok doc =>
      simp only [Except.ok.injEq, exists_eq_left']
      by_cases out : doc.hidden || !view.admits context model field doc
      · rw [if_pos out]
        simp only [reduceCtorEq, false_iff]
        rintro ⟨shown, admitted, _⟩
        simp [shown, admitted] at out
      · rw [if_neg out]
        simp only [Bool.or_eq_true, Bool.not_eq_true', not_or, Bool.not_eq_true,
          Bool.not_eq_false] at out
        rw [out.1, out.2]
        cases view.entry context field doc with
        | error error => simp
        | ok selected => cases selected <;> simp

theorem mem_contributions {entry : Entry} :
    (field, entry) ∈ view.contributions context model ↔
      field ∈ model.fields ∧ view.entryOf? context model field = some entry := by
  simp only [contributions, List.mem_filterMap, Option.map_eq_some_iff, Prod.mk.injEq]
  constructor
  · rintro ⟨_, present, _, given, rfl, rfl⟩
    exact ⟨present, given⟩
  · rintro ⟨present, given⟩
    exact ⟨field, present, entry, given, rfl, rfl⟩

theorem contributions_entries :
    (view.contributions context model).map Prod.snd =
      model.fields.filterMap (view.entryOf? context model) := by
  rw [contributions, List.map_filterMap]
  congr 1
  funext field
  cases view.entryOf? context model field <;> rfl

theorem contributions_fields :
    (view.contributions context model).map Prod.fst =
      model.fields.filter fun field => (view.entryOf? context model field).isSome := by
  rw [contributions, List.map_filterMap]
  induction model.fields with
  | nil => rfl
  | cons field rest ih =>
      rw [List.filterMap_cons, List.filter_cons, ih]
      cases view.entryOf? context model field <;> rfl

/-- Where the fields that are kept have the entries of another view or context, and the others have
none, the contributions are those of the other, less the fields that are not kept. -/
theorem contributions_filter {other : View} {otherContext : Context} {keep : Field → Bool}
    (each : ∀ field, view.entryOf? context model field =
      if keep field then other.entryOf? otherContext model field else none) :
    view.contributions context model =
      (other.contributions otherContext model).filter fun (field, _) => keep field := by
  rw [contributions, contributions, List.filter_filterMap]
  congr 1
  funext field
  rw [each field]
  cases other.entryOf? otherContext model field with
  | none => simp
  | some entry => cases kept : keep field <;> simp [Option.filter, kept]

/-- A model has a row where its documentation is read and does not hide it, and where the view has
entries or does without. -/
theorem rowOf_eq_some {row : Row} :
    view.rowOf? context model = some row ↔
      ∃ doc, Documentation.read model.documentation = .ok doc ∧ doc.hidden = false ∧
        (view.contributions context model = [] → view.keepsEmpty = true) ∧
        row = ⟨model.name, Entry.object ((view.contributions context model).map Prod.snd)
          doc.annotations⟩ := by
  rw [rowOf?]
  cases Documentation.read model.documentation with
  | error error => simp
  | ok doc =>
      simp only [Except.ok.injEq, exists_eq_left', row?, List.isEmpty_map]
      cases shown : doc.hidden with
      | true => simp
      | false =>
          by_cases drops : ((view.contributions context model).isEmpty && !view.keepsEmpty) = true
          · rw [if_neg Bool.false_ne_true, if_pos drops]
            simp only [Bool.and_eq_true, List.isEmpty_iff, Bool.not_eq_true'] at drops
            simp [drops]
          · have needs : view.contributions context model = [] → view.keepsEmpty = true := by
              simpa using drops
            rw [if_neg Bool.false_ne_true, if_neg drops, Option.some.injEq]
            constructor
            · exact fun same => ⟨rfl, needs, same.symm⟩
            · exact fun ⟨_, _, same⟩ => same.symm

private theorem compileField_fault :
    errorOf? (view.compileField context model field).outcome =
      errorOf? (view.choose context model field) := by
  rw [compileField]
  cases chosen : view.choose context model field with
  | error error => rfl
  | ok selected => cases selected <;> rfl

private theorem compileField_ok {result : Option Entry}
    (gave : (view.compileField context model field).outcome = .ok result) :
    result = view.entryOf? context model field := by
  rw [compileField] at gave
  rw [entryOf?]
  cases chosen : view.choose context model field with
  | error error => simp [chosen] at gave
  | ok selected =>
      cases selected with
      | entry entry => simpa [chosen, eq_comm] using gave
      | undefinedEnum => simpa [chosen, Logged.bind_of_ok, eq_comm] using gave
      | omitted => simpa [chosen, eq_comm] using gave

theorem compileModel_fault :
    errorOf? (view.compileModel context model).outcome =
      match Documentation.read model.documentation with
      | .error error => some error
      | .ok doc =>
        if doc.hidden then none
        else model.fields.findSome? fun field => errorOf? (view.choose context model field) := by
  rw [compileModel]
  cases Documentation.read model.documentation with
  | error error => rfl
  | ok doc =>
      by_cases hidden : doc.hidden
      · simp [hidden]
      · simp only [hidden, Bool.false_eq_true, ↓reduceIte]
        simp only [← compileField_fault, ← Logged.collect_fault]
        cases collected :
            (Logged.collect (view.compileField context model) model.fields).outcome with
        | error error => rw [Logged.bind_of_error collected]; rfl
        | ok entries => rw [Logged.bind_of_ok collected]; rfl

private theorem compileModel_ok {result : Option Row}
    (gave : (view.compileModel context model).outcome = .ok result) :
    result = view.rowOf? context model := by
  rw [compileModel] at gave
  rw [rowOf?]
  cases documented : Documentation.read model.documentation with
  | error error => simp [documented] at gave
  | ok doc =>
      cases hidden : doc.hidden with
      | true => simpa [documented, hidden, eq_comm] using gave
      | false =>
          simp only [documented, hidden, Bool.false_eq_true, ↓reduceIte] at gave ⊢
          obtain ⟨entries, collected, gave⟩ := Logged.bind_eq_ok.mp gave
          have each := Logged.collect_eq_filterMap _
            (fun field _ _ given => compileField_ok view context model field given) collected
          rw [contributions_entries, ← each]
          simpa [eq_comm] using gave

theorem compile_fault :
    errorOf? (view.compile context).outcome =
      context.models.findSome? fun model => errorOf? (view.compileModel context model).outcome :=
  Logged.collect_fault _ _

theorem compile_ok {rows : List Row} (gave : (view.compile context).outcome = .ok rows) :
    rows = context.models.filterMap (view.rowOf? context) :=
  Logged.collect_eq_filterMap _
    (fun model _ _ given => compileModel_ok view context model given) gave

end View

namespace Datamodel

private theorem compileViews_fault (context : Context) (views : List View) :
    errorOf? (compileViews context views).outcome =
      views.findSome? fun view => errorOf? (view.compile context).outcome := by
  induction views with
  | nil => rfl
  | cons view views ih =>
      rw [compileViews, List.findSome?_cons, ← ih]
      cases compiled : (view.compile context).outcome with
      | error error => rw [Logged.bind_of_error compiled]; rfl
      | ok rows =>
          rw [Logged.bind_of_ok compiled, Logged.bind_of_ok (Logged.outcome_report _)]
          cases others : (compileViews context views).outcome with
          | error error => rw [Logged.bind_of_error others]; rfl
          | ok table => rw [Logged.bind_of_ok others]; rfl

private theorem compileViews_ok {context : Context} {views : List View}
    {table : List (View × List Row)}
    (gave : (compileViews context views).outcome = .ok table) :
    table = views.map fun view => (view, context.models.filterMap (view.rowOf? context)) := by
  induction views generalizing table with
  | nil => simpa [compileViews, eq_comm] using gave
  | cons view views ih =>
      rw [compileViews] at gave
      obtain ⟨rows, compiled, gave⟩ := Logged.bind_eq_ok.mp gave
      obtain ⟨_, _, gave⟩ := Logged.bind_eq_ok.mp gave
      obtain ⟨others, rest, gave⟩ := Logged.bind_eq_ok.mp gave
      simp only [Logged.outcome_pure, Except.ok.injEq] at gave
      rw [← gave, ih rest, View.compile_ok view context compiled, List.map_cons]

variable (datamodel : Datamodel) (settings : Settings)

theorem compile_fault :
    errorOf? (datamodel.compile settings).outcome =
      View.all.findSome? fun view =>
        errorOf? (view.compile (datamodel.context settings)).outcome := by
  rw [← compileViews_fault, compile]
  cases compiled : (compileViews (datamodel.context settings) View.all).outcome with
  | error error => rw [Logged.bind_of_error compiled]; rfl
  | ok table => rw [Logged.bind_of_ok compiled]; rfl

theorem compile_ok {schemas : Schemas}
    (gave : (datamodel.compile settings).outcome = .ok schemas) :
    schemas = ⟨(datamodel.context settings).enums, View.all.map fun view =>
      (view, datamodel.models.filterMap (view.rowOf? (datamodel.context settings)))⟩ := by
  rw [compile] at gave
  obtain ⟨table, compiled, gave⟩ := Logged.bind_eq_ok.mp gave
  simp only [Logged.outcome_pure, Except.ok.injEq] at gave
  rw [← gave, compileViews_ok compiled]
  rfl

theorem views_compile {schemas : Schemas}
    (gave : (datamodel.compile settings).outcome = .ok schemas) :
    schemas.views.map Prod.fst = View.all := by
  rw [compile_ok datamodel settings gave]
  rfl

theorem rowsOf_compile {schemas : Schemas}
    (gave : (datamodel.compile settings).outcome = .ok schemas) (view : View) :
    schemas.rowsOf view =
      datamodel.models.filterMap (view.rowOf? (datamodel.context settings)) := by
  rw [compile_ok datamodel settings gave]
  cases view <;> rfl

theorem mem_rowsOf {schemas : Schemas}
    (gave : (datamodel.compile settings).outcome = .ok schemas) {view : View} {row : Row} :
    row ∈ schemas.rowsOf view ↔
      ∃ model ∈ datamodel.models, view.rowOf? (datamodel.context settings) model = some row := by
  rw [rowsOf_compile datamodel settings gave, List.mem_filterMap]

/-- In a compiled data model every documentation is read, up to the fields of hidden models, and
every view says of every other field what becomes of it. -/
theorem compiled_model {schemas : Schemas}
    (gave : (datamodel.compile settings).outcome = .ok schemas) (view : View) {model : Model}
    (member : model ∈ datamodel.models) :
    ∃ doc, Documentation.read model.documentation = .ok doc ∧
      (doc.hidden = false → ∀ field ∈ model.fields,
        ∃ selected, view.choose (datamodel.context settings) model field = .ok selected) := by
  have whole := compile_fault datamodel settings
  rw [gave, errorOf_ok] at whole
  have ofView := List.findSome?_eq_none_iff.mp whole.symm view (View.mem_all view)
  rw [View.compile_fault] at ofView
  have ofModel := List.findSome?_eq_none_iff.mp ofView model member
  rw [View.compileModel_fault] at ofModel
  cases documented : Documentation.read model.documentation with
  | error error => simp [documented] at ofModel
  | ok doc =>
      refine ⟨doc, rfl, ?_⟩
      intro shown field present
      simp only [documented, shown, Bool.false_eq_true, ↓reduceIte] at ofModel
      exact errorOf_eq_none.mp (List.findSome?_eq_none_iff.mp ofModel field present)

end Datamodel
end ModelViews
