import ModelViews.Proofs.Contributions
import ModelViews.Proofs.Documentation

namespace ModelViews

open Documentation (carries firstFault? annotationsOf)

inductive Site where
  | modelLines (model : Model)
  | fieldLines (model : Model) (field : Field)
  | limits (model : Model) (field : Field)
  deriving DecidableEq, Repr

/-- Whether the options of a field are read as limits of its values: it is shown, no relation, not
overwritten, and names a scalar type. -/
def Field.limitedScalar? (field : Field) : Option Scalar :=
  if carries .hidden field.documentation ∨ field.kind = .object ∨
      carries .typeOverwrite field.documentation then none
  else Scalar.ofName? field.type

namespace Site

/-- The error of a site. Hidden models have faults in their own documentation only. -/
def error? : Site → Option AnnotationError
  | modelLines model => firstFault? model.documentation
  | fieldLines model field =>
    if carries .hidden model.documentation then none else firstFault? field.documentation
  | limits model field =>
    if carries .hidden model.documentation then none
    else field.limitedScalar?.bind fun scalar =>
      errorOf? (scalar.type (annotationsOf field.documentation))

end Site

/-- The sites of a field: its documentation comes before its limits. -/
def Field.sites (model : Model) (field : Field) : List Site :=
  [.fieldLines model field, .limits model field]

/-- The sites of a model: its documentation comes before its fields. -/
def Model.sites (model : Model) : List Site :=
  .modelLines model :: model.fields.flatMap (Field.sites model)

def Datamodel.sites (datamodel : Datamodel) : List Site :=
  datamodel.models.flatMap Model.sites

/-- A field whose options are read as limits and cannot be limits of its type. -/
def Field.HasBadLimits (field : Field) : Prop :=
  carries .hidden field.documentation = false ∧ field.kind ≠ .object ∧
    carries .typeOverwrite field.documentation = false ∧
    ∃ scalar, Scalar.ofName? field.type = some scalar ∧
      ∃ error, scalar.type (annotationsOf field.documentation) = .error error

namespace Site

private theorem fieldLines_isSome {model : Model} {field : Field} :
    (fieldLines model field).error?.isSome ↔
      carries .hidden model.documentation = false ∧ Documentation.IsFaulty field.documentation := by
  rw [error?, ← Documentation.firstFault_isSome]
  cases carries .hidden model.documentation <;> simp

private theorem limits_isSome {model : Model} {field : Field} :
    (limits model field).error?.isSome ↔
      carries .hidden model.documentation = false ∧ field.HasBadLimits := by
  rw [error?, Field.HasBadLimits]
  cases carries .hidden model.documentation with
  | true => simp
  | false =>
      simp only [Bool.false_eq_true, ↓reduceIte, true_and]
      by_cases excluded : carries .hidden field.documentation = true ∨ field.kind = .object ∨
          carries .typeOverwrite field.documentation = true
      · rw [Field.limitedScalar?, if_pos excluded]
        rcases excluded with hides | relates | overwrites
        · simp [hides]
        · simp [relates]
        · simp [overwrites]
      · rw [Field.limitedScalar?, if_neg excluded]
        simp only [not_or, Bool.not_eq_true] at excluded
        cases Scalar.ofName? field.type with
        | none => simp
        | some scalar => simp [excluded, errorOf_isSome]

end Site

theorem Model.site_error_iff {model : Model} :
    (∃ site ∈ model.sites, site.error?.isSome) ↔
      Documentation.IsFaulty model.documentation ∨
      carries .hidden model.documentation = false ∧
        ∃ field ∈ model.fields,
          Documentation.IsFaulty field.documentation ∨ field.HasBadLimits := by
  rw [← Documentation.firstFault_isSome]
  simp only [sites, List.mem_cons, List.mem_flatMap, Field.sites, List.not_mem_nil, or_false]
  constructor
  · rintro ⟨site, rfl | ⟨field, present, rfl | rfl⟩, faulty⟩
    · exact .inl faulty
    · obtain ⟨shown, bad⟩ := Site.fieldLines_isSome.mp faulty
      exact .inr ⟨shown, field, present, .inl bad⟩
    · obtain ⟨shown, bad⟩ := Site.limits_isSome.mp faulty
      exact .inr ⟨shown, field, present, .inr bad⟩
  · rintro (faulty | ⟨shown, field, present, bad | bad⟩)
    · exact ⟨_, .inl rfl, faulty⟩
    · exact ⟨_, .inr ⟨field, present, .inl rfl⟩, Site.fieldLines_isSome.mpr ⟨shown, bad⟩⟩
    · exact ⟨_, .inr ⟨field, present, .inr rfl⟩, Site.limits_isSome.mpr ⟨shown, bad⟩⟩

namespace View

variable {context : Context} {model : Model} {field : Field} {doc : Documentation}

def typed : List View :=
  [plain, filter, uniqueFilter, create, update]

theorem mem_typed {view : View} :
    view ∈ typed ↔
      view = plain ∨ view = filter ∨ view = uniqueFilter ∨ view = create ∨ view = update := by
  simp only [typed, List.mem_cons, List.not_mem_nil, or_false]

private theorem typedEntry_fault (view : View) :
    errorOf? (view.typedEntry context field doc) = errorOf? (field.baseType doc context.enums) := by
  rw [typedEntry]
  cases field.baseType doc context.enums with
  | error error => rfl
  | ok found => cases found <;> rfl

private theorem entry_fault (view : View) :
    errorOf? (view.entry context field doc) =
      if view ∈ typed then errorOf? (field.baseType doc context.enums) else none := by
  cases view with
  | plain => exact typedEntry_fault .plain
  | filter => exact typedEntry_fault .filter
  | uniqueFilter => exact typedEntry_fault .uniqueFilter
  | create => exact typedEntry_fault .create
  | update => exact typedEntry_fault .update
  | selection => rfl
  | inclusion => rfl
  | ordering => rfl
  | relations => rfl
  | relationsCreate => rfl
  | relationsUpdate => rfl

theorem plain_admits {view : View} (shows : view ∈ typed)
    (admitted : view.admits context model field doc = true) :
    plain.admits context model field doc = true := by
  have scalar : ∀ {settings : Settings}, takesInput settings model field = true →
      decide (field.kind ≠ .object) = true := by
    intro settings taken
    simp only [takesInput, Bool.and_eq_true] at taken
    exact taken.1.1
  rcases mem_typed.mp shows with rfl | rfl | rfl | rfl | rfl
  · exact admitted
  · exact admitted
  · exact (Bool.and_eq_true_iff.mp admitted).1
  · exact scalar (Bool.and_eq_true_iff.mp admitted).2
  · exact scalar (Bool.and_eq_true_iff.mp admitted).2

private theorem choose_fault_of_plain (view : View)
    (sound : errorOf? (plain.choose context model field) = none) :
    errorOf? (view.choose context model field) = none := by
  rw [choose] at sound ⊢
  cases documented : Documentation.read field.documentation with
  | error error => simp [documented] at sound
  | ok doc =>
      simp only [documented] at sound ⊢
      by_cases out : doc.hidden || !view.admits context model field doc
      · rw [if_pos out, errorOf_ok]
      · rw [if_neg out, entry_fault]
        by_cases shows : view ∈ typed
        · rw [if_pos shows]
          simp only [Bool.or_eq_true, Bool.not_eq_true', not_or, Bool.not_eq_false] at out
          have admitted := plain_admits shows out.2
          rw [if_neg (by simp [out.1, admitted]), entry_fault, if_pos (by decide)] at sound
          exact sound
        · rw [if_neg shows]

private theorem baseType_fault {enums : List CompiledEnum}
    (documented : Documentation.read field.documentation = .ok doc) :
    errorOf? (field.baseType doc enums) =
      if carries .typeOverwrite field.documentation then none
      else (Scalar.ofName? field.type).bind fun scalar =>
        errorOf? (scalar.type (annotationsOf field.documentation)) := by
  rw [Field.baseType, ← Documentation.overwrite_isSome documented,
    Documentation.read_annotations documented]
  cases doc.typeOverwrite? with
  | some text => rfl
  | none =>
      cases Scalar.ofName? field.type with
      | some scalar => simp
      | none =>
          by_cases isEnum : field.kind = .enum
          · cases CompiledEnum.find? enums field.type <;> simp [isEnum]
          · simp [isEnum]

private theorem plain_choose_fault (shown : carries .hidden model.documentation = false) :
    errorOf? (plain.choose context model field) = (field.sites model).findSome? Site.error? := by
  have lines : (Site.fieldLines model field).error? = firstFault? field.documentation := by
    simp [Site.error?, shown]
  rw [Field.sites, List.findSome?_cons, lines, List.findSome?_cons, List.findSome?_nil,
    ← Documentation.read_fault, choose]
  cases documented : Documentation.read field.documentation with
  | error error => rfl
  | ok doc =>
      have hidden : doc.hidden = carries .hidden field.documentation :=
        Documentation.hides_eq_carries documented .hidden
      simp only [errorOf_ok, hidden, Site.error?, shown, Field.limitedScalar?, Bool.false_eq_true,
        ↓reduceIte]
      -- A field that the plain view does not take up has no limits either.
      by_cases out : carries .hidden field.documentation = true ∨ field.kind = .object
      · have kept : (carries .hidden field.documentation ||
            !plain.admits context model field doc) = true := by
          simpa [admits] using out
        have unlimited : carries .hidden field.documentation = true ∨ field.kind = .object ∨
            carries .typeOverwrite field.documentation = true := by
          rcases out with hides | relates
          · exact .inl hides
          · exact .inr (.inl relates)
        rw [if_pos kept, if_pos unlimited]
        rfl
      · have admitted : (carries .hidden field.documentation ||
            !plain.admits context model field doc) = false := by
          simpa [admits] using out
        rw [admitted, if_neg Bool.false_ne_true, entry_fault, if_pos (by decide),
          baseType_fault documented]
        by_cases overwritten : carries .typeOverwrite field.documentation
        · rw [if_pos overwritten, if_pos (.inr (.inr overwritten))]
          rfl
        · have limited : ¬ (carries .hidden field.documentation = true ∨ field.kind = .object ∨
              carries .typeOverwrite field.documentation = true) := by
            rw [← or_assoc]
            exact not_or.mpr ⟨out, overwritten⟩
          rw [if_neg overwritten, if_neg limited]
          cases (Scalar.ofName? field.type).bind _ <;> rfl

private theorem plain_compileModel_fault :
    errorOf? (plain.compileModel context model).outcome = model.sites.findSome? Site.error? := by
  have lines : (Site.modelLines model).error? = firstFault? model.documentation := rfl
  rw [compileModel_fault, Model.sites, List.findSome?_cons, lines, ← Documentation.read_fault]
  cases documented : Documentation.read model.documentation with
  | error error => rfl
  | ok doc =>
      have hidden : doc.hidden = carries .hidden model.documentation :=
        Documentation.hides_eq_carries documented .hidden
      simp only [errorOf_ok, hidden, findSome_flatMap]
      -- The sites of the fields are there for hidden models too, but none of them is faulty.
      by_cases hides : carries .hidden model.documentation
      · rw [if_pos hides]
        symm
        simp [Field.sites, Site.error?, hides]
      · rw [if_neg hides]
        apply findSome_congr
        intro field _
        exact plain_choose_fault (by simpa using hides)

private theorem compileModel_fault_of_plain (view : View)
    (sound : errorOf? (plain.compileModel context model).outcome = none) :
    errorOf? (view.compileModel context model).outcome = none := by
  rw [compileModel_fault] at sound ⊢
  cases documented : Documentation.read model.documentation with
  | error error => simp [documented] at sound
  | ok doc =>
      simp only [documented] at sound ⊢
      by_cases hidden : doc.hidden
      · rw [if_pos hidden]
      · rw [if_neg hidden] at sound ⊢
        rw [List.findSome?_eq_none_iff] at sound ⊢
        intro field member
        exact choose_fault_of_plain view (sound field member)

private theorem compile_fault_of_plain (view : View)
    (sound : errorOf? (plain.compile context).outcome = none) :
    errorOf? (view.compile context).outcome = none := by
  rw [compile_fault, List.findSome?_eq_none_iff] at sound ⊢
  intro model member
  exact compileModel_fault_of_plain view (sound model member)

end View

namespace Datamodel

variable (datamodel : Datamodel) (settings : Settings)

private theorem compile_fault_plain :
    errorOf? (datamodel.compile settings).outcome =
      errorOf? (View.plain.compile (datamodel.context settings)).outcome := by
  rw [compile_fault]
  cases plainFault : errorOf? (View.plain.compile (datamodel.context settings)).outcome with
  | some error => simp only [View.all, List.findSome?_cons, plainFault]
  | none =>
      rw [List.findSome?_eq_none_iff]
      intro view _
      exact View.compile_fault_of_plain view plainFault

theorem compile_fault_sites :
    errorOf? (datamodel.compile settings).outcome = datamodel.sites.findSome? Site.error? := by
  rw [compile_fault_plain, View.compile_fault, sites, findSome_flatMap]
  apply findSome_congr
  intro model _
  exact View.plain_compileModel_fault

theorem compiles_iff_sites {datamodel : Datamodel} {settings : Settings} :
    (∃ schemas, (datamodel.compile settings).outcome = .ok schemas) ↔
      ∀ site ∈ datamodel.sites, site.error? = none := by
  rw [← errorOf_eq_none, compile_fault_sites, List.findSome?_eq_none_iff]

/-- A compilation fails if and only if the plain view does, with the same error. That is so if a
documentation is faulty, save for those of the fields of hidden models, or if the limits of a field
are bad; and the error is that of the first such site. -/
theorem compile_fails_iff :
    (∀ error, (datamodel.compile settings).outcome = .error error ↔
      (View.plain.compile (datamodel.context settings)).outcome = .error error) ∧
    ((∃ rows, (View.plain.compile (datamodel.context settings)).outcome = .ok rows) →
      ∀ view : View, ∃ rows, (view.compile (datamodel.context settings)).outcome = .ok rows) ∧
    ((∃ error, (datamodel.compile settings).outcome = .error error) ↔
      (∃ model ∈ datamodel.models, Documentation.IsFaulty model.documentation) ∨
      (∃ model ∈ datamodel.models, carries .hidden model.documentation = false ∧
        ∃ field ∈ model.fields, Documentation.IsFaulty field.documentation) ∨
      ∃ model ∈ datamodel.models, carries .hidden model.documentation = false ∧
        ∃ field ∈ model.fields, field.HasBadLimits) ∧
    ∀ error, (datamodel.compile settings).outcome = .error error ↔
      ∃ before site after, datamodel.sites = before ++ site :: after ∧
        (∀ earlier ∈ before, earlier.error? = none) ∧ site.error? = some error := by
  refine ⟨?_, ?_, ?_, ?_⟩
  · intro error
    rw [← errorOf_eq_some, compile_fault_plain, errorOf_eq_some]
  · intro plainRows view
    exact errorOf_eq_none.mp (View.compile_fault_of_plain view (errorOf_eq_none.mpr plainRows))
  · rw [← errorOf_isSome, compile_fault_sites, sites, findSome_flatMap, List.findSome?_isSome_iff]
    simp only [List.findSome?_isSome_iff, Model.site_error_iff]
    constructor
    · rintro ⟨model, member, faulty | ⟨shown, field, present, faulty | bad⟩⟩
      · exact .inl ⟨model, member, faulty⟩
      · exact .inr (.inl ⟨model, member, shown, field, present, faulty⟩)
      · exact .inr (.inr ⟨model, member, shown, field, present, bad⟩)
    · rintro (⟨model, member, faulty⟩ | ⟨model, member, shown, field, present, faulty⟩ |
        ⟨model, member, shown, field, present, bad⟩)
      · exact ⟨model, member, .inl faulty⟩
      · exact ⟨model, member, .inr ⟨shown, field, present, .inl faulty⟩⟩
      · exact ⟨model, member, .inr ⟨shown, field, present, .inr bad⟩⟩
  · intro error
    rw [← errorOf_eq_some, compile_fault_sites, List.findSome?_eq_some_iff]
    constructor
    · rintro ⟨before, site, after, split, faulty, sound⟩
      exact ⟨before, site, after, split, sound, faulty⟩
    · rintro ⟨before, site, after, split, sound, faulty⟩
      exact ⟨before, site, after, split, faulty, sound⟩

end Datamodel
end ModelViews
