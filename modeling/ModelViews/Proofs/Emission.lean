import Mathlib.Data.List.Forall2
import ModelViews.Proofs.Faults
/-!
Which fields a view emits, and what it prints of them, told from the data model and the lines of its
documentation alone. The rows of a compilation are exactly the rows that this account gives.
-/
namespace ModelViews

open Documentation (carries)

/-- Whether there is a type for a field that is no relation: the field overwrites it, names a scalar
type, or is of an enum that is defined. -/
def Field.isTypable (datamodel : Datamodel) (field : Field) : Bool :=
  carries .typeOverwrite field.documentation || (Scalar.ofName? field.type).isSome ||
    field.kind = .enum && datamodel.enums.any fun enum => enum.name = field.type

def Field.isKeptOut (specific : DirectiveKind) (field : Field) : Bool :=
  carries .hiddenInput field.documentation || carries specific field.documentation

/-- Whether a scalar field is dropped from inputs: it is ignored, or it is a foreign key. -/
def Model.dropsInput (settings : Settings) (model : Model) (field : Field) : Bool :=
  settings.ignoredKeys.contains field.name || model.isForeignKey field

def Field.hasTarget (datamodel : Datamodel) (field : Field) : Bool :=
  datamodel.models.any fun target => target.name = field.type

namespace View

def emits (view : View) (datamodel : Datamodel) (settings : Settings) (model : Model)
    (field : Field) : Bool :=
  !carries .hidden field.documentation &&
  match view with
  | plain | filter => field.kind ≠ .object && field.isTypable datamodel
  | uniqueFilter =>
    field.kind ≠ .object && field.isTypable datamodel && (field.isId || field.isUnique)
  | create =>
    field.kind ≠ .object && field.isTypable datamodel && !field.isKeptOut .hiddenCreate &&
      !model.dropsInput settings field
  | update =>
    field.kind ≠ .object && field.isTypable datamodel && !field.isKeptOut .hiddenUpdate &&
      !model.dropsInput settings field
  | selection => true
  | inclusion | relations => field.kind = .object
  | ordering => field.kind = .scalar || field.kind = .enum
  | relationsCreate =>
    field.kind = .object && !field.isKeptOut .hiddenCreate && field.hasTarget datamodel
  | relationsUpdate =>
    field.kind = .object && !field.isKeptOut .hiddenUpdate && field.hasTarget datamodel

def PrintsType (view : View) (datamodel : Datamodel) (field : Field) (type : String) : Prop :=
  match view with
  | plain | filter | uniqueFilter | create | update =>
    ∃ doc base, Documentation.read field.documentation = .ok doc ∧
      field.baseType doc (datamodel.enums.map CompiledEnum.ofEnum) = .ok (.known base) ∧
      type = field.wrapped true base
  | selection | inclusion => type = "\"boolean\""
  | ordering => type = "\"'asc' | 'desc'\""
  | relations => type = Relation.opaqueType field
  | relationsCreate =>
    ∃ identity, Relation.identity? datamodel.models field.type = some identity ∧
      type = Relation.connect identity
  | relationsUpdate =>
    ∃ identity, Relation.identity? datamodel.models field.type = some identity ∧
      type = Relation.change field identity

def marksOptional (view : View) (field : Field) : Bool :=
  match view with
  | plain | create => !field.isRequired || field.hasDefault
  | relations => !field.isList && !field.isRequired
  | _ => true

/-- An entry that prints a field in a view. -/
structure Prints (view : View) (datamodel : Datamodel) (field : Field) (entry : Entry) : Prop where
  key : entry.key = field.name
  isOptional : entry.isOptional = view.marksOptional field
  type : view.PrintsType datamodel field entry.type

/-- The row that a view has of a model whose fields print the given entries. -/
def rowOfEntries? (view : View) (model : Model) (entries : List Entry) : Option Row :=
  if carries .hidden model.documentation then none
  else if entries = [] ∧
      view ∈ [uniqueFilter, relations, relationsCreate, relationsUpdate] then none
  else some ⟨model.name, Entry.object entries (Documentation.annotationsOf model.documentation)⟩

end View

theorem find_enum_isSome (enums : List EnumType) (name : String) :
    (CompiledEnum.find? (enums.map CompiledEnum.ofEnum) name).isSome =
      enums.any fun enum => enum.name = name := by
  rw [CompiledEnum.find?, Bool.eq_iff_iff, List.find?_isSome, List.any_eq_true]
  constructor
  · rintro ⟨compiled, member, same⟩
    obtain ⟨enum, present, rfl⟩ := List.mem_map.mp (List.mem_reverse.mp member)
    exact ⟨enum, present, same⟩
  · rintro ⟨enum, present, same⟩
    exact ⟨CompiledEnum.ofEnum enum, List.mem_reverse.mpr (List.mem_map_of_mem present), same⟩

private theorem isTypable_iff {datamodel : Datamodel} {field : Field} {doc : Documentation}
    {found : FieldType} (documented : Documentation.read field.documentation = .ok doc)
    (typed : field.baseType doc (datamodel.enums.map CompiledEnum.ofEnum) = .ok found) :
    field.isTypable datamodel = true ↔ ∃ base, found = .known base := by
  rw [Field.isTypable, ← Documentation.overwrite_isSome documented, ← find_enum_isSome]
  rw [Field.baseType] at typed
  cases overwritten : doc.typeOverwrite? with
  | some text =>
      simp only [overwritten, Except.ok.injEq] at typed
      simp [← typed]
  | none =>
      cases named : Scalar.ofName? field.type with
      | some scalar =>
          cases defined : scalar.type doc.annotations with
          | error error => simp [overwritten, named, defined, Except.map] at typed
          | ok type =>
              simp only [overwritten, named, defined, Except.map, Except.ok.injEq] at typed
              simp [← typed]
      | none =>
          by_cases isEnum : field.kind = .enum
          · cases looked :
                CompiledEnum.find? (datamodel.enums.map CompiledEnum.ofEnum) field.type with
            | none =>
                simp only [overwritten, named, isEnum, looked, ↓reduceIte, Except.ok.injEq] at typed
                simp [← typed]
            | some enum =>
                simp only [overwritten, named, isEnum, looked, ↓reduceIte, Except.ok.injEq] at typed
                simp [← typed, isEnum]
          · simp only [overwritten, named, isEnum, ↓reduceIte, Except.ok.injEq] at typed
            simp [← typed, isEnum]

theorem identity_isSome (models : List Model) (name : String) :
    (Relation.identity? models name).isSome = models.any fun target => target.name = name := by
  rw [Relation.identity?, Option.isSome_map, Datamodel.model?, Bool.eq_iff_iff, List.find?_isSome,
    List.any_eq_true]

namespace View

variable {datamodel : Datamodel} {settings : Settings} {model : Model} {field : Field}
  {doc : Documentation} {selected : Selected}

private theorem typedEntry_prints {view : View} (shows : view ∈ typed)
    (documented : Documentation.read field.documentation = .ok doc)
    (chosen : view.typedEntry (datamodel.context settings) field doc = .ok selected) :
    if field.isTypable datamodel then
      ∃ entry, selected = .entry entry ∧ view.Prints datamodel field entry
    else ∀ entry, selected ≠ .entry entry := by
  have enums : (datamodel.context settings).enums = datamodel.enums.map CompiledEnum.ofEnum := rfl
  rw [typedEntry, enums] at chosen
  cases base : field.baseType doc (datamodel.enums.map CompiledEnum.ofEnum) with
  | error error => simp [base] at chosen
  | ok found =>
      have typable := isTypable_iff documented base
      cases found with
      | known type =>
          rw [if_pos (typable.mpr ⟨type, rfl⟩)]
          simp only [base, Except.ok.injEq] at chosen
          refine ⟨_, chosen.symm, rfl, ?_, ?_⟩
          · rcases mem_typed.mp shows with rfl | rfl | rfl | rfl | rfl <;> rfl
          · have printed : ∃ doc base, Documentation.read field.documentation = .ok doc ∧
                field.baseType doc (datamodel.enums.map CompiledEnum.ofEnum) = .ok (.known base) ∧
                field.wrapped true type = field.wrapped true base :=
              ⟨doc, type, documented, base, rfl⟩
            rcases mem_typed.mp shows with rfl | rfl | rfl | rfl | rfl <;> exact printed
      | undefinedEnum =>
          rw [if_neg (by simp [typable])]
          simp only [base, Except.ok.injEq] at chosen
          simp [← chosen]
      | none =>
          rw [if_neg (by simp [typable])]
          simp only [base, Except.ok.injEq] at chosen
          simp [← chosen]

def printable (view : View) (datamodel : Datamodel) (field : Field) : Bool :=
  match view with
  | plain | filter | uniqueFilter | create | update => field.isTypable datamodel
  | relationsCreate | relationsUpdate => field.hasTarget datamodel
  | _ => true

theorem emits_eq (view : View) (documented : Documentation.read field.documentation = .ok doc) :
    view.emits datamodel settings model field =
      (!doc.hidden && view.admits (datamodel.context settings) model field doc &&
        view.printable datamodel field) := by
  have hidden : doc.hidden = carries .hidden field.documentation :=
    Documentation.hides_eq_carries documented .hidden
  have keptOut (specific : DirectiveKind) :
      hidesInput specific doc = field.isKeptOut specific := by
    simp only [hidesInput, Field.isKeptOut, Documentation.hides_eq_carries documented]
  have taken : takesInput (datamodel.context settings).settings model field =
      (field.kind ≠ .object && !model.dropsInput settings field) := by
    simp only [takesInput, Model.dropsInput, Datamodel.context, Bool.not_or, Bool.and_assoc]
  cases view with
  | plain => simp only [emits, admits, printable, hidden, Bool.and_assoc]
  | filter => simp only [emits, admits, printable, hidden, Bool.and_assoc]
  | uniqueFilter => simp only [emits, admits, printable, hidden]; ac_rfl
  | create => simp only [emits, admits, printable, hidden, keptOut, taken]; ac_rfl
  | update => simp only [emits, admits, printable, hidden, keptOut, taken]; ac_rfl
  | selection => simp only [emits, admits, printable, hidden, Bool.and_true]
  | inclusion => simp only [emits, admits, printable, hidden, Bool.and_true]
  | ordering => simp only [emits, admits, printable, hidden, Bool.and_true]
  | relations => simp only [emits, admits, printable, hidden, Bool.and_true]
  | relationsCreate => simp only [emits, admits, printable, hidden, keptOut]; ac_rfl
  | relationsUpdate => simp only [emits, admits, printable, hidden, keptOut]; ac_rfl

private theorem inputEntry_prints {view : View} {type : String → String}
    (writes : ∀ identity, Relation.identity? datamodel.models field.type = some identity →
      view.Prints datamodel field ⟨field.name, true, type identity⟩) :
    if field.hasTarget datamodel then ∃ entry,
      inputEntry (datamodel.context settings) field type = .entry entry ∧
        view.Prints datamodel field entry
    else ∀ entry, inputEntry (datamodel.context settings) field type ≠ .entry entry := by
  have models : (datamodel.context settings).models = datamodel.models := rfl
  have known :
      (Relation.identity? datamodel.models field.type).isSome = field.hasTarget datamodel :=
    identity_isSome datamodel.models field.type
  rw [inputEntry, models, ← known]
  cases found : Relation.identity? datamodel.models field.type with
  | none => simp
  | some identity => simpa using writes identity found

/-- A view prints the fields that it emits, and has no entry of the others. -/
theorem choose_prints (view : View) (documented : Documentation.read field.documentation = .ok doc)
    (chosen : view.choose (datamodel.context settings) model field = .ok selected) :
    if view.emits datamodel settings model field then
      ∃ entry, selected = .entry entry ∧ view.Prints datamodel field entry
    else ∀ entry, selected ≠ .entry entry := by
  rw [emits_eq view documented]
  simp only [choose, documented] at chosen
  by_cases out : doc.hidden || !view.admits (datamodel.context settings) model field doc
  · rw [if_pos out, Except.ok.injEq] at chosen
    have kept :
        (!doc.hidden && view.admits (datamodel.context settings) model field doc) = false := by
      rw [← Bool.not_not (_ && _), Bool.not_and, Bool.not_not, out, Bool.not_true]
    simp [kept, ← chosen]
  · rw [if_neg out] at chosen
    have kept :
        (!doc.hidden && view.admits (datamodel.context settings) model field doc) = true := by
      simpa using out
    rw [kept, Bool.true_and]
    cases view with
    | plain => exact typedEntry_prints (by decide) documented chosen
    | filter => exact typedEntry_prints (by decide) documented chosen
    | uniqueFilter => exact typedEntry_prints (by decide) documented chosen
    | create => exact typedEntry_prints (by decide) documented chosen
    | update => exact typedEntry_prints (by decide) documented chosen
    | selection => cases chosen; exact ⟨_, rfl, rfl, rfl, rfl⟩
    | inclusion => cases chosen; exact ⟨_, rfl, rfl, rfl, rfl⟩
    | ordering => cases chosen; exact ⟨_, rfl, rfl, rfl, rfl⟩
    | relations => cases chosen; exact ⟨_, rfl, rfl, rfl, rfl⟩
    | relationsCreate =>
        cases chosen
        exact inputEntry_prints fun identity found => ⟨rfl, rfl, identity, found, rfl⟩
    | relationsUpdate =>
        cases chosen
        exact inputEntry_prints fun identity found => ⟨rfl, rfl, identity, found, rfl⟩

theorem read_of_choose {view : View} {context : Context}
    (chosen : view.choose context model field = .ok selected) :
    ∃ doc, Documentation.read field.documentation = .ok doc := by
  rw [choose] at chosen
  cases documented : Documentation.read field.documentation with
  | error error => simp [documented] at chosen
  | ok doc => exact ⟨doc, rfl⟩

theorem entry_of_choose {view : View} {context : Context}
    (chosen : view.choose context model field = .ok selected) (entry : Entry) :
    view.entryOf? context model field = some entry ↔ selected = .entry entry := by
  rw [entryOf?, chosen]
  cases selected <;> simp

theorem entry_isSome_of_choose {view : View}
    (chosen : view.choose (datamodel.context settings) model field = .ok selected) :
    (view.entryOf? (datamodel.context settings) model field).isSome =
      view.emits datamodel settings model field := by
  obtain ⟨doc, documented⟩ := read_of_choose chosen
  have prints := view.choose_prints documented chosen
  rw [Bool.eq_iff_iff, Option.isSome_iff_exists]
  simp only [entry_of_choose chosen]
  by_cases emitted : view.emits datamodel settings model field
  · rw [if_pos emitted] at prints
    obtain ⟨entry, same, _⟩ := prints
    exact ⟨fun _ => emitted, fun _ => ⟨entry, same⟩⟩
  · rw [if_neg emitted] at prints
    exact ⟨fun ⟨entry, same⟩ => absurd same (prints entry), fun emits => absurd emits emitted⟩

/-- The rows that contributions make, told from the lines of the documentation. -/
theorem rowOf_eq_rowOfEntries (view : View) {context : Context}
    (documented : Documentation.read model.documentation = .ok doc) :
    view.rowOf? context model =
      view.rowOfEntries? model ((view.contributions context model).map Prod.snd) := by
  have hidden : doc.hidden = carries .hidden model.documentation :=
    Documentation.hides_eq_carries documented .hidden
  have needs : (!view.keepsEmpty) = true ↔
      view ∈ [uniqueFilter, relations, relationsCreate, relationsUpdate] := by
    cases view <;> decide
  simp only [rowOf?, documented, rowOfEntries?, row?, hidden, Bool.and_eq_true, List.isEmpty_iff,
    needs, Documentation.read_annotations documented]

end View

private theorem forall₂_filter_filterMap {α β : Type} {related : α → β → Prop} {keep : α → Bool}
    {give : α → Option β} {items : List α}
    (each : ∀ item ∈ items,
      if keep item then ∃ result, give item = some result ∧ related item result
      else give item = none) :
    List.Forall₂ related (items.filter keep) (items.filterMap give) := by
  induction items with
  | nil => exact .nil
  | cons item rest ih =>
      have tail := ih fun other member => each other (by simp [member])
      have head := each item (by simp)
      by_cases kept : keep item
      · rw [if_pos kept] at head
        obtain ⟨result, gave, holds⟩ := head
        simpa [List.filter_cons, kept, List.filterMap_cons, gave] using ⟨holds, tail⟩
      · rw [if_neg kept] at head
        simpa [List.filter_cons, kept, List.filterMap_cons, head] using tail

namespace Datamodel

/-- The rows of a view are made of what the fields of each model contribute. -/
theorem rowsOf_entries {datamodel : Datamodel} {settings : Settings} {schemas : Schemas}
    (compiled : (datamodel.compile settings).outcome = .ok schemas) (view : View) :
    schemas.rowsOf view = datamodel.models.filterMap fun model =>
      view.rowOfEntries? model
        ((view.contributions (datamodel.context settings) model).map Prod.snd) := by
  rw [rowsOf_compile datamodel settings compiled]
  apply List.filterMap_congr
  intro model member
  obtain ⟨doc, documented, _⟩ := compiled_model datamodel settings compiled view member
  exact view.rowOf_eq_rowOfEntries documented

theorem contributions_emitted {datamodel : Datamodel} {settings : Settings} {schemas : Schemas}
    (compiled : (datamodel.compile settings).outcome = .ok schemas) (view : View) {model : Model}
    (member : model ∈ datamodel.models) (shown : carries .hidden model.documentation = false) :
    (view.contributions (datamodel.context settings) model).map Prod.fst =
      model.fields.filter (view.emits datamodel settings model) := by
  obtain ⟨doc, documented, chosen⟩ := compiled_model datamodel settings compiled view member
  rw [← Documentation.hides_eq_carries documented] at shown
  rw [View.contributions_fields]
  apply List.filter_congr
  intro field present
  obtain ⟨selected, chose⟩ := chosen shown field present
  exact View.entry_isSome_of_choose chose

/-- The rows of a compiled data model, view by view. A row is there for each model that is not
hidden, in four of the views only if a field is emitted; it has one entry for each emitted field. -/
theorem compiled_rows_exact {datamodel : Datamodel} {settings : Settings} {schemas : Schemas}
    (compiled : (datamodel.compile settings).outcome = .ok schemas) :
    schemas.views.map Prod.fst = View.all ∧
    ∀ view : View, ∃ entries : Model → List Entry,
      schemas.rowsOf view =
        datamodel.models.filterMap (fun model => view.rowOfEntries? model (entries model)) ∧
      ∀ model ∈ datamodel.models, carries .hidden model.documentation = false →
        List.Forall₂ (view.Prints datamodel)
          (model.fields.filter (view.emits datamodel settings model)) (entries model) := by
  constructor
  · rw [compile_ok datamodel settings compiled]
    rfl
  intro view
  refine ⟨_, rowsOf_entries compiled view, ?_⟩
  intro model member shown
  obtain ⟨doc, documented, chosen⟩ := compiled_model datamodel settings compiled view member
  rw [← Documentation.hides_eq_carries documented] at shown
  simp only [View.contributions_entries]
  apply forall₂_filter_filterMap
  intro field present
  obtain ⟨selected, chose⟩ := chosen shown field present
  obtain ⟨fieldDoc, read⟩ := View.read_of_choose chose
  have prints := view.choose_prints read chose
  by_cases emitted : view.emits datamodel settings model field
  · rw [if_pos emitted] at prints ⊢
    obtain ⟨entry, same, printed⟩ := prints
    exact ⟨entry, (View.entry_of_choose chose entry).mpr same, printed⟩
  · rw [if_neg emitted] at prints ⊢
    apply Option.eq_none_iff_forall_not_mem.mpr
    intro entry given
    exact prints entry ((View.entry_of_choose chose entry).mp given)

/-- Users with posts, among them a hidden model, hidden and overwritten fields, fields kept out of
inputs, a foreign key and an enum that is not defined. -/
def blog : Datamodel where
  models := [
    { name := "User",
      fields := [
        { name := "id", kind := .scalar, type := "Int", isId := true },
        { name := "email", kind := .scalar, type := "String", isUnique := true,
          documentation := some "Mail.\n@prisma-arktype.typeOverwrite=string.email" },
        { name := "roles", kind := .enum, type := "Role", isList := true, hasDefault := true },
        { name := "secret", kind := .scalar, type := "String",
          documentation := some "@prisma-arktype.hide" },
        { name := "posts", kind := .object, type := "Post", isList := true }] },
    { name := "Post",
      documentation := some "@prisma-arktype.options\x7bnarrow\x7d",
      fields := [
        { name := "title", kind := .scalar, type := "String",
          documentation := some "@prisma-arktype.options\x7bmaxLength: 80\x7d" },
        { name := "note", kind := .scalar, type := "String", isRequired := false,
          documentation := some "@prisma-arktype.create.input.hide" },
        { name := "mood", kind := .enum, type := "Mood" },
        { name := "authorId", kind := .scalar, type := "Int" },
        { name := "author", kind := .object, type := "User",
          relationFromFields := ["authorId"] }] },
    { name := "Audit",
      documentation := some "@prisma-arktype.hidden",
      fields := [{ name := "line", kind := .scalar, type := "String" }] }]
  enums := [{ name := "Role", values := [{ name := "USER" }, { name := "ADMIN" }] }]

theorem blog_compiles : ∃ schemas, (blog.compile Settings.standard).outcome = .ok schemas := by
  rw [compiles_iff_sites]
  decide +kernel

theorem blog_rows_exact :
    ∃ schemas, (blog.compile Settings.standard).outcome = .ok schemas ∧
      schemas.views.map Prod.fst = View.all ∧
      ∀ view : View, ∃ entries : Model → List Entry,
        schemas.rowsOf view =
          blog.models.filterMap (fun model => view.rowOfEntries? model (entries model)) ∧
        ∀ model ∈ blog.models, carries .hidden model.documentation = false →
          List.Forall₂ (view.Prints blog)
            (model.fields.filter (view.emits blog Settings.standard model)) (entries model) := by
  obtain ⟨schemas, compiled⟩ := blog_compiles
  exact ⟨schemas, compiled, compiled_rows_exact compiled⟩

end Datamodel
end ModelViews
