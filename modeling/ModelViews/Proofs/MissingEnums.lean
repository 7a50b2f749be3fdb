import ModelViews.Proofs.Emission
import ModelViews.Proofs.Lookups
import ModelViews.Proofs.TypedViews
import ModelViews.Proofs.Warnings

namespace ModelViews

open Documentation (carries)

def Field.awaits (enum : EnumType) (field : Field) : Bool :=
  field.hasEnumType && field.type = enum.name

def LogEntry.misses (enum : EnumType) : LogEntry → Bool
  | undefinedEnum name _ => name = enum.name
  | _ => false

def View.enumEntry (view : View) (enum : EnumType) (field : Field) : Entry :=
  ⟨field.name, view.typedOptional field,
    field.wrapped true (Definition.quote (CompiledEnum.unionOf enum.values))⟩

/-- A data model that defines, at any place among its enums, one more than another does. -/
structure Datamodel.Defines (enum : EnumType) (datamodel extended : Datamodel) : Prop where
  models : extended.models = datamodel.models
  enums : ∃ before after,
    datamodel.enums = before ++ after ∧ extended.enums = before ++ enum :: after
  missing : enum.name ∉ datamodel.enums.map EnumType.name

variable {enum : EnumType} {datamodel extended : Datamodel} {settings : Settings}

namespace Datamodel.Defines

theorem find (defines : Defines enum datamodel extended) (name : String) :
    CompiledEnum.find? (extended.context settings).enums name =
      if name = enum.name then some (CompiledEnum.ofEnum enum)
      else CompiledEnum.find? (datamodel.context settings).enums name := by
  obtain ⟨before, after, old, new⟩ := defines.enums
  by_cases named : name = enum.name
  · rw [if_pos named, named, context, new]
    apply CompiledEnum.find_last
    intro other member same
    apply defines.missing
    rw [old]
    exact List.mem_map.mpr ⟨other, List.mem_append_right _ member, same⟩
  · simp only [context, CompiledEnum.find?, old, new, List.map_append, List.map_cons,
      List.reverse_append, List.reverse_cons, List.find?_append]
    simp [named, Ne.symm named, CompiledEnum.ofEnum]

private theorem find_missing (defines : Defines enum datamodel extended) :
    CompiledEnum.find? (datamodel.context settings).enums enum.name = none := by
  rw [← Option.not_isSome_iff_eq_none]
  change ¬ (CompiledEnum.find? (datamodel.enums.map CompiledEnum.ofEnum) enum.name).isSome = true
  rw [find_enum_isSome, List.any_eq_true]
  rintro ⟨other, member, same⟩
  exact defines.missing (List.mem_map.mpr ⟨other, member, of_decide_eq_true same⟩)

theorem compiles (defines : Defines enum datamodel extended)
    (compiled : ∃ schemas, (datamodel.compile settings).outcome = .ok schemas) :
    ∃ others, (extended.compile settings).outcome = .ok others := by
  rw [compiles_iff_sites] at compiled ⊢
  rwa [sites, defines.models]

end Datamodel.Defines

namespace View

variable {view : View} {model : Model} {field : Field} {doc : Documentation}

private theorem takes_context (first second : Datamodel) :
    view.takes (first.context settings) model field =
      view.takes (second.context settings) model field := by
  rw [takes, takes]
  cases Documentation.read field.documentation with
  | error error => rfl
  | ok doc =>
      have admitted : view.admits (first.context settings) model field doc =
          view.admits (second.context settings) model field doc :=
        view.admits_alike rfl rfl rfl
      simp only [admitted]

private theorem misses_defines (defines : Datamodel.Defines enum datamodel extended) :
    view.misses (extended.context settings) model field =
      (view.misses (datamodel.context settings) model field && field.type ≠ enum.name) := by
  rw [misses, misses, takes_context extended datamodel, defines.find]
  by_cases named : field.type = enum.name <;> simp [named]

private theorem warnings_defines (defines : Datamodel.Defines enum datamodel extended) :
    view.warnings (extended.context settings) model =
      (view.warnings (datamodel.context settings) model).filter fun entry =>
        !entry.misses enum := by
  rw [warnings, warnings]
  split
  · rfl
  · rw [List.filter_map, List.filter_filter]
    congr 1
    apply List.filter_congr
    intro field _
    rw [misses_defines defines, Bool.and_comm]
    simp [LogEntry.misses]

private theorem baseType_defines (defines : Datamodel.Defines enum datamodel extended)
    (documented : Documentation.read field.documentation = .ok doc)
    (other : field.awaits enum = false) :
    field.baseType doc (extended.context settings).enums =
      field.baseType doc (datamodel.context settings).enums := by
  cases typed : field.hasEnumType with
  | false => exact (Field.baseType_free documented typed).2 _
  | true =>
      have unnamed : field.type ≠ enum.name := by simpa [Field.awaits, typed] using other
      rw [Field.baseType_enum documented typed, Field.baseType_enum documented typed,
        defines.find, if_neg unnamed]

private theorem baseType_added (defines : Datamodel.Defines enum datamodel extended)
    (documented : Documentation.read field.documentation = .ok doc)
    (awaiting : field.awaits enum = true) :
    field.baseType doc (extended.context settings).enums =
        .ok (.known (Definition.quote (CompiledEnum.unionOf enum.values))) ∧
      field.baseType doc (datamodel.context settings).enums = .ok .undefinedEnum := by
  rw [Field.awaits, Bool.and_eq_true, decide_eq_true_eq] at awaiting
  obtain ⟨typed, named⟩ := awaiting
  rw [Field.baseType_enum documented typed, Field.baseType_enum documented typed, named,
    defines.find_missing, defines.find, if_pos rfl]
  exact ⟨rfl, rfl⟩

private theorem entry_defines (defines : Datamodel.Defines enum datamodel extended) :
    view.entryOf? (extended.context settings) model field =
      if view ∈ typed ∧ view.takes (datamodel.context settings) model field = true ∧
          field.awaits enum = true then some (view.enumEntry enum field)
      else view.entryOf? (datamodel.context settings) model field := by
  have admitted (doc : Documentation) : view.admits (extended.context settings) model field doc =
      view.admits (datamodel.context settings) model field doc :=
    view.admits_alike rfl rfl rfl
  have models : (extended.context settings).models = (datamodel.context settings).models :=
    defines.models
  rw [takes]
  cases documented : Documentation.read field.documentation with
  | error error => simp [entryOf?, choose, documented]
  | ok doc =>
      simp only [Bool.and_eq_true, Bool.not_eq_true']
      by_cases added : view ∈ typed ∧ (doc.hidden = false ∧
          view.admits (datamodel.context settings) model field doc = true) ∧
          field.awaits enum = true
      · obtain ⟨shows, ⟨shown, admits⟩, awaiting⟩ := added
        rw [if_pos ⟨shows, ⟨shown, admits⟩, awaiting⟩, entry_typed shows]
        exact ⟨doc, documented, shown, (admitted doc).trans admits, _,
          (baseType_added defines documented awaiting).1, rfl⟩
      · rw [if_neg added]
        simp only [entryOf?, choose, documented, admitted]
        by_cases out : doc.hidden || !view.admits (datamodel.context settings) model field doc
        · rw [if_pos out, if_pos out]
        · have taken : doc.hidden = false ∧
              view.admits (datamodel.context settings) model field doc = true := by
            simpa using out
          have same : view.entry (extended.context settings) field doc =
              view.entry (datamodel.context settings) field doc := by
            apply view.entry_congr
            · intro shows
              have other : field.awaits enum = false := by
                simpa [shows, taken] using added
              exact baseType_defines defines documented other
            · rw [models]
          rw [if_neg out, if_neg out, same]

private theorem entry_awaiting (shows : view ∈ typed)
    (defines : Datamodel.Defines enum datamodel extended) (awaiting : field.awaits enum = true) :
    view.entryOf? (datamodel.context settings) model field = none := by
  apply Option.eq_none_iff_forall_not_mem.mpr
  intro entry given
  obtain ⟨doc, documented, _, _, type, known, _⟩ := (entry_typed shows entry).mp given
  rw [(baseType_added defines documented awaiting).2] at known
  exact absurd known (by simp)

private theorem contributions_defines (shows : view ∈ typed)
    (defines : Datamodel.Defines enum datamodel extended) :
    view.contributions (datamodel.context settings) model =
      (view.contributions (extended.context settings) model).filter
        fun (field, _) => !field.awaits enum := by
  have kept (field : Field) : view.entryOf? (datamodel.context settings) model field =
      if !field.awaits enum then view.entryOf? (extended.context settings) model field
      else none := by
    cases awaiting : field.awaits enum with
    | true => exact entry_awaiting shows defines awaiting
    | false => simp [entry_defines defines, awaiting]
  exact view.contributions_filter _ model kept

private theorem contributions_added (shows : view ∈ typed)
    (defines : Datamodel.Defines enum datamodel extended) :
    (view.contributions (extended.context settings) model).filter
        (fun (field, _) => field.awaits enum) =
      (model.fields.filter fun field =>
        view.takes (datamodel.context settings) model field && field.awaits enum).map
          fun field => (field, view.enumEntry enum field) := by
  rw [contributions, List.filter_filterMap, ← List.filterMap_eq_map, List.filterMap_filter]
  congr 1
  funext field
  cases awaiting : field.awaits enum with
  | true =>
      cases taken : view.takes (datamodel.context settings) model field with
      | true => simp [entry_defines defines, shows, awaiting, taken, Option.filter]
      | false => simp [entry_defines defines, entry_awaiting shows defines awaiting, taken]
  | false =>
      cases view.entryOf? (extended.context settings) model field with
      | none => simp
      | some entry => simp [Option.filter, awaiting]

private theorem contributions_same (other : view ∉ typed)
    (defines : Datamodel.Defines enum datamodel extended) :
    view.contributions (extended.context settings) model =
      view.contributions (datamodel.context settings) model := by
  rw [contributions, contributions]
  congr 1
  funext field
  rw [entry_defines defines, if_neg fun added => other added.1]

end View

namespace Datamodel

variable {schemas : Schemas}

private theorem warnings_defines (defines : Defines enum datamodel extended) {others : Schemas}
    (compiled : (datamodel.compile settings).outcome = .ok schemas)
    (otherwise : (extended.compile settings).outcome = .ok others) :
    (extended.compile settings).warnings =
      (datamodel.compile settings).warnings.filter fun entry => !entry.misses enum := by
  rw [compile_warnings compiled, compile_warnings otherwise, List.filter_flatMap]
  apply List.flatMap_congr
  intro view _
  rw [List.filter_flatMap, defines.models]
  apply List.flatMap_congr
  intro model _
  exact View.warnings_defines defines

/-- Defining an enum that was missing only ever adds entries. The larger data model compiles too. Each
view with types keeps its entries, and gets one of each field that it takes and that awaited the enum;
the other views, and all other warnings, stay as they were. -/
theorem missing_enum_adds (compiled : (datamodel.compile settings).outcome = .ok schemas)
    (defines : Defines enum datamodel extended) :
    let old (view : View) (model : Model) :=
      view.contributions (datamodel.context settings) model
    let new (view : View) (model : Model) :=
      view.contributions (extended.context settings) model
    ∃ others, (extended.compile settings).outcome = .ok others ∧
      (∀ view,
        schemas.rowsOf view = datamodel.models.filterMap (fun model =>
          view.rowOfEntries? model ((old view model).map Prod.snd)) ∧
        others.rowsOf view = datamodel.models.filterMap fun model =>
          view.rowOfEntries? model ((new view model).map Prod.snd)) ∧
      (∀ view model, (old view model).Sublist (new view model)) ∧
      (∀ view ∈ View.typed, ∀ model,
        old view model = (new view model).filter (fun (field, _) => !field.awaits enum) ∧
        (new view model).filter (fun (field, _) => field.awaits enum) =
          (model.fields.filter fun field =>
            view.takes (datamodel.context settings) model field && field.awaits enum).map
              fun field => (field, view.enumEntry enum field)) ∧
      (∀ view, view ∉ View.typed →
        others.rowsOf view = schemas.rowsOf view ∧ ∀ model, new view model = old view model) ∧
      (extended.compile settings).warnings =
        (datamodel.compile settings).warnings.filter fun entry => !entry.misses enum := by
  intro old new
  obtain ⟨others, otherwise⟩ := defines.compiles ⟨schemas, compiled⟩
  have rows (view : View) : schemas.rowsOf view = datamodel.models.filterMap fun model =>
      view.rowOfEntries? model ((old view model).map Prod.snd) :=
    rowsOf_entries compiled view
  have newRows (view : View) : others.rowsOf view = datamodel.models.filterMap fun model =>
      view.rowOfEntries? model ((new view model).map Prod.snd) := by
    rw [← defines.models]
    exact rowsOf_entries otherwise view
  refine ⟨others, otherwise, fun view => ⟨rows view, newRows view⟩, ?_, ?_, ?_, ?_⟩
  · intro view model
    by_cases shows : view ∈ View.typed
    · simp only [old, new]
      rw [View.contributions_defines shows defines]
      exact List.filter_sublist
    · simp only [old, new]
      rw [View.contributions_same shows defines]
  · intro view shows model
    exact ⟨View.contributions_defines shows defines, View.contributions_added shows defines⟩
  · intro view other
    have same (model : Model) : new view model = old view model :=
      View.contributions_same other defines
    refine ⟨?_, same⟩
    rw [rows, newRows]
    simp only [same]
  · exact warnings_defines defines compiled otherwise

def mood : EnumType where
  name := "Mood"
  values := [{ name := "GLAD" }, { name := "SAD" }]

theorem blog_mood_adds :
    let extended : Datamodel := { blog with enums := mood :: blog.enums }
    ∃ others, (extended.compile Settings.standard).outcome = .ok others ∧
      (extended.compile Settings.standard).warnings =
        (blog.compile Settings.standard).warnings.filter (fun entry => !entry.misses mood) ∧
      ∃ post ∈ blog.models, ∃ field ∈ post.fields,
        (View.plain.contributions (extended.context Settings.standard) post).filter
          (fun (field, _) => field.awaits mood) = [(field, View.plain.enumEntry mood field)] := by
  intro extended
  obtain ⟨schemas, compiled⟩ := blog_compiles
  have defines : Defines mood blog extended := ⟨rfl, ⟨[], blog.enums, rfl, rfl⟩, by decide⟩
  obtain ⟨others, otherwise, _, _, added, _, warned⟩ := missing_enum_adds compiled defines
  let post := blog.models[1]
  have member : post ∈ blog.models := List.getElem_mem _
  let field := post.fields[2]
  have present : field ∈ post.fields := List.getElem_mem _
  have taken : (post.fields.filter fun field =>
      View.plain.takes (blog.context Settings.standard) post field && field.awaits mood) =
        [field] := by decide +kernel
  refine ⟨others, otherwise, warned, post, member, field, present, ?_⟩
  rw [(added .plain (by decide) post).2, taken]
  rfl

end Datamodel
end ModelViews
