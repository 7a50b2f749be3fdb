import Mathlib.Data.List.Nodup
import ModelViews.Proofs.Decoding

namespace ModelViews

open Documentation (carries)

section Lists

variable {α β : Type}

/-- Two lists make a third: each of its items is the next one of the first or of the second. -/
inductive Interleaves : List α → List α → List α → Prop where
  | nil : Interleaves [] [] []
  | left {first second whole : List α} (item : α) (rest : Interleaves first second whole) :
      Interleaves (item :: first) second (item :: whole)
  | right {first second whole : List α} (item : α) (rest : Interleaves first second whole) :
      Interleaves first (item :: second) (item :: whole)

theorem Interleaves.length_eq {first second whole : List α}
    (interleaves : Interleaves first second whole) :
    whole.length = first.length + second.length := by
  induction interleaves with
  | nil => rfl
  | left item _ ih => rw [List.length_cons, List.length_cons, ih, Nat.add_right_comm]
  | right item _ ih => rw [List.length_cons, List.length_cons, ih, Nat.add_assoc]

variable {first second : α → Bool} {items : List α}

private theorem interleaves_parts (apart : ∀ item, first item = true → second item = false)
    (give : α → β) :
    Interleaves ((items.filter first).map give) ((items.filter second).map give)
      ((items.filter fun item => first item || second item).map give) := by
  induction items with
  | nil => exact .nil
  | cons item rest ih =>
      cases isFirst : first item with
      | true => simpa [List.filter_cons, isFirst, apart item isFirst] using ih.left (give item)
      | false =>
          cases isSecond : second item with
          | true => simpa [List.filter_cons, isFirst, isSecond] using ih.right (give item)
          | false => simpa [List.filter_cons, isFirst, isSecond] using ih

private theorem interleaves_parts_iff (apart : ∀ item, first item = true → second item = false)
    (give : α → β) :
    Interleaves ((items.filter first).map give) ((items.filter second).map give)
        (items.map give) ↔
      ∀ item ∈ items, (first item || second item) = true := by
  have parts : Interleaves ((items.filter first).map give) ((items.filter second).map give)
      ((items.filter fun item => first item || second item).map give) :=
    interleaves_parts apart give
  constructor
  · intro whole
    have count : (items.filter fun item => first item || second item).length = items.length := by
      have both := parts.length_eq.trans whole.length_eq.symm
      rwa [List.length_map, List.length_map] at both
    exact List.length_filter_eq_length_iff.mp count
  · intro covered
    rwa [List.filter_eq_self.mpr covered] at parts

private theorem mem_part_iff {give : α → β} (distinct : (items.map give).Nodup) {item : α}
    (member : item ∈ items) : give item ∈ (items.filter first).map give ↔ first item = true := by
  constructor
  · intro named
    obtain ⟨other, kept, same⟩ := List.mem_map.mp named
    obtain ⟨present, passes⟩ := List.mem_filter.mp kept
    rwa [← List.inj_on_of_nodup_map distinct present member same]
  · intro passes
    exact List.mem_map_of_mem (List.mem_filter.mpr ⟨member, passes⟩)

end Lists

def Field.isSortable (field : Field) : Bool :=
  field.kind = .scalar || field.kind = .enum

def Field.isRelation (field : Field) : Bool :=
  field.kind = .object

namespace Field

variable {field : Field}

private theorem isRelation_of_isSortable (sorts : field.isSortable = true) :
    field.isRelation = false := by
  cases kind : field.kind <;> simp_all [isSortable, isRelation]

private theorem sortable_or_relation :
    (field.isSortable || field.isRelation) = true ↔ field.kind ≠ .unsupported := by
  cases kind : field.kind <;> simp [isSortable, isRelation, kind]

end Field

namespace View

/-- The keys of a view are the names of the fields that it has entries of. -/
theorem contributions_keys (view : View) (datamodel : Datamodel) (settings : Settings)
    (model : Model) :
    ((view.contributions (datamodel.context settings) model).map fun (_, entry) => entry.key) =
      ((view.contributions (datamodel.context settings) model).map Prod.fst).map Field.name := by
  rw [List.map_map]
  apply List.map_congr_left
  rintro ⟨field, entry⟩ contributed
  obtain ⟨_, given⟩ := (view.mem_contributions _ model field).mp contributed
  exact (entry_prints given).key

end View

namespace Datamodel

variable {datamodel : Datamodel} {settings : Settings} {schemas : Schemas}

private theorem emitted_visible (compiled : (datamodel.compile settings).outcome = .ok schemas)
    {model : Model} (member : model ∈ datamodel.models)
    (shown : carries .hidden model.documentation = false) (view : View) {keep : Field → Bool}
    (emits : ∀ field, view.emits datamodel settings model field =
      (!carries .hidden field.documentation && keep field)) :
    (view.contributions (datamodel.context settings) model).map Prod.fst =
      (model.fields.filter fun field => !carries .hidden field.documentation).filter keep := by
  rw [contributions_emitted compiled view member shown, List.filter_filter]
  apply List.filter_congr
  intro field _
  rw [emits, Bool.and_comm]

/-- The keys of an ordering and those of an inclusion are, each in the order of declaration, keys of
the selection. Together they are its keys of the fields whose type is supported, and so all of them
exactly if no field of an unsupported type is shown; and where names are distinct, each key of the
selection is then a key of exactly one of the two. -/
theorem selection_interleaves (compiled : (datamodel.compile settings).outcome = .ok schemas) :
    let entries (view : View) (model : Model) :=
      view.contributions (datamodel.context settings) model
    let keys (view : View) (model : Model) := (entries view model).map fun (_, entry) => entry.key
    (∀ view, schemas.rowsOf view = datamodel.models.filterMap fun model =>
      view.rowOfEntries? model ((entries view model).map Prod.snd)) ∧
    ∀ model ∈ datamodel.models, carries .hidden model.documentation = false →
      let visible := model.fields.filter fun field => !carries .hidden field.documentation
      keys .selection model = visible.map Field.name ∧
      keys .ordering model = (visible.filter Field.isSortable).map Field.name ∧
      keys .inclusion model = (visible.filter Field.isRelation).map Field.name ∧
      Interleaves (keys .ordering model) (keys .inclusion model)
        ((visible.filter fun field => field.kind ≠ .unsupported).map Field.name) ∧
      (Interleaves (keys .ordering model) (keys .inclusion model) (keys .selection model) ↔
        ∀ field ∈ visible, field.kind ≠ .unsupported) ∧
      (∀ key, key ∈ keys .ordering model ∨ key ∈ keys .inclusion model →
        key ∈ keys .selection model) ∧
      ((visible.map Field.name).Nodup →
        ((∀ key ∈ keys .selection model,
            Xor (key ∈ keys .ordering model) (key ∈ keys .inclusion model)) ↔
          ∀ field ∈ visible, field.kind ≠ .unsupported)) := by
  intro entries keys
  refine ⟨rowsOf_entries compiled, ?_⟩
  intro model member shown visible
  have named (view : View) (keep : Field → Bool)
      (emits : ∀ field, view.emits datamodel settings model field =
        (!carries .hidden field.documentation && keep field)) :
      keys view model = (visible.filter keep).map Field.name := by
    have fields := emitted_visible compiled member shown view emits
    rw [← fields]
    exact view.contributions_keys datamodel settings model
  have selectionKeys : keys .selection model = visible.map Field.name := by
    rw [named .selection (fun _ => true) fun _ => rfl, List.filter_true]
  have orderingKeys : keys .ordering model = (visible.filter Field.isSortable).map Field.name :=
    named .ordering Field.isSortable fun _ => rfl
  have inclusionKeys : keys .inclusion model =
      (visible.filter Field.isRelation).map Field.name :=
    named .inclusion Field.isRelation fun _ => rfl
  have apart (field : Field) : field.isSortable = true → field.isRelation = false :=
    Field.isRelation_of_isSortable
  have supported : (visible.filter fun field => field.kind ≠ .unsupported) =
      visible.filter fun field => field.isSortable || field.isRelation := by
    apply List.filter_congr
    intro field _
    rw [Bool.eq_iff_iff, decide_eq_true_eq, Field.sortable_or_relation]
  rw [selectionKeys, orderingKeys, inclusionKeys, supported]
  refine ⟨rfl, rfl, rfl, interleaves_parts apart Field.name, ?_, ?_, ?_⟩
  · rw [interleaves_parts_iff apart]
    simp only [Field.sortable_or_relation]
  · rintro key (sortable | relation)
    · exact (List.filter_sublist.map Field.name).subset sortable
    · exact (List.filter_sublist.map Field.name).subset relation
  · intro distinct
    simp only [List.forall_mem_map]
    refine forall₂_congr fun field present => ?_
    rw [mem_part_iff distinct present, mem_part_iff distinct present, ← Field.sortable_or_relation,
      Bool.or_eq_true]
    -- No field is both, so that one or the other is one and not the other.
    constructor
    · rintro (⟨sorts, _⟩ | ⟨relates, _⟩)
      · exact .inl sorts
      · exact .inr relates
    · rintro (sorts | relates)
      · exact .inl ⟨sorts, by simp [apart field sorts]⟩
      · exact .inr ⟨relates, fun sorts => by simp [apart field sorts] at relates⟩

/-- Places with a name and a position, whose type is not supported, in a country. -/
def atlas : Datamodel where
  models := [
    { name := "Place",
      fields := [
        { name := "name", kind := .scalar, type := "String" },
        { name := "position", kind := .unsupported, type := "geometry" },
        { name := "country", kind := .object, type := "Country" },
        { name := "climate", kind := .enum, type := "Climate" }] }]

private theorem atlas_compiles :
    ∃ schemas, (atlas.compile Settings.standard).outcome = .ok schemas := by
  rw [compiles_iff_sites]
  decide +kernel

theorem atlas_selection :
    ∃ schemas, (atlas.compile Settings.standard).outcome = .ok schemas ∧
      ∃ place ∈ atlas.models, carries .hidden place.documentation = false ∧
        Interleaves
          ((View.ordering.contributions (atlas.context Settings.standard) place).map
            fun (_, entry) => entry.key)
          ((View.inclusion.contributions (atlas.context Settings.standard) place).map
            fun (_, entry) => entry.key)
          ["name", "country", "climate"] := by
  obtain ⟨schemas, compiled⟩ := atlas_compiles
  let place := atlas.models[0]
  have member : place ∈ atlas.models := List.getElem_mem _
  have shown : carries .hidden place.documentation = false := by decide +kernel
  obtain ⟨_, each⟩ := selection_interleaves compiled
  obtain ⟨_, _, _, supported, _⟩ := each place member shown
  have names : ((place.fields.filter fun field => !carries .hidden field.documentation).filter
      fun field => field.kind ≠ .unsupported).map Field.name = ["name", "country", "climate"] := by
    decide +kernel
  rw [names] at supported
  exact ⟨schemas, compiled, place, member, shown, supported⟩

/-- The position of a place can be selected, and neither sorted by nor included. -/
theorem position_selected_alone :
    ∃ schemas, (atlas.compile Settings.standard).outcome = .ok schemas ∧
      ∃ place ∈ atlas.models, carries .hidden place.documentation = false ∧
        let keys (view : View) :=
          (view.contributions (atlas.context Settings.standard) place).map
            fun (_, entry) => entry.key
        "position" ∈ keys .selection ∧ "position" ∉ keys .ordering ∧
          "position" ∉ keys .inclusion := by
  obtain ⟨schemas, compiled⟩ := atlas_compiles
  refine ⟨schemas, compiled, atlas.models[0], List.getElem_mem _, ?_⟩
  decide +kernel

end Datamodel
end ModelViews
