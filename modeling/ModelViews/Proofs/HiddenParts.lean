import ModelViews.Proofs.Decoding
import ModelViews.Proofs.RelationViews
/-!
What hidden parts leave behind. Without its hidden models and fields a data model compiles to the same
rows, but for what the inputs look up in all of it: whether a field is a foreign key, which a hidden
relation can make it, and the identity of a related model, which can be hidden or identified by a
hidden field.
-/
namespace ModelViews

open Documentation (carries)
open ObjectText (Reader)

def Field.isShown (field : Field) : Bool :=
  !carries .hidden field.documentation

def Model.isShown (model : Model) : Bool :=
  !carries .hidden model.documentation

def Model.withoutHidden (model : Model) : Model :=
  { model with fields := model.fields.filter Field.isShown }

/-- The data model without its hidden models and without the hidden fields of the others. -/
def Datamodel.withoutHidden (datamodel : Datamodel) : Datamodel :=
  { datamodel with models := (datamodel.models.filter Model.isShown).map Model.withoutHidden }

private theorem Documentation.shown_of_read {text : Option String} {doc : Documentation}
    (gave : read text = .ok doc) : (!carries .hidden text) = !doc.hidden := by
  rw [← hides_eq_carries gave]
  rfl

private theorem filterMap_pair_eq_iff {α β : Type} {first second : α → Option β} {items : List α} :
    (items.filterMap fun item => (first item).map (item, ·)) =
        (items.filterMap fun item => (second item).map (item, ·)) ↔
      ∀ item ∈ items, first item = second item := by
  have mem (give : α → Option β) (item : α) (result : β) :
      (item, result) ∈ (items.filterMap fun item => (give item).map (item, ·)) ↔
        item ∈ items ∧ give item = some result := by
    simp only [List.mem_filterMap, Option.map_eq_some_iff, Prod.mk.injEq]
    constructor
    · rintro ⟨other, member, given, gave, rfl, rfl⟩
      exact ⟨member, gave⟩
    · rintro ⟨member, gave⟩
      exact ⟨item, member, result, gave, rfl, rfl⟩
  constructor
  · intro same item member
    apply Option.ext
    intro result
    have found := mem first item result
    rw [same, mem second] at found
    simpa [member, eq_comm] using found.symm
  · intro each
    apply List.filterMap_congr
    intro item member
    rw [each item member]

namespace Model

variable {model : Model} {field : Field}

private theorem mem_withoutHidden :
    field ∈ model.withoutHidden.fields ↔ field ∈ model.fields ∧ field.isShown = true :=
  List.mem_filter

private theorem isForeignKey_of_shown (key : model.withoutHidden.isForeignKey field = true) :
    model.isForeignKey field = true := by
  simp only [isForeignKey, Bool.and_eq_true, Bool.or_eq_true, List.any_eq_true] at key ⊢
  refine ⟨key.1, key.2.imp_right ?_⟩
  rintro ⟨other, member, lists⟩
  exact ⟨other, (mem_withoutHidden.mp member).1, lists⟩

private theorem sites_withoutHidden (sound : ∀ site ∈ model.sites, site.error? = none) :
    ∀ site ∈ model.withoutHidden.sites, site.error? = none := by
  intro site member
  by_contra faulty
  have errs : ∃ site ∈ model.withoutHidden.sites, site.error?.isSome :=
    ⟨site, member, Option.isSome_iff_ne_none.mpr faulty⟩
  have whole : ∃ site ∈ model.sites, site.error?.isSome := by
    rw [site_error_iff] at errs ⊢
    refine errs.imp_right fun ⟨shown, field, present, bad⟩ => ⟨shown, field, ?_, bad⟩
    exact (mem_withoutHidden.mp present).1
  obtain ⟨site, member, faulty⟩ := whole
  rw [sound site member] at faulty
  exact absurd faulty (by decide)

end Model

namespace View

def inputs : List View :=
  scalarInputs ++ relationInputs

/-- Whether a hidden part changes what an input has of a field: the field would have an entry, but is
a foreign key; or its relation is written, but with another identity than that of the target that is
shown, if any is. -/
def seesHidden (view : View) (datamodel : Datamodel) (settings : Settings) (model : Model)
    (field : Field) : Bool :=
  match view with
  | create | update =>
    view.emits datamodel.withoutHidden settings model.withoutHidden field && model.isForeignKey field
  | relationsCreate | relationsUpdate =>
    view.emits datamodel settings model field &&
      Relation.identity? datamodel.models field.type ≠
        Relation.identity? datamodel.withoutHidden.models field.type
  | _ => false

variable {datamodel : Datamodel} {settings : Settings} {context : Context} {model : Model}
  {field : Field}

private theorem entry_withoutHidden {view : View} (other : view ∉ inputs) :
    view.entryOf? (datamodel.context settings) model field =
      view.entryOf? (datamodel.withoutHidden.context settings) model.withoutHidden field := by
  cases view with
  | create => exact absurd (by decide) other
  | update => exact absurd (by decide) other
  | relationsCreate => exact absurd (by decide) other
  | relationsUpdate => exact absurd (by decide) other
  | _ => rfl

example : all.filter (· ∉ inputs) =
    [plain, filter, uniqueFilter, selection, inclusion, ordering, relations] := by
  decide +kernel

private theorem entry_scalar_withoutHidden {view : View} (takes : view ∈ scalarInputs) :
    view.entryOf? (datamodel.context settings) model field =
      if model.isForeignKey field then none
      else view.entryOf? (datamodel.withoutHidden.context settings) model.withoutHidden field := by
  refine entry_unless takes ?_ ?_
  · rfl
  · rw [takesInput, takesInput]
    cases key : model.isForeignKey field with
    | true => simp only [Bool.not_true, Bool.and_false]
    | false =>
        have shownKey : model.withoutHidden.isForeignKey field = false := by
          rw [← Bool.not_eq_true] at key ⊢
          exact fun shown => key (Model.isForeignKey_of_shown shown)
        simp only [shownKey, Bool.not_false, Bool.and_true]
        rfl

def written (view : View) (field : Field) : String → String :=
  match view with
  | relationsUpdate => Relation.change field
  | _ => Relation.connect

private theorem written_injective (view : View) {identity other : String}
    (known : Reader.IsIdentity identity) (otherKnown : Reader.IsIdentity other)
    (same : view.written field identity = view.written field other) : identity = other := by
  have connects : Relation.connect "\"number.integer\"" ≠ Relation.connect "\"string\"" := by
    decide +kernel
  have changes : Relation.change field "\"number.integer\"" ≠ Relation.change field "\"string\"" := by
    rw [Relation.change, Relation.change]
    split
    · decide +kernel
    · split
      · exact connects
      · decide +kernel
  have writes : view.written field "\"number.integer\"" ≠ view.written field "\"string\"" := by
    cases view with
    | relationsUpdate => exact changes
    | _ => exact connects
  rcases known with rfl | rfl
  · rcases otherKnown with rfl | rfl
    · rfl
    · exact absurd same writes
  · rcases otherKnown with rfl | rfl
    · exact absurd same.symm writes
    · rfl

/-- A relation input has an entry of each field that it admits and whose target has an identity. -/
theorem entry_written {view : View} (writes : view ∈ relationInputs) {entry : Entry} :
    view.entryOf? context model field = some entry ↔
      (∃ doc, Documentation.read field.documentation = .ok doc ∧ doc.hidden = false ∧
        view.admits context model field doc = true) ∧
      ∃ identity, Relation.identity? context.models field.type = some identity ∧
        entry = ⟨field.name, true, view.written field identity⟩ := by
  have made (doc : Documentation) : view.entry context field doc = .ok (.entry entry) ↔
      ∃ identity, Relation.identity? context.models field.type = some identity ∧
        entry = ⟨field.name, true, view.written field identity⟩ := by
    have input : view.entry context field doc =
        .ok (inputEntry context field (view.written field)) := by
      rcases mem_relationInputs.mp writes with rfl | rfl <;> rfl
    rw [input, inputEntry]
    cases Relation.identity? context.models field.type with
    | none => simp
    | some identity => simp [eq_comm]
  rw [entryOf_eq_some]
  simp only [made]
  constructor
  · rintro ⟨doc, documented, shown, admitted, identified⟩
    exact ⟨⟨doc, documented, shown, admitted⟩, identified⟩
  · rintro ⟨⟨doc, documented, shown, admitted⟩, identified⟩
    exact ⟨doc, documented, shown, admitted, identified⟩

private theorem identity_of_shown {name identity : String}
    (found : Relation.identity? datamodel.withoutHidden.models name = some identity) :
    ∃ whole, Relation.identity? datamodel.models name = some whole := by
  rw [← Option.isSome_iff_exists, identity_isSome, List.any_eq_true]
  have target := identity_isSome datamodel.withoutHidden.models name
  rw [found, Option.isSome_some, eq_comm, List.any_eq_true] at target
  obtain ⟨target, member, named⟩ := target
  obtain ⟨whole, present, rfl⟩ := List.mem_map.mp member
  exact ⟨whole, (List.mem_filter.mp present).1, named⟩

private theorem entry_of_hidden {view : View} (hides : field.isShown = false) :
    view.entryOf? context model field = none := by
  rw [Option.eq_none_iff_forall_ne_some]
  intro entry given
  obtain ⟨doc, documented, shown, _⟩ := (entryOf_eq_some view context model field).mp given
  rw [Field.isShown, Documentation.shown_of_read documented, shown] at hides
  exact absurd hides (by decide)

private theorem emits_of_hidden {view : View} (hides : field.isShown = false) :
    view.emits datamodel settings model field = false := by
  change (field.isShown && _) = false
  rw [hides, Bool.false_and]

private theorem seesHidden_of_hidden {view : View} (hides : field.isShown = false) :
    view.seesHidden datamodel settings model field = false := by
  cases view with
  | create => rw [seesHidden, emits_of_hidden hides, Bool.false_and]
  | update => rw [seesHidden, emits_of_hidden hides, Bool.false_and]
  | relationsCreate => rw [seesHidden, emits_of_hidden hides, Bool.false_and]
  | relationsUpdate => rw [seesHidden, emits_of_hidden hides, Bool.false_and]
  | _ => rfl

private theorem scalar_same_iff {view : View} {selected : Selected} (takes : view ∈ scalarInputs)
    (chosen : view.choose (datamodel.withoutHidden.context settings) model.withoutHidden field =
      .ok selected) :
    view.entryOf? (datamodel.context settings) model field =
        view.entryOf? (datamodel.withoutHidden.context settings) model.withoutHidden field ↔
      view.seesHidden datamodel settings model field = false := by
  have seen : view.seesHidden datamodel settings model field =
      (view.emits datamodel.withoutHidden settings model.withoutHidden field &&
        model.isForeignKey field) := by
    rcases mem_scalarInputs.mp takes with rfl | rfl <;> rfl
  rw [entry_scalar_withoutHidden takes, seen, ← entry_isSome_of_choose chosen]
  cases model.isForeignKey field with
  | true =>
      rw [if_pos rfl, Bool.and_true, eq_comm, Option.isSome_eq_false_iff, Option.isNone_iff_eq_none]
  | false =>
      rw [if_neg Bool.false_ne_true, Bool.and_false]
      exact iff_of_true rfl rfl

private theorem admits_withoutHidden {view : View} (writes : view ∈ relationInputs)
    (doc : Documentation) :
    view.admits (datamodel.withoutHidden.context settings) model.withoutHidden field doc =
      view.admits (datamodel.context settings) model field doc := by
  rcases mem_relationInputs.mp writes with rfl | rfl <;> rfl

private theorem unwritten_withoutHidden {view : View} (writes : view ∈ relationInputs)
    (unwritten : view.entryOf? (datamodel.context settings) model field = none) :
    view.entryOf? (datamodel.withoutHidden.context settings) model.withoutHidden field = none := by
  rw [Option.eq_none_iff_forall_ne_some]
  intro entry present
  obtain ⟨admitted, identity, found, _⟩ := (entry_written writes).mp present
  obtain ⟨other, known⟩ := identity_of_shown found
  simp only [admits_withoutHidden writes] at admitted
  rw [(entry_written writes).mpr ⟨admitted, other, known, rfl⟩] at unwritten
  cases unwritten

private theorem relation_same_iff {view : View} {selected : Selected}
    (writes : view ∈ relationInputs)
    (chosen : view.choose (datamodel.context settings) model field = .ok selected) :
    view.entryOf? (datamodel.context settings) model field =
        view.entryOf? (datamodel.withoutHidden.context settings) model.withoutHidden field ↔
      view.seesHidden datamodel settings model field = false := by
  have seen : view.seesHidden datamodel settings model field =
      (view.emits datamodel settings model field &&
        Relation.identity? datamodel.models field.type ≠
          Relation.identity? datamodel.withoutHidden.models field.type) := by
    rcases mem_relationInputs.mp writes with rfl | rfl <;> rfl
  have whole := @entry_written (datamodel.context settings) model field _ writes
  have shown := @entry_written (datamodel.withoutHidden.context settings) model.withoutHidden field _
    writes
  simp only [admits_withoutHidden writes] at shown
  rw [seen, ← entry_isSome_of_choose chosen]
  cases given : view.entryOf? (datamodel.context settings) model field with
  | none =>
      rw [unwritten_withoutHidden writes given, Option.isSome_none, Bool.false_and]
      exact iff_of_true rfl rfl
  | some entry =>
      obtain ⟨admitted, identity, found, made⟩ := whole.mp given
      rw [Option.isSome_some, Bool.true_and, decide_eq_false_iff_not, not_not]
      constructor
      · intro same
        obtain ⟨_, other, known, equal⟩ := shown.mp same.symm
        rw [made, Entry.mk.injEq] at equal
        have agree := view.written_injective (identity_known found) (identity_known known)
          equal.2.2
        exact found.trans (agree ▸ known.symm)
      · intro same
        exact (shown.mpr ⟨admitted, identity, same.symm.trans found, made⟩).symm

private theorem contributions_withoutHidden (view : View) :
    view.contributions context model.withoutHidden =
      model.fields.filterMap fun field =>
        (view.entryOf? context model.withoutHidden field).map (field, ·) := by
  rw [contributions]
  change (model.fields.filter Field.isShown).filterMap _ = _
  rw [List.filterMap_filter]
  apply List.filterMap_congr
  intro field _
  cases shown : field.isShown with
  | true => rfl
  | false =>
      rw [entry_of_hidden shown]
      rfl

private theorem rowOf_withoutHidden {view : View}
    (same : view.contributions (datamodel.context settings) model =
      view.contributions (datamodel.withoutHidden.context settings) model.withoutHidden) :
    view.rowOf? (datamodel.context settings) model =
      view.rowOf? (datamodel.withoutHidden.context settings) model.withoutHidden := by
  rw [rowOf?, same]
  rfl

private theorem rowOf_of_hidden {view : View} (hides : model.isShown = false) :
    view.rowOf? context model = none := by
  rw [Option.eq_none_iff_forall_ne_some]
  intro row given
  obtain ⟨doc, documented, shown, _⟩ := (rowOf_eq_some view context model).mp given
  rw [Model.isShown, Documentation.shown_of_read documented, shown] at hides
  exact absurd hides (by decide)

end View

namespace Datamodel

variable {datamodel : Datamodel} {settings : Settings} {schemas others : Schemas}

private theorem chosen_of_shown (compiled : (datamodel.compile settings).outcome = .ok schemas)
    (view : View) {model : Model} (member : model ∈ datamodel.models) (shown : model.isShown = true)
    {field : Field} (present : field ∈ model.fields) :
    ∃ selected, view.choose (datamodel.context settings) model field = .ok selected := by
  obtain ⟨doc, documented, chosen⟩ := compiled_model datamodel settings compiled view member
  rw [Model.isShown, Documentation.shown_of_read documented, Bool.not_eq_true'] at shown
  exact chosen shown field present

private theorem mem_withoutHidden {model : Model} (member : model ∈ datamodel.models)
    (shown : model.isShown = true) : model.withoutHidden ∈ datamodel.withoutHidden.models :=
  List.mem_map_of_mem (List.mem_filter.mpr ⟨member, shown⟩)

private theorem entry_same_iff (compiled : (datamodel.compile settings).outcome = .ok schemas)
    (otherwise : (datamodel.withoutHidden.compile settings).outcome = .ok others) {view : View}
    (takes : view ∈ View.inputs) {model : Model} (member : model ∈ datamodel.models)
    (shown : model.isShown = true) {field : Field} (present : field ∈ model.fields) :
    view.entryOf? (datamodel.context settings) model field =
        view.entryOf? (datamodel.withoutHidden.context settings) model.withoutHidden field ↔
      view.seesHidden datamodel settings model field = false := by
  cases fieldShown : field.isShown with
  | false =>
      rw [View.entry_of_hidden fieldShown, View.entry_of_hidden fieldShown,
        View.seesHidden_of_hidden fieldShown]
      exact iff_of_true rfl rfl
  | true =>
      rcases List.mem_append.mp takes with scalar | relation
      · obtain ⟨_, chosen⟩ := chosen_of_shown otherwise view (mem_withoutHidden member shown) shown
          (Model.mem_withoutHidden.mpr ⟨present, fieldShown⟩)
        exact View.scalar_same_iff scalar chosen
      · obtain ⟨_, chosen⟩ := chosen_of_shown compiled view member shown present
        exact View.relation_same_iff relation chosen

/-- Without its hidden parts a data model compiles if it does with them. -/
theorem compile_withoutHidden (compiled : (datamodel.compile settings).outcome = .ok schemas) :
    ∃ others, (datamodel.withoutHidden.compile settings).outcome = .ok others := by
  have sound := compiles_iff_sites.mp ⟨schemas, compiled⟩
  rw [compiles_iff_sites]
  intro site member
  obtain ⟨bare, listed, own⟩ := List.mem_flatMap.mp member
  obtain ⟨model, present, rfl⟩ := List.mem_map.mp listed
  refine Model.sites_withoutHidden (fun whole within => ?_) site own
  exact sound whole (List.mem_flatMap.mpr ⟨model, (List.mem_filter.mp present).1, within⟩)

private theorem rowsOf_withoutHidden {view : View}
    (compiled : (datamodel.compile settings).outcome = .ok schemas)
    (otherwise : (datamodel.withoutHidden.compile settings).outcome = .ok others)
    (same : ∀ model ∈ datamodel.models, model.isShown = true →
      view.contributions (datamodel.context settings) model =
        view.contributions (datamodel.withoutHidden.context settings) model.withoutHidden) :
    schemas.rowsOf view = others.rowsOf view := by
  rw [rowsOf_compile datamodel settings compiled, rowsOf_compile _ settings otherwise]
  change _ = ((datamodel.models.filter Model.isShown).map Model.withoutHidden).filterMap _
  rw [List.filterMap_map, List.filterMap_filter]
  apply List.filterMap_congr
  intro model member
  cases shown : model.isShown with
  | true => exact View.rowOf_withoutHidden (same model member shown)
  | false => exact View.rowOf_of_hidden shown

/-- What hidden parts leave behind. Without them the data model compiles, and every view that is no
input has the same rows. The entries that an input has of a model are the same exactly if it does not
see hidden parts in any field of the model; and its rows are, if that is so of every model. -/
theorem hidden_parts_seen (compiled : (datamodel.compile settings).outcome = .ok schemas) :
    ∃ others, (datamodel.withoutHidden.compile settings).outcome = .ok others ∧
      (∀ view, view ∉ View.inputs → schemas.rowsOf view = others.rowsOf view) ∧
      ∀ view ∈ View.inputs,
        (∀ model ∈ datamodel.models, model.isShown = true →
          (view.contributions (datamodel.context settings) model =
              view.contributions (datamodel.withoutHidden.context settings) model.withoutHidden ↔
            ∀ field ∈ model.fields, view.seesHidden datamodel settings model field = false)) ∧
        ((∀ model ∈ datamodel.models, model.isShown = true →
            ∀ field ∈ model.fields, view.seesHidden datamodel settings model field = false) →
          schemas.rowsOf view = others.rowsOf view) := by
  obtain ⟨others, otherwise⟩ := compile_withoutHidden compiled
  have exactly : ∀ view ∈ View.inputs, ∀ model ∈ datamodel.models, model.isShown = true →
      (view.contributions (datamodel.context settings) model =
          view.contributions (datamodel.withoutHidden.context settings) model.withoutHidden ↔
        ∀ field ∈ model.fields, view.seesHidden datamodel settings model field = false) := by
    intro view takes model member shown
    rw [View.contributions_withoutHidden, View.contributions, filterMap_pair_eq_iff]
    apply forall₂_congr
    intro field present
    exact entry_same_iff compiled otherwise takes member shown present
  refine ⟨others, otherwise, ?_, ?_⟩
  · intro view other
    apply rowsOf_withoutHidden compiled otherwise
    intro model _ _
    rw [View.contributions_withoutHidden, View.contributions, filterMap_pair_eq_iff]
    exact fun field _ => View.entry_withoutHidden other
  · intro view takes
    refine ⟨exactly view takes, ?_⟩
    intro unseen
    apply rowsOf_withoutHidden compiled otherwise
    intro model member shown
    exact (exactly view takes model member shown).mpr (unseen model member shown)

theorem blog_hidden_parts_unseen :
    ∃ schemas others, (blog.compile Settings.standard).outcome = .ok schemas ∧
      (blog.withoutHidden.compile Settings.standard).outcome = .ok others ∧
      blog.withoutHidden ≠ blog ∧ ∀ view : View, schemas.rowsOf view = others.rowsOf view := by
  obtain ⟨schemas, compiled⟩ := blog_compiles
  obtain ⟨others, otherwise, outputs, inputs⟩ := hidden_parts_seen compiled
  have unseen : ∀ view ∈ View.inputs, ∀ model ∈ blog.models, ∀ field ∈ model.fields,
      view.seesHidden blog Settings.standard model field = false := by decide +kernel
  refine ⟨schemas, others, compiled, otherwise, by decide +kernel, ?_⟩
  intro view
  by_cases takes : view ∈ View.inputs
  · exact (inputs view takes).2 fun model member _ => unseen view takes model member
  · exact outputs view takes

/-- Posts with a hidden author, a tag that is identified by a hidden number, and hidden remarks. -/
def journal : Datamodel where
  models := [
    { name := "Post",
      fields := [
        { name := "authorId", kind := .scalar, type := "Int" },
        { name := "author", kind := .object, type := "User", relationFromFields := ["authorId"],
          documentation := some "@prisma-arktype.hide" },
        { name := "tag", kind := .object, type := "Tag" },
        { name := "remark", kind := .object, type := "Remark" }] },
    { name := "User" },
    { name := "Tag",
      fields := [
        { name := "number", kind := .scalar, type := "Int", isId := true,
          documentation := some "@prisma-arktype.hide" }] },
    { name := "Remark", documentation := some "@prisma-arktype.hide" }]

/-- Inputs show that something is hidden: the author keeps their identity from being set, the identity
of a tag is a number, and remarks can be connected. -/
theorem journal_shows_hidden :
    ∃ schemas others, (journal.compile Settings.standard).outcome = .ok schemas ∧
      (journal.withoutHidden.compile Settings.standard).outcome = .ok others ∧
      ∀ view ∈ View.inputs, schemas.rowsOf view ≠ others.rowsOf view := by
  have sound : ∃ schemas, (journal.compile Settings.standard).outcome = .ok schemas := by
    rw [← errorOf_eq_none, compile_fault_sites]
    decide +kernel
  obtain ⟨schemas, compiled⟩ := sound
  obtain ⟨others, otherwise⟩ := compile_withoutHidden compiled
  refine ⟨schemas, others, compiled, otherwise, ?_⟩
  simp only [rowsOf_compile _ _ compiled, rowsOf_compile _ _ otherwise]
  decide +kernel

end Datamodel
end ModelViews
