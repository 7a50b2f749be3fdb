import ModelViews.Proofs.TypedViews

namespace ModelViews

open Documentation (carries)

/-- A required scalar field without a default that creates would ask for, were it not a foreign key. -/
structure Field.IsDroppedKey (datamodel : Datamodel) (settings : Settings) (model : Model)
    (field : Field) : Prop where
  scalar : field.kind ≠ .object
  required : field.isRequired = true
  undefaulted : field.hasDefault = false
  shown : carries .hidden field.documentation = false
  admitted : field.isKeptOut .hiddenCreate = false
  typable : field.isTypable datamodel = true
  unignored : field.name ∉ settings.ignoredKeys
  foreign : model.isForeignKey field = true

/-- A relation field that can be connected when a record is created. -/
structure Field.IsConnectable (datamodel : Datamodel) (relation : Field) : Prop where
  isRelation : relation.kind = .object
  shown : carries .hidden relation.documentation = false
  admitted : relation.isKeptOut .hiddenCreate = false
  target : relation.hasTarget datamodel = true

instance (datamodel : Datamodel) (settings : Settings) (model : Model) (field : Field) :
    Decidable (field.IsDroppedKey datamodel settings model) :=
  decidable_of_iff
    (field.kind ≠ .object ∧ field.isRequired = true ∧ field.hasDefault = false ∧
      carries .hidden field.documentation = false ∧ field.isKeptOut .hiddenCreate = false ∧
      field.isTypable datamodel = true ∧ field.name ∉ settings.ignoredKeys ∧
      model.isForeignKey field = true)
    ⟨fun ⟨scalar, required, undefaulted, shown, admitted, typable, unignored, foreign⟩ =>
        ⟨scalar, required, undefaulted, shown, admitted, typable, unignored, foreign⟩,
      fun key => ⟨key.scalar, key.required, key.undefaulted, key.shown, key.admitted, key.typable,
        key.unignored, key.foreign⟩⟩

namespace View

variable {datamodel : Datamodel} {settings : Settings} {model : Model} {field : Field}

private theorem relationsCreate_emits_iff (settings : Settings) (model : Model) :
    relationsCreate.emits datamodel settings model field = true ↔ field.IsConnectable datamodel := by
  simp only [emits, Bool.and_eq_true, Bool.not_eq_true', decide_eq_true_eq]
  constructor
  · rintro ⟨shown, ⟨isRelation, admitted⟩, target⟩
    exact ⟨isRelation, shown, admitted, target⟩
  · intro relation
    exact ⟨relation.shown, ⟨relation.isRelation, relation.admitted⟩, relation.target⟩

private theorem create_omits_key (key : field.IsDroppedKey datamodel settings model) :
    create.emits datamodel settings model field = false := by
  simp only [emits, Model.dropsInput, key.foreign, Bool.or_true, Bool.not_true, Bool.and_false]

private theorem plain_emits_key (key : field.IsDroppedKey datamodel settings model) :
    plain.emits datamodel settings model field = true := by
  simp [emits, key.shown, key.scalar, key.typable]

private theorem relationsCreate_entry
    (documented : ∃ doc, Documentation.read field.documentation = .ok doc)
    {entry : Entry} :
    relationsCreate.entryOf? (datamodel.context settings) model field = some entry ↔
      field.IsConnectable datamodel ∧
        ∃ identity, Relation.identity? datamodel.models field.type = some identity ∧
          entry = ⟨field.name, true, Relation.connect identity⟩ := by
  obtain ⟨doc, read⟩ := documented
  have made : relationsCreate.entry (datamodel.context settings) field doc = .ok (.entry entry) ↔
      ∃ identity, Relation.identity? datamodel.models field.type = some identity ∧
        entry = ⟨field.name, true, Relation.connect identity⟩ := by
    have models : (datamodel.context settings).models = datamodel.models := rfl
    rw [View.entry, inputEntry, models]
    cases Relation.identity? datamodel.models field.type with
    | none => simp
    | some identity => simp [eq_comm]
  have targeted (identity : String)
      (leads : Relation.identity? datamodel.models field.type = some identity) :
      field.hasTarget datamodel = true := by
    rw [Field.hasTarget, ← identity_isSome, leads, Option.isSome_some]
  have connectable : field.IsConnectable datamodel ↔ (doc.hidden = false ∧
      relationsCreate.admits (datamodel.context settings) model field doc = true) ∧
        field.hasTarget datamodel = true := by
    rw [← relationsCreate_emits_iff settings model, relationsCreate.emits_eq read, Bool.and_eq_true,
      Bool.and_eq_true, Bool.not_eq_true', printable]
  rw [entryOf_eq_some, connectable]
  simp only [read, Except.ok.injEq, exists_eq_left', made]
  constructor
  · rintro ⟨shown, admitted, identity, leads, same⟩
    exact ⟨⟨⟨shown, admitted⟩, targeted identity leads⟩, identity, leads, same⟩
  · rintro ⟨⟨⟨shown, admitted⟩, _⟩, identity, leads, same⟩
    exact ⟨shown, admitted, identity, leads, same⟩

end View

namespace Datamodel

variable {datamodel : Datamodel} {settings : Settings} {schemas : Schemas}

/-- What becomes of foreign keys that creates would ask for. They have no entry in creates, though one
that may not be missing among the plain entries. Their value can be supplied, by connecting a relation
that lists them, exactly if a relation field that lists them can be connected. -/
theorem dropped_key_supplied (compiled : (datamodel.compile settings).outcome = .ok schemas) :
    let entries (view : View) (model : Model) :=
      view.contributions (datamodel.context settings) model
    (∀ view, schemas.rowsOf view = datamodel.models.filterMap fun model =>
      view.rowOfEntries? model ((entries view model).map Prod.snd)) ∧
    ∀ model ∈ datamodel.models, carries .hidden model.documentation = false →
      ∀ field ∈ model.fields, field.IsDroppedKey datamodel settings model →
        field ∉ (entries .create model).map Prod.fst ∧
        (∃ entry, (field, entry) ∈ entries .plain model ∧ entry.isOptional = false) ∧
        ((∃ relation identity,
            (relation, ⟨relation.name, true, Relation.connect identity⟩) ∈
              entries .relationsCreate model ∧
            Relation.identity? datamodel.models relation.type = some identity ∧
            field.name ∈ relation.relationFromFields) ↔
          ∃ relation ∈ model.fields, relation.IsConnectable datamodel ∧
            field.name ∈ relation.relationFromFields) := by
  intro entries
  refine ⟨rowsOf_entries compiled, ?_⟩
  intro model member shown field present key
  have emitted (view : View) : (entries view model).map Prod.fst =
      model.fields.filter (view.emits datamodel settings model) :=
    contributions_emitted compiled view member shown
  refine ⟨?_, ?_, ?_⟩
  · rw [emitted, List.mem_filter, View.create_omits_key key]
    exact fun kept => absurd kept.2 (by decide)
  · have listed : field ∈ (entries .plain model).map Prod.fst := by
      rw [emitted, List.mem_filter]
      exact ⟨present, View.plain_emits_key key⟩
    obtain ⟨⟨_, entry⟩, contributed, rfl⟩ := List.mem_map.mp listed
    refine ⟨entry, contributed, ?_⟩
    have given := (View.mem_contributions _ _ _ _).mp contributed
    obtain ⟨_, _, _, _, _, _, same⟩ := (View.entry_typed (by decide) entry).mp given.2
    rw [same, View.typedOptional, key.required, key.undefaulted]
    rfl
  · have read {relation : Field} (listed : relation ∈ model.fields) :
        ∃ doc, Documentation.read relation.documentation = .ok doc := by
      obtain ⟨doc, documented, chosen⟩ :=
        compiled_model datamodel settings compiled .relationsCreate member
      rw [← Documentation.hides_eq_carries documented] at shown
      obtain ⟨_, chose⟩ := chosen shown relation listed
      exact View.read_of_choose chose
    constructor
    · rintro ⟨relation, identity, contributed, leads, lists⟩
      obtain ⟨listed, given⟩ := (View.mem_contributions _ _ _ _).mp contributed
      exact ⟨relation, listed, ((View.relationsCreate_entry (read listed)).mp given).1, lists⟩
    · rintro ⟨relation, listed, connectable, lists⟩
      have leads := connectable.target
      rw [Field.hasTarget, ← identity_isSome] at leads
      obtain ⟨identity, leads⟩ := Option.isSome_iff_exists.mp leads
      refine ⟨relation, identity, (View.mem_contributions _ _ _ _).mpr ⟨listed, ?_⟩, leads, lists⟩
      exact (View.relationsCreate_entry (read listed)).mpr ⟨connectable, identity, leads, rfl⟩

theorem blog_author_supplied :
    ∃ schemas, (blog.compile Settings.standard).outcome = .ok schemas ∧
      ∃ post ∈ blog.models, carries .hidden post.documentation = false ∧
        ∃ authorId ∈ post.fields, authorId.name = "authorId" ∧
          authorId.IsDroppedKey blog Settings.standard post ∧
          authorId ∉
            (View.create.contributions (blog.context Settings.standard) post).map Prod.fst ∧
          ∃ relation identity,
            (relation, ⟨relation.name, true, Relation.connect identity⟩) ∈
              View.relationsCreate.contributions (blog.context Settings.standard) post ∧
            authorId.name ∈ relation.relationFromFields := by
  obtain ⟨schemas, compiled⟩ := blog_compiles
  let post := blog.models[1]
  let authorId := post.fields[3]
  let author := post.fields[4]
  have member : post ∈ blog.models := List.getElem_mem _
  have present : authorId ∈ post.fields := List.getElem_mem _
  have backing : author ∈ post.fields := List.getElem_mem _
  have shown : carries .hidden post.documentation = false := by decide +kernel
  have key : authorId.IsDroppedKey blog Settings.standard post := by decide +kernel
  have connectable : author.IsConnectable blog := by
    constructor <;> decide +kernel
  obtain ⟨_, each⟩ := dropped_key_supplied compiled
  obtain ⟨omitted, _, supplied⟩ := each post member shown authorId present key
  obtain ⟨relation, identity, contributed, _, lists⟩ :=
    supplied.mpr ⟨author, backing, connectable, by decide⟩
  exact ⟨schemas, compiled, post, member, shown, authorId, present, rfl, key, omitted, relation,
    identity, contributed, lists⟩

/-- A loan with four foreign keys. The relation of the first is hidden, that of the second is kept out
of creates, that of the third leads to no model; the fourth has the name of a relation, and no relation
field lists it. -/
def lending : Datamodel where
  models := [
    { name := "Loan",
      fields := [
        { name := "bookId", kind := .scalar, type := "Int" },
        { name := "readerId", kind := .scalar, type := "Int" },
        { name := "branchId", kind := .scalar, type := "Int" },
        { name := "clerkId", kind := .scalar, type := "Int", relationName := some "Clerk" },
        { name := "book", kind := .object, type := "Book", relationFromFields := ["bookId"],
          documentation := some "@prisma-arktype.hide" },
        { name := "reader", kind := .object, type := "Reader", relationFromFields := ["readerId"],
          documentation := some "@prisma-arktype.create.input.hide" },
        { name := "branch", kind := .object, type := "Branch",
          relationFromFields := ["branchId"] }] },
    { name := "Book" },
    { name := "Reader" }]

/-- None of the four keys can be supplied: no relation that lists them has an entry to create it. -/
theorem lending_keys_lost :
    ∃ schemas, (lending.compile Settings.standard).outcome = .ok schemas ∧
      ∃ loan ∈ lending.models, carries .hidden loan.documentation = false ∧
        ∀ name ∈ ["bookId", "readerId", "branchId", "clerkId"],
          ∃ field ∈ loan.fields, field.name = name ∧ field.kind = .scalar ∧
            field.IsDroppedKey lending Settings.standard loan ∧
            ∀ relation entry,
              (relation, entry) ∈
                View.relationsCreate.contributions (lending.context Settings.standard) loan →
              field.name ∉ relation.relationFromFields := by
  have compiles : ∃ schemas, (lending.compile Settings.standard).outcome = .ok schemas := by
    rw [← errorOf_eq_none, compile_fault_sites]
    decide +kernel
  obtain ⟨schemas, compiled⟩ := compiles
  let loan := lending.models[0]
  have member : loan ∈ lending.models := List.getElem_mem _
  have shown : carries .hidden loan.documentation = false := by decide +kernel
  have keys : ∀ name ∈ ["bookId", "readerId", "branchId", "clerkId"],
      ∃ field ∈ loan.fields, field.name = name ∧ field.kind = .scalar ∧
        field.IsDroppedKey lending Settings.standard loan := by
    decide +kernel
  have none : View.relationsCreate.contributions (lending.context Settings.standard) loan = [] := by
    decide +kernel
  refine ⟨schemas, compiled, loan, member, shown, ?_⟩
  intro name listed
  obtain ⟨field, present, named, scalar, key⟩ := keys name listed
  refine ⟨field, present, named, scalar, key, ?_⟩
  intro relation entry contributed
  rw [none] at contributed
  cases contributed

end Datamodel
end ModelViews
