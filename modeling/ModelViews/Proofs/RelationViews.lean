import ModelViews.Proofs.TypedViews

namespace ModelViews

open Documentation (carries)

def Settings.ignoring (settings : Settings) (keys : List String) : Settings :=
  { settings with ignoredKeys := keys }

namespace View

def scalarInputs : List View :=
  [create, update]

def relationInputs : List View :=
  [relationsCreate, relationsUpdate]

variable {datamodel : Datamodel} {settings : Settings} {model : Model} {field : Field}

theorem mem_scalarInputs {view : View} : view ∈ scalarInputs ↔ view = create ∨ view = update := by
  simp only [scalarInputs, List.mem_cons, List.not_mem_nil, or_false]

theorem mem_relationInputs {view : View} :
    view ∈ relationInputs ↔ view = relationsCreate ∨ view = relationsUpdate := by
  simp only [relationInputs, List.mem_cons, List.not_mem_nil, or_false]

private theorem choose_ignoring {view : View} (other : view ∉ scalarInputs) (keys : List String) :
    view.choose (datamodel.context (settings.ignoring keys)) model field =
      view.choose (datamodel.context settings) model field := by
  cases view with
  | create => exact absurd (by decide) other
  | update => exact absurd (by decide) other
  | _ => rfl

private theorem rowOf_ignoring {view : View} (other : view ∉ scalarInputs) (keys : List String) :
    view.rowOf? (datamodel.context (settings.ignoring keys)) model =
      view.rowOf? (datamodel.context settings) model := by
  simp only [rowOf?, contributions, entryOf?, choose_ignoring other keys]

/-- Where a scalar input takes a field as it does in another context, unless the field is dropped, it
has the entry of that context, unless the field is dropped. -/
theorem entry_unless {view : View} (takes : view ∈ scalarInputs) {context other : Context}
    {otherModel : Model} {dropped : Bool} (enums : context.enums = other.enums)
    (taken : takesInput context.settings model field =
      (takesInput other.settings otherModel field && !dropped)) :
    view.entryOf? context model field =
      if dropped then none else view.entryOf? other otherModel field := by
  have made (doc : Documentation) : view.entry context field doc = view.entry other field doc := by
    rcases mem_scalarInputs.mp takes with rfl | rfl
    · simp only [entry, typedEntry, enums, typedOptional]
    · simp only [entry, typedEntry, enums, typedOptional]
  have admitted (doc : Documentation) : view.admits context model field doc =
      (view.admits other otherModel field doc && !dropped) := by
    rcases mem_scalarInputs.mp takes with rfl | rfl
    · simp only [admits, taken, Bool.and_assoc]
    · simp only [admits, taken, Bool.and_assoc]
  apply Option.ext
  intro entry
  cases dropped with
  | true =>
      rw [entryOf_eq_some]
      simp only [admitted, Bool.not_true, Bool.and_false, Bool.false_eq_true, false_and, and_false,
        exists_false, ↓reduceIte, reduceCtorEq]
  | false =>
      rw [if_neg Bool.false_ne_true, entryOf_eq_some, entryOf_eq_some]
      simp only [admitted, made, Bool.not_false, Bool.and_true]

private theorem entry_ignoring {view : View} (takes : view ∈ scalarInputs) :
    view.entryOf? (datamodel.context settings) model field =
      if settings.ignoredKeys.contains field.name then none
      else view.entryOf? (datamodel.context (settings.ignoring [])) model field := by
  refine entry_unless takes ?_ ?_
  · rfl
  · simp only [takesInput, Settings.ignoring, Datamodel.context, List.contains_nil, Bool.not_false,
      Bool.and_true]
    ac_rfl

private theorem contributions_ignoring {view : View} (takes : view ∈ scalarInputs) :
    view.contributions (datamodel.context settings) model =
      (view.contributions (datamodel.context (settings.ignoring [])) model).filter
        fun (field, _) => !settings.ignoredKeys.contains field.name := by
  have kept (field : Field) : view.entryOf? (datamodel.context settings) model field =
      if !settings.ignoredKeys.contains field.name then
        view.entryOf? (datamodel.context (settings.ignoring [])) model field
      else none := by
    rw [entry_ignoring takes]
    cases settings.ignoredKeys.contains field.name <;> rfl
  exact view.contributions_filter _ model kept

private theorem emits_written {view : View} (writes : view ∈ relationInputs)
    (emitted : view.emits datamodel settings model field = true) :
    relations.emits datamodel settings model field = true ∧ field.hasTarget datamodel = true := by
  rcases mem_relationInputs.mp writes with rfl | rfl
  · simp only [emits, Bool.and_eq_true] at emitted ⊢
    exact ⟨⟨emitted.1, emitted.2.1.1⟩, emitted.2.2⟩
  · simp only [emits, Bool.and_eq_true] at emitted ⊢
    exact ⟨⟨emitted.1, emitted.2.1.1⟩, emitted.2.2⟩

private theorem emits_of_target {view : View} (writes : view ∈ relationInputs)
    (creates : field.isKeptOut .hiddenCreate = false)
    (updates : field.isKeptOut .hiddenUpdate = false) :
    view.emits datamodel settings model field =
      (field.hasTarget datamodel && relations.emits datamodel settings model field) := by
  rcases mem_relationInputs.mp writes with rfl | rfl
  · simp only [emits, creates, Bool.not_false, Bool.and_true]
    ac_rfl
  · simp only [emits, updates, Bool.not_false, Bool.and_true]
    ac_rfl

private theorem row_isSome_iff {context : Context} {view : View} (needs : view.keepsEmpty = false)
    {doc : Documentation} (documented : Documentation.read model.documentation = .ok doc)
    (shown : doc.hidden = false) :
    (view.rowOf? context model).isSome ↔ (view.contributions context model).map Prod.fst ≠ [] := by
  rw [Option.isSome_iff_exists]
  simp only [rowOf_eq_some, documented, Except.ok.injEq, exists_eq_left', shown, true_and, needs,
    ne_eq, List.map_eq_nil_iff]
  constructor
  · rintro ⟨row, some, _⟩ none
    exact absurd (some none) (by decide)
  · intro some
    exact ⟨_, fun none => absurd none some, rfl⟩

example : all.filter (·.keepsEmpty = false) =
    [uniqueFilter, relations, relationsCreate, relationsUpdate] := by
  decide +kernel

end View

namespace Datamodel

variable {datamodel : Datamodel} {settings : Settings} {schemas : Schemas}

/-- Whether a compilation fails does not depend on its settings. -/
theorem compile_ignoring (compiled : (datamodel.compile settings).outcome = .ok schemas)
    (keys : List String) :
    ∃ others, (datamodel.compile (settings.ignoring keys)).outcome = .ok others := by
  exact compiles_iff_sites.mpr (compiles_iff_sites.mp ⟨schemas, compiled⟩)

/-- How far the ignored keys reach. The rows of every view but creates and updates are those of a run
that ignores nothing; creates and updates are those of that run less the ignored fields; so a relation
input has an ignored field as soon as it has a relation of that name to write. -/
theorem ignored_keys_reach (compiled : (datamodel.compile settings).outcome = .ok schemas) :
    let entries (view : View) (settings : Settings) (model : Model) :=
      view.contributions (datamodel.context settings) model
    (∀ view, schemas.rowsOf view = datamodel.models.filterMap fun model =>
      view.rowOfEntries? model ((entries view settings model).map Prod.snd)) ∧
    (∃ free, (datamodel.compile (settings.ignoring [])).outcome = .ok free ∧
      ∀ view, view ∉ View.scalarInputs → schemas.rowsOf view = free.rowsOf view) ∧
    ∀ model ∈ datamodel.models, carries .hidden model.documentation = false →
      (∀ view ∈ View.scalarInputs, entries view settings model =
        (entries view (settings.ignoring []) model).filter
          fun (field, _) => !settings.ignoredKeys.contains field.name) ∧
      ∀ view ∈ View.relationInputs,
        (entries view settings model).map Prod.fst =
          model.fields.filter (view.emits datamodel settings model) ∧
        ((∀ field ∈ (entries view settings model).map Prod.fst,
            field.name ∉ settings.ignoredKeys) ↔
          ∀ field ∈ model.fields, field.name ∈ settings.ignoredKeys →
            view.emits datamodel settings model field = false) := by
  intro entries
  refine ⟨rowsOf_entries compiled, ?_, ?_⟩
  · obtain ⟨free, freely⟩ := compile_ignoring compiled []
    refine ⟨free, freely, ?_⟩
    intro view other
    rw [rowsOf_compile datamodel settings compiled, rowsOf_compile datamodel _ freely]
    apply List.filterMap_congr
    intro model _
    exact (View.rowOf_ignoring other []).symm
  · intro model member shown
    refine ⟨fun view takes => View.contributions_ignoring takes, ?_⟩
    intro view _
    have fields := contributions_emitted compiled view member shown
    refine ⟨fields, ?_⟩
    rw [fields]
    simp only [List.mem_filter, and_imp]
    constructor
    · intro kept field present ignored
      rw [← Bool.not_eq_true]
      exact fun emitted => kept field present emitted ignored
    · intro dropped field present emitted ignored
      rw [dropped field present ignored] at emitted
      exact absurd emitted (by decide)

theorem blog_ignored_keys_reach :
    let ignoring := Settings.standard.ignoring ["title", "author"]
    ∃ schemas, (blog.compile ignoring).outcome = .ok schemas ∧
      ∃ post ∈ blog.models, post.name = "Post" ∧
        View.create.contributions (blog.context ignoring) post =
          (View.create.contributions (blog.context (ignoring.ignoring [])) post).filter
            (fun (field, _) => !ignoring.ignoredKeys.contains field.name) ∧
        (View.relationsCreate.contributions (blog.context ignoring) post).map Prod.fst =
          post.fields.filter (View.relationsCreate.emits blog ignoring post) := by
  intro ignoring
  obtain ⟨_, plainly⟩ := blog_compiles
  obtain ⟨schemas, compiled⟩ := compile_ignoring plainly ["title", "author"]
  let post := blog.models[1]
  have member : post ∈ blog.models := List.getElem_mem _
  have shown : carries .hidden post.documentation = false := by decide +kernel
  obtain ⟨_, _, each⟩ := ignored_keys_reach compiled
  obtain ⟨scalars, relations⟩ := each post member shown
  exact ⟨schemas, compiled, post, member, rfl, scalars .create (by decide),
    (relations .relationsCreate (by decide)).1⟩

def forum : Datamodel where
  models := [
    { name := "Post",
      fields := [
        { name := "author", kind := .object, type := "User" },
        { name := "thread", kind := .object, type := "Thread" }] },
    { name := "User" }]

private theorem forum_compiles (settings : Settings) :
    ∃ schemas, (forum.compile settings).outcome = .ok schemas := by
  rw [compiles_iff_sites]
  decide +kernel

/-- The author of a post can be set although it is ignored. -/
theorem ignored_relation_written :
    let ignoring := Settings.standard.ignoring ["author"]
    ∃ schemas, (forum.compile ignoring).outcome = .ok schemas ∧
      ∃ post ∈ forum.models, carries .hidden post.documentation = false ∧
        ∀ view ∈ View.relationInputs, ∃ field entry,
          (field, entry) ∈ view.contributions (forum.context ignoring) post ∧
            field.name ∈ ignoring.ignoredKeys := by
  intro ignoring
  obtain ⟨schemas, compiled⟩ := forum_compiles ignoring
  let post := forum.models[0]
  have member : post ∈ forum.models := List.getElem_mem _
  have shown : carries .hidden post.documentation = false := by decide +kernel
  have written : ∀ view ∈ View.relationInputs,
      ∃ pair ∈ view.contributions (forum.context ignoring) post,
        pair.1.name ∈ ignoring.ignoredKeys := by decide +kernel
  refine ⟨schemas, compiled, post, member, shown, ?_⟩
  intro view writes
  obtain ⟨⟨field, entry⟩, contributed, ignored⟩ := written view writes
  exact ⟨field, entry, contributed, ignored⟩

/-- A relation that leads to no model has an entry where it is read, and none where it is written.
Relations that are not kept out of inputs are written if and only if they lead to a model, so that
the three views agree exactly if all relations do. -/
theorem dangling_relations (compiled : (datamodel.compile settings).outcome = .ok schemas) :
    let entries (view : View) (model : Model) :=
      view.contributions (datamodel.context settings) model
    (∀ view, schemas.rowsOf view = datamodel.models.filterMap fun model =>
      view.rowOfEntries? model ((entries view model).map Prod.snd)) ∧
    ∀ model ∈ datamodel.models, carries .hidden model.documentation = false →
      let fields (view : View) := (entries view model).map Prod.fst
      fields .relations = model.fields.filter
        (fun field => !carries .hidden field.documentation && field.kind = .object) ∧
      (∀ view ∈ View.relationInputs, ∀ field ∈ fields view,
        field ∈ fields .relations ∧ field.hasTarget datamodel = true) ∧
      ((∀ field ∈ model.fields, field.isKeptOut .hiddenCreate = false ∧
          field.isKeptOut .hiddenUpdate = false) →
        (∀ view ∈ View.relationInputs,
          fields view = (fields .relations).filter (Field.hasTarget datamodel)) ∧
        ((∀ view ∈ View.relationInputs, fields view = fields .relations) ↔
          ∀ field ∈ fields .relations, field.hasTarget datamodel = true)) ∧
      ∀ view ∈ .relations :: View.relationInputs,
        (view.rowOf? (datamodel.context settings) model).isSome ↔ fields view ≠ [] := by
  intro entries
  refine ⟨rowsOf_entries compiled, ?_⟩
  intro model member shown fields
  have emitted (view : View) :
      fields view = model.fields.filter (view.emits datamodel settings model) :=
    contributions_emitted compiled view member shown
  refine ⟨emitted .relations, ?_, ?_, ?_⟩
  · intro view writes field contributed
    rw [emitted, List.mem_filter] at contributed
    obtain ⟨read, targeted⟩ := View.emits_written writes contributed.2
    rw [emitted, List.mem_filter]
    exact ⟨⟨contributed.1, read⟩, targeted⟩
  · intro free
    have targeted : ∀ view ∈ View.relationInputs,
        fields view = (fields .relations).filter (Field.hasTarget datamodel) := by
      intro view writes
      rw [emitted, emitted, List.filter_filter]
      apply List.filter_congr
      intro field present
      exact View.emits_of_target writes (free field present).1 (free field present).2
    refine ⟨targeted, ?_⟩
    rw [← List.filter_eq_self]
    constructor
    · intro agree
      rw [← targeted .relationsCreate (by decide)]
      exact agree .relationsCreate (by decide)
    · intro all view writes
      rw [targeted view writes, all]
  · intro view family
    obtain ⟨doc, documented, _⟩ := compiled_model datamodel settings compiled view member
    have needs : view.keepsEmpty = false := by
      rcases List.mem_cons.mp family with rfl | writes
      · rfl
      · rcases View.mem_relationInputs.mp writes with rfl | rfl <;> rfl
    have hidden : doc.hidden = carries .hidden model.documentation :=
      Documentation.hides_eq_carries documented .hidden
    exact View.row_isSome_iff needs documented (hidden.trans shown)

theorem forum_dangling_relations :
    ∃ schemas, (forum.compile Settings.standard).outcome = .ok schemas ∧
      ∃ post ∈ forum.models, post.name = "Post" ∧
        let fields (view : View) :=
          (view.contributions (forum.context Settings.standard) post).map Prod.fst
        (∀ view ∈ View.relationInputs,
          fields view = (fields .relations).filter (Field.hasTarget forum)) ∧
        ∀ view ∈ .relations :: View.relationInputs,
          (view.rowOf? (forum.context Settings.standard) post).isSome ↔ fields view ≠ [] := by
  obtain ⟨schemas, compiled⟩ := forum_compiles Settings.standard
  let post := forum.models[0]
  have member : post ∈ forum.models := List.getElem_mem _
  have shown : carries .hidden post.documentation = false := by decide +kernel
  have free : ∀ field ∈ post.fields, field.isKeptOut .hiddenCreate = false ∧
      field.isKeptOut .hiddenUpdate = false := by decide +kernel
  obtain ⟨_, each⟩ := dangling_relations compiled
  obtain ⟨_, _, agree, rows⟩ := each post member shown
  exact ⟨schemas, compiled, post, member, rfl, (agree free).1, rows⟩

/-- The thread of a post is no model, and yet it is a relation that is read; to write it there is
no entry. -/
theorem dangling_relation_read :
    ∃ schemas, (forum.compile Settings.standard).outcome = .ok schemas ∧
      ∃ post ∈ forum.models, carries .hidden post.documentation = false ∧
        ∃ thread ∈ post.fields, thread.kind = .object ∧
          carries .hidden thread.documentation = false ∧ thread.hasTarget forum = false ∧
          let fields (view : View) :=
            (view.contributions (forum.context Settings.standard) post).map Prod.fst
          thread ∈ fields .relations ∧ ∀ view ∈ View.relationInputs, thread ∉ fields view := by
  obtain ⟨schemas, compiled⟩ := forum_compiles Settings.standard
  let post := forum.models[0]
  let thread := post.fields[1]
  have member : post ∈ forum.models := List.getElem_mem _
  have present : thread ∈ post.fields := List.getElem_mem _
  have shown : carries .hidden post.documentation = false ∧
      carries .hidden thread.documentation = false := by decide +kernel
  refine ⟨schemas, compiled, post, member, shown.1, thread, present, rfl, shown.2, ?_, ?_, ?_⟩
  · decide +kernel
  · decide +kernel
  · decide +kernel

end Datamodel
end ModelViews
