import ModelViews.Proofs.Emission

namespace ModelViews

open Documentation (carries)

def Entry.asOptional (entry : Entry) : Entry :=
  { entry with isOptional := true }

private theorem filterMap_sublist_of_imp {α β : Type} {first second : α → Option β} {items : List α}
    (each : ∀ item ∈ items, ∀ result, first item = some result → second item = some result) :
    (items.filterMap first).Sublist (items.filterMap second) := by
  induction items with
  | nil => exact .slnil
  | cons item rest ih =>
      have tail := ih fun other member => each other (by simp [member])
      rw [List.filterMap_cons, List.filterMap_cons]
      cases given : first item with
      | none =>
          cases second item with
          | none => exact tail
          | some _ => exact tail.cons _
      | some result =>
          rw [each item (by simp) result given]
          exact tail.cons_cons result

namespace View

variable {context : Context} {model : Model} {field : Field}

/-- The entry of a field in a view with types: the field is admitted and has a known type. -/
theorem entry_typed {view : View} (shows : view ∈ typed) (entry : Entry) :
    view.entryOf? context model field = some entry ↔
      ∃ doc, Documentation.read field.documentation = .ok doc ∧ doc.hidden = false ∧
        view.admits context model field doc = true ∧
        ∃ type, field.baseType doc context.enums = .ok (.known type) ∧
          entry = ⟨field.name, view.typedOptional field, field.wrapped true type⟩ := by
  have made (doc : Documentation) :
      view.entry context field doc = view.typedEntry context field doc := by
    rcases mem_typed.mp shows with rfl | rfl | rfl | rfl | rfl <;> rfl
  rw [entryOf_eq_some]
  simp only [made, typedEntry]
  refine exists_congr fun doc => and_congr_right fun _ => and_congr_right fun _ =>
    and_congr_right fun _ => ?_
  cases field.baseType doc context.enums with
  | error error => simp
  | ok found => cases found <;> simp [eq_comm]

private theorem entry_isSome {view : View} (shows : view ∈ typed) :
    (view.entryOf? context model field).isSome ↔
      ∃ doc, Documentation.read field.documentation = .ok doc ∧ doc.hidden = false ∧
        view.admits context model field doc = true ∧
        ∃ type, field.baseType doc context.enums = .ok (.known type) := by
  rw [Option.isSome_iff_exists]
  simp only [entry_typed shows]
  constructor
  · rintro ⟨entry, doc, documented, shown, admitted, type, known, _⟩
    exact ⟨doc, documented, shown, admitted, type, known⟩
  · rintro ⟨doc, documented, shown, admitted, type, known⟩
    exact ⟨_, doc, documented, shown, admitted, type, known, rfl⟩

private theorem entry_of_admits {first second : View} (firstShows : first ∈ typed)
    (secondShows : second ∈ typed)
    (optional : first.typedOptional field = second.typedOptional field)
    (less : ∀ doc, first.admits context model field doc = true →
      second.admits context model field doc = true) {entry : Entry}
    (given : first.entryOf? context model field = some entry) :
    second.entryOf? context model field = some entry := by
  obtain ⟨doc, documented, shown, admitted, type, known, same⟩ :=
    (entry_typed firstShows entry).mp given
  refine (entry_typed secondShows entry).mpr
    ⟨doc, documented, shown, less doc admitted, type, known, ?_⟩
  rw [same, optional]

private theorem contributions_sublist {first second : View}
    (each : ∀ field ∈ model.fields, ∀ entry, first.entryOf? context model field = some entry →
      second.entryOf? context model field = some entry) :
    (first.contributions context model).Sublist (second.contributions context model) := by
  apply filterMap_sublist_of_imp
  intro field present contribution made
  obtain ⟨entry, given, rfl⟩ := Option.map_eq_some_iff.mp made
  rw [each field present entry given]
  rfl

private theorem filter_entry :
    filter.entryOf? context model field =
      (plain.entryOf? context model field).map Entry.asOptional := by
  have admitted (doc : Documentation) :
      filter.admits context model field doc = plain.admits context model field doc := rfl
  apply Option.ext
  intro entry
  simp only [Option.map_eq_some_iff, entry_typed (by decide : filter ∈ typed),
    entry_typed (by decide : plain ∈ typed), admitted]
  constructor
  · rintro ⟨doc, documented, shown, admits, type, known, rfl⟩
    exact ⟨_, ⟨doc, documented, shown, admits, type, known, rfl⟩, rfl⟩
  · rintro ⟨_, ⟨doc, documented, shown, admits, type, known, rfl⟩, rfl⟩
    exact ⟨doc, documented, shown, admits, type, known, rfl⟩

private theorem filter_contributions :
    filter.contributions context model =
      (plain.contributions context model).map fun (field, entry) => (field, entry.asOptional) := by
  rw [contributions, contributions, List.map_filterMap]
  congr 1
  funext field
  rw [filter_entry]
  cases plain.entryOf? context model field <;> rfl

private theorem uniqueFilter_entry :
    uniqueFilter.entryOf? context model field =
      if field.isId || field.isUnique then filter.entryOf? context model field else none := by
  have optional : uniqueFilter.typedOptional field = filter.typedOptional field := rfl
  by_cases identifies : field.isId || field.isUnique
  · rw [if_pos identifies]
    have same (doc : Documentation) :
        uniqueFilter.admits context model field doc = true ↔
          filter.admits context model field doc = true := by
      rw [admits, admits, identifies, Bool.and_true]
    apply Option.ext
    intro entry
    constructor
    · exact entry_of_admits (by decide) (by decide) optional fun doc => (same doc).mp
    · exact entry_of_admits (by decide) (by decide) optional.symm fun doc => (same doc).mpr
  · rw [if_neg identifies]
    apply Option.eq_none_iff_forall_not_mem.mpr
    intro entry given
    obtain ⟨doc, _, _, admitted, _⟩ := (entry_typed (by decide) entry).mp given
    exact identifies (Bool.and_eq_true_iff.mp admitted).2

private theorem uniqueFilter_contributions :
    uniqueFilter.contributions context model =
      (filter.contributions context model).filter
        fun (field, _) => field.isId || field.isUnique :=
  uniqueFilter.contributions_filter context model fun _ => uniqueFilter_entry

private theorem create_contributions :
    (create.contributions context model).Sublist (plain.contributions context model) := by
  apply contributions_sublist
  intro field _ entry given
  have optional : create.typedOptional field = plain.typedOptional field := rfl
  refine entry_of_admits (by decide) (by decide) optional ?_ given
  intro doc admitted
  exact plain_admits (by decide) admitted

private theorem update_contributions :
    (update.contributions context model).Sublist (filter.contributions context model) := by
  apply contributions_sublist
  intro field _ entry given
  have optional : update.typedOptional field = filter.typedOptional field := rfl
  refine entry_of_admits (by decide) (by decide) optional ?_ given
  intro doc admitted
  exact plain_admits (by decide) admitted

private theorem input_fields
    (neither : ∀ field ∈ model.fields, carries .hiddenCreate field.documentation = false ∧
      carries .hiddenUpdate field.documentation = false) :
    (create.contributions context model).map Prod.fst =
      (update.contributions context model).map Prod.fst := by
  rw [contributions_fields, contributions_fields]
  apply List.filter_congr
  intro field present
  obtain ⟨creates, updates⟩ := neither field present
  rw [Bool.eq_iff_iff, entry_isSome (by decide), entry_isSome (by decide)]
  refine exists_congr fun doc => and_congr_right fun documented => ?_
  have same : create.admits context model field doc = update.admits context model field doc := by
    simp only [admits, hidesInput, Documentation.hides_eq_carries documented, creates, updates]
  rw [same]

end View

namespace Datamodel

/-- The views with types agree on every field of a model that is not hidden. Each has an entry of
every field that it emits; the filter is the plain view with keys that may be missing, the unique
filter is the part of it that identifies, creates are part of the plain view and updates part of the
filter. -/
theorem typed_views_agree {datamodel : Datamodel} {settings : Settings} {schemas : Schemas}
    (compiled : (datamodel.compile settings).outcome = .ok schemas) :
    let entries (view : View) (model : Model) :=
      view.contributions (datamodel.context settings) model
    (∀ view, schemas.rowsOf view = datamodel.models.filterMap fun model =>
      view.rowOfEntries? model ((entries view model).map Prod.snd)) ∧
    ∀ model ∈ datamodel.models, carries .hidden model.documentation = false →
      (∀ view, (entries view model).map Prod.fst =
        model.fields.filter (view.emits datamodel settings model)) ∧
      entries .filter model =
        (entries .plain model).map (fun (field, entry) => (field, entry.asOptional)) ∧
      entries .uniqueFilter model =
        (entries .filter model).filter (fun (field, _) => field.isId || field.isUnique) ∧
      (entries .create model).Sublist (entries .plain model) ∧
      (entries .update model).Sublist (entries .filter model) ∧
      ((∀ field ∈ model.fields, carries .hiddenCreate field.documentation = false ∧
          carries .hiddenUpdate field.documentation = false) →
        (entries .create model).map Prod.fst = (entries .update model).map Prod.fst) := by
  intro entries
  constructor
  · exact rowsOf_entries compiled
  · intro model member shown
    exact ⟨fun view => contributions_emitted compiled view member shown,
      View.filter_contributions, View.uniqueFilter_contributions, View.create_contributions,
      View.update_contributions, View.input_fields⟩

theorem blog_typed_views_agree :
    let context := blog.context Settings.standard
    ∃ schemas, (blog.compile Settings.standard).outcome = .ok schemas ∧
      ∃ user ∈ blog.models, user.name = "User" ∧
        View.filter.contributions context user =
          (View.plain.contributions context user).map
            (fun (field, entry) => (field, entry.asOptional)) ∧
        View.uniqueFilter.contributions context user =
          (View.filter.contributions context user).filter
            (fun (field, _) => field.isId || field.isUnique) ∧
        (View.create.contributions context user).Sublist (View.plain.contributions context user) ∧
        (View.update.contributions context user).Sublist (View.filter.contributions context user) ∧
        (View.create.contributions context user).map Prod.fst =
          (View.update.contributions context user).map Prod.fst := by
  obtain ⟨schemas, compiled⟩ := blog_compiles
  let user := blog.models.head (by decide)
  have member : user ∈ blog.models := List.head_mem _
  have shown : carries .hidden user.documentation = false := by decide +kernel
  have neither : ∀ field ∈ user.fields, carries .hiddenCreate field.documentation = false ∧
      carries .hiddenUpdate field.documentation = false := by decide +kernel
  obtain ⟨_, each⟩ := typed_views_agree compiled
  obtain ⟨_, filters, identifies, creates, updates, inputs⟩ := each user member shown
  exact ⟨schemas, compiled, user, member, rfl, filters, identifies, creates, updates,
    inputs neither⟩

end Datamodel
end ModelViews
