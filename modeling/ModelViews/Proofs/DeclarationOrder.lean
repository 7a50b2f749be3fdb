import Mathlib.Data.List.Nodup
import ModelViews.Proofs.Emission
import ModelViews.Proofs.Lookups

namespace ModelViews

private theorem find_eq_some_of_nodup {α κ : Type} [DecidableEq κ] {key : α → κ} {items : List α}
    (distinct : (items.map key).Nodup) {name : κ} {item : α} :
    items.find? (fun other => key other = name) = some item ↔ item ∈ items ∧ key item = name := by
  constructor
  · intro found
    exact ⟨List.mem_of_find?_eq_some found, by simpa using List.find?_some found⟩
  · rintro ⟨member, rfl⟩
    have some : (items.find? fun other => key other = key item).isSome :=
      List.find?_isSome.mpr ⟨item, member, by simp⟩
    obtain ⟨other, found⟩ := Option.isSome_iff_exists.mp some
    have same : key other = key item := by simpa using List.find?_some found
    rw [found, List.inj_on_of_nodup_map distinct (List.mem_of_find?_eq_some found) member same]

private theorem find_of_perm {α κ : Type} [DecidableEq κ] {key : α → κ} {first second : List α}
    (reordered : first.Perm second) (distinct : (first.map key).Nodup) (name : κ) :
    first.find? (fun item => key item = name) = second.find? (fun item => key item = name) := by
  have distinctSecond : (second.map key).Nodup := (reordered.map key).nodup_iff.mp distinct
  apply Option.ext
  intro item
  rw [find_eq_some_of_nodup distinct, find_eq_some_of_nodup distinctSecond, reordered.mem_iff]

namespace Datamodel

variable {first second : Datamodel} {settings : Settings}

/-- Data models that declare the same, in whatever order, and no name twice. -/
structure Reordered (first second : Datamodel) : Prop where
  models : first.models.Perm second.models
  enums : first.enums.Perm second.enums
  modelNames : (first.models.map Model.name).Nodup
  enumNames : (first.enums.map EnumType.name).Nodup

private theorem compiledEnums_names (enums : List EnumType) :
    (enums.map CompiledEnum.ofEnum).map CompiledEnum.name = enums.map EnumType.name := by
  rw [List.map_map]
  rfl

theorem Reordered.context (reordered : first.Reordered second) (settings : Settings) :
    (first.context settings).Alike (second.context settings) where
  settings := rfl
  identity name := by
    have found : model? first.models name = model? second.models name :=
      find_of_perm reordered.models reordered.modelNames name
    exact congrArg (Option.map _) found
  enum name := by
    have enums : ((first.enums.map CompiledEnum.ofEnum).reverse).Perm
        (second.enums.map CompiledEnum.ofEnum).reverse :=
      (List.reverse_perm _).trans
        ((reordered.enums.map CompiledEnum.ofEnum).trans (List.reverse_perm _).symm)
    have distinct :
        (((first.enums.map CompiledEnum.ofEnum).reverse).map CompiledEnum.name).Nodup := by
      rw [List.map_reverse, List.nodup_reverse, compiledEnums_names]
      exact reordered.enumNames
    exact find_of_perm enums distinct name

private theorem Reordered.compiles_iff (reordered : first.Reordered second) (settings : Settings) :
    (∃ schemas, (first.compile settings).outcome = .ok schemas) ↔
      ∃ others, (second.compile settings).outcome = .ok others := by
  have sites : first.sites.Perm second.sites := reordered.models.flatMap_right _
  rw [compiles_iff_sites, compiles_iff_sites]
  exact forall_congr' fun site => by rw [sites.mem_iff]

end Datamodel

namespace View

theorem rowOf_alike (view : View) {first second : Context} (alike : first.Alike second)
    (model : Model) : view.rowOf? first model = view.rowOf? second model := by
  simp only [rowOf?, contributions, entryOf?, view.choose_alike alike]

private theorem rowOf_model {view : View} {context : Context} {model : Model} {row : Row}
    (made : view.rowOf? context model = some row) : row.model = model.name := by
  obtain ⟨_, _, _, _, rfl⟩ := (view.rowOf_eq_some context model).mp made
  rfl

end View

namespace Datamodel

variable {first second : Datamodel}

/-- The order of declarations carries no meaning. A data model compiles if and only if it does in
another order; then its enums are the same in that order, and each view has the same row of each model,
in the order of the models. -/
theorem declaration_order_free (reordered : first.Reordered second) (settings : Settings) :
    ((∃ schemas, (first.compile settings).outcome = .ok schemas) ↔
      ∃ others, (second.compile settings).outcome = .ok others) ∧
    ∀ schemas others, (first.compile settings).outcome = .ok schemas →
      (second.compile settings).outcome = .ok others →
      schemas.enums = first.enums.map CompiledEnum.ofEnum ∧
      others.enums = second.enums.map CompiledEnum.ofEnum ∧
      schemas.enums.Perm others.enums ∧
      schemas.views.map Prod.fst = others.views.map Prod.fst ∧
      ∀ view : View,
        (∃ row? : Model → Option Row,
          (∀ model row, row? model = some row → row.model = model.name) ∧
          schemas.rowsOf view = first.models.filterMap row? ∧
          others.rowsOf view = second.models.filterMap row?) ∧
        (schemas.rowsOf view).Perm (others.rowsOf view) := by
  refine ⟨reordered.compiles_iff settings, ?_⟩
  intro schemas others compiled otherwise
  have made := compile_ok first settings compiled
  have madeOther := compile_ok second settings otherwise
  have row (view : View) : view.rowOf? (second.context settings) =
      view.rowOf? (first.context settings) :=
    funext fun model => (view.rowOf_alike (reordered.context settings) model).symm
  have views : schemas.views.map Prod.fst = others.views.map Prod.fst := by
    rw [views_compile first settings compiled, views_compile second settings otherwise]
  refine ⟨by rw [made]; rfl, by rw [madeOther]; rfl, ?_, views, ?_⟩
  · rw [made, madeOther]
    exact reordered.enums.map CompiledEnum.ofEnum
  · intro view
    have rows := rowsOf_compile first settings compiled view
    have rowsOther := rowsOf_compile second settings otherwise view
    rw [row view] at rowsOther
    refine ⟨⟨_, fun _ _ => View.rowOf_model, rows, rowsOther⟩, ?_⟩
    rw [rows, rowsOther]
    exact reordered.models.filterMap _

def library : Datamodel where
  models := [
    { name := "Book",
      fields := [
        { name := "isbn", kind := .scalar, type := "String", isId := true },
        { name := "genre", kind := .enum, type := "Genre" },
        { name := "state", kind := .enum, type := "State", hasDefault := true },
        { name := "author", kind := .object, type := "Author" }] },
    { name := "Author",
      fields := [
        { name := "number", kind := .scalar, type := "Int", isId := true },
        { name := "books", kind := .object, type := "Book", isList := true }] }]
  enums := [
    { name := "Genre", values := [{ name := "NOVEL" }, { name := "POETRY" }] },
    { name := "State", values := [{ name := "LENT" }, { name := "FREE" }] }]

def libraryReversed : Datamodel where
  models := library.models.reverse
  enums := library.enums.reverse

theorem library_order_free :
    ∃ schemas others, (library.compile Settings.standard).outcome = .ok schemas ∧
      (libraryReversed.compile Settings.standard).outcome = .ok others ∧
      schemas.enums.Perm others.enums ∧
      ∀ view : View, (schemas.rowsOf view).Perm (others.rowsOf view) := by
  have reordered : library.Reordered libraryReversed :=
    ⟨(List.reverse_perm _).symm, (List.reverse_perm _).symm, by decide, by decide⟩
  obtain ⟨compiles, rows⟩ := declaration_order_free reordered Settings.standard
  have sound : ∃ schemas, (library.compile Settings.standard).outcome = .ok schemas := by
    rw [← errorOf_eq_none, compile_fault_sites]
    decide +kernel
  obtain ⟨others, otherwise⟩ := compiles.mp sound
  obtain ⟨schemas, compiled⟩ := sound
  obtain ⟨_, _, enums, _, views⟩ := rows schemas others compiled otherwise
  exact ⟨schemas, others, compiled, otherwise, enums, fun view => (views view).2⟩

end Datamodel
end ModelViews
