import Mathlib.Data.List.Nodup
import ModelViews.Proofs.Contributions
import ModelViews.SourceModule

namespace ModelViews

namespace View

private theorem all_nodup : all.Nodup := by decide

private theorem name_suffix {short long : View} (ends : short.name.toList <:+ long.name.toList) :
    short = long ∨ long.name = "Relations" ++ short.name ∧
      (long = relationsCreate ∨ long = relationsUpdate) := by
  have each : ∀ short ∈ all, ∀ long ∈ all, short.name.toList <:+ long.name.toList →
      short = long ∨ long.name = "Relations" ++ short.name ∧
        (long = relationsCreate ∨ long = relationsUpdate) := by
    decide +kernel
  exact each short (mem_all short) long (mem_all long) ends

private theorem barrel_no_suffix (view : View) : ¬ view.name.toList <:+ "index".toList := by
  have each : ∀ view ∈ all, ¬ view.name.toList <:+ "index".toList := by decide +kernel
  exact each view (mem_all view)

theorem ofName_name (view : View) : ofName? view.name = some view := by
  have each : ∀ view ∈ all, ofName? view.name = some view := by decide +kernel
  exact each view (mem_all view)

variable {context : Context} {model : Model} {field : Field}

private theorem relations_entry {view : View}
    (writes : view = relationsCreate ∨ view = relationsUpdate)
    {entry : Entry} (given : view.entryOf? context model field = some entry) :
    (relations.entryOf? context model field).isSome := by
  obtain ⟨doc, documented, shown, admitted, _⟩ :=
    (view.entryOf_eq_some context model field).mp given
  have relates : relations.admits context model field doc = true := by
    rcases writes with rfl | rfl
    · exact (Bool.and_eq_true_iff.mp admitted).2
    · exact (Bool.and_eq_true_iff.mp admitted).2
  exact Option.isSome_iff_exists.mpr ⟨_, (relations.entryOf_eq_some context model field).mpr
    ⟨doc, documented, shown, relates, rfl⟩⟩

theorem relations_contributions {view : View}
    (writes : view = relationsCreate ∨ view = relationsUpdate)
    (none : relations.contributions context model = []) :
    view.contributions context model = [] := by
  rw [contributions, List.filterMap_eq_nil_iff] at none ⊢
  intro field present
  cases given : view.entryOf? context model field with
  | none => rfl
  | some entry =>
      have read := relations_entry writes given
      rw [Option.map_eq_none_iff.mp (none field present)] at read
      cases read

end View

namespace SourceModule

private theorem viewName_left {first second : String} {view : View}
    (same : viewName first view = viewName second view) : first = second := by
  rw [viewName, viewName, ← String.toList_inj, String.toList_append, String.toList_append] at same
  exact String.toList_inj.mp (List.append_cancel_right same)

private theorem viewName_suffix (model : String) (view : View) :
    view.name.toList <:+ (viewName model view).toList := by
  rw [viewName, String.toList_append]
  exact List.suffix_append _ _

private theorem viewName_ne_barrel (model : String) (view : View) :
    viewName model view ≠ "index" := by
  intro same
  exact view.barrel_no_suffix (same ▸ viewName_suffix model view)

private theorem viewName_clash {first second : String} {left right : View}
    (same : viewName first left = viewName second right) (apart : left ≠ right) :
    first = viewName second .relations ∧ (right = .relationsCreate ∨ right = .relationsUpdate) ∨
      second = viewName first .relations ∧ (left = .relationsCreate ∨ left = .relationsUpdate) := by
  have leftEnds := viewName_suffix first left
  have rightEnds := viewName_suffix second right
  rw [← same] at rightEnds
  have longer (model : String) {short long : View} (named : long.name = "Relations" ++ short.name) :
      viewName model long = viewName (viewName model .relations) short := by
    rw [viewName, viewName, viewName, named, String.append_assoc]
    rfl
  rcases List.suffix_or_suffix_of_suffix leftEnds rightEnds with ends | ends
  · rcases View.name_suffix ends with equal | ⟨named, writes⟩
    · exact absurd equal apart
    · rw [longer second named] at same
      exact .inl ⟨viewName_left same, writes⟩
  · rcases View.name_suffix ends with equal | ⟨named, writes⟩
    · exact absurd equal.symm apart
    · rw [longer first named] at same
      exact .inr ⟨(viewName_left same).symm, writes⟩

end SourceModule

namespace Schemas

/-- The names of the files of a run without their ending: those of all modules, then the barrel. -/
def fileNames (schemas : Schemas) : List String :=
  schemas.rendered.map SourceModule.name ++ ["index"]

/-- The names that are taken over from the data model: of enums, and of models with a plain view. -/
def takenNames (schemas : Schemas) : List String :=
  schemas.enums.map CompiledEnum.name ++ (schemas.rowsOf .plain).map Row.model

def viewNames (schemas : Schemas) (view : View) : List String :=
  (schemas.rowsOf view).map fun row => SourceModule.viewName row.model view

/-- No enum and no model is named like the barrel or like a module of a view. -/
def ClashFree (schemas : Schemas) : Prop :=
  ∀ name ∈ schemas.takenNames, name ≠ "index" ∧
    ∀ view, ∀ row ∈ schemas.rowsOf view, name ≠ SourceModule.viewName row.model view

structure WellNamed (schemas : Schemas) : Prop where
  taken : schemas.takenNames.Nodup
  rows : ∀ view, ((schemas.rowsOf view).map Row.model).Nodup
  plain : ∀ view, ∀ row ∈ schemas.rowsOf view,
    ∃ shown ∈ schemas.rowsOf .plain, shown.model = row.model
  relations : ∀ view, view = .relationsCreate ∨ view = .relationsUpdate →
    ∀ row ∈ schemas.rowsOf view, ∃ related ∈ schemas.rowsOf .relations, related.model = row.model

variable {schemas : Schemas}

private theorem mem_takenNames_of_row {view : View} {row : Row} (named : schemas.WellNamed)
    (member : row ∈ schemas.rowsOf view) : row.model ∈ schemas.takenNames := by
  obtain ⟨shown, present, same⟩ := named.plain view row member
  exact List.mem_append_right _ (List.mem_map.mpr ⟨shown, present, same⟩)

theorem fileNames_perm (schemas : Schemas) :
    schemas.fileNames.Perm
      (schemas.takenNames ++ (View.all.flatMap schemas.viewNames ++ ["index"])) := by
  have ofViews (view : View) : (schemas.viewModules view).map SourceModule.name =
      schemas.viewNames view ++
        if view = .plain then (schemas.rowsOf .plain).map Row.model else [] := by
    rw [viewModules, List.map_append, List.map_map]
    by_cases plain : view = .plain
    · rw [if_pos plain, if_pos plain, List.map_map]
      rfl
    · rw [if_neg plain, if_neg plain]
      rfl
  have names : schemas.rendered.map SourceModule.name =
      schemas.enums.map CompiledEnum.name ++ (schemas.viewNames .plain ++
        ((schemas.rowsOf .plain).map Row.model ++ View.all.tail.flatMap schemas.viewNames)) := by
    rw [rendered, List.map_append, List.map_map, List.map_flatMap]
    simp only [ofViews, View.all, List.flatMap_cons, List.flatMap_nil, List.tail_cons, reduceCtorEq,
      ↓reduceIte, List.append_nil, List.append_assoc]
    rfl
  have views : View.all.flatMap schemas.viewNames =
      schemas.viewNames .plain ++ View.all.tail.flatMap schemas.viewNames := rfl
  rw [fileNames, names, takenNames, views]
  simp only [List.append_assoc]
  exact (List.perm_append_comm_assoc _ _ _).append_left _

private theorem viewNames_nodup (named : schemas.WellNamed) (view : View) :
    (schemas.viewNames view).Nodup := by
  rw [viewNames, List.Nodup, List.pairwise_map]
  refine (List.pairwise_map.mp (named.rows view)).imp ?_
  intro first second apart same
  exact apart (SourceModule.viewName_left same)

private theorem viewNames_apart (named : schemas.WellNamed) (free : schemas.ClashFree)
    {left right : View}
    (apart : left ≠ right) : List.Disjoint (schemas.viewNames left) (schemas.viewNames right) := by
  -- A model that is named like the relations of another clashes with them already by its combined
  -- module, so that the views of the two need not be looked at.
  have excluded {other view : View} {row related : Row} (member : row ∈ schemas.rowsOf other)
      (writes : view = .relationsCreate ∨ view = .relationsUpdate)
      (present : related ∈ schemas.rowsOf view) :
      row.model ≠ SourceModule.viewName related.model .relations := by
    obtain ⟨reads, shown, same⟩ := named.relations view writes related present
    rw [← same]
    exact (free row.model (mem_takenNames_of_row named member)).2 .relations reads shown
  intro name inLeft inRight
  obtain ⟨first, firstRow, rfl⟩ := List.mem_map.mp inLeft
  obtain ⟨second, secondRow, same⟩ := List.mem_map.mp inRight
  rcases SourceModule.viewName_clash same.symm apart with ⟨clash, writes⟩ | ⟨clash, writes⟩
  · exact excluded firstRow writes secondRow clash
  · exact excluded secondRow writes firstRow clash

/-- The files of a run have distinct names exactly if no name that is taken over clashes. -/
theorem fileNames_nodup_iff (named : schemas.WellNamed) :
    schemas.fileNames.Nodup ↔ schemas.ClashFree := by
  rw [schemas.fileNames_perm.nodup_iff, List.nodup_append', List.disjoint_append_right]
  constructor
  · rintro ⟨_, _, views, barrel⟩ name member
    refine ⟨fun same => barrel member (by simp [same]), ?_⟩
    intro view row shown same
    exact views member (List.mem_flatMap.mpr
      ⟨view, view.mem_all, List.mem_map.mpr ⟨row, shown, same.symm⟩⟩)
  · intro free
    refine ⟨named.taken, ?_, ?_, ?_⟩
    · rw [List.nodup_append']
      refine ⟨List.nodup_flatMap.mpr ⟨fun view _ => viewNames_nodup named view, ?_⟩, by simp, ?_⟩
      · exact View.all_nodup.imp fun apart => viewNames_apart named free apart
      · intro name member barrel
        obtain ⟨view, _, inView⟩ := List.mem_flatMap.mp member
        obtain ⟨row, _, rfl⟩ := List.mem_map.mp inView
        exact SourceModule.viewName_ne_barrel _ _ (List.mem_singleton.mp barrel)
    · intro name member inViews
      obtain ⟨view, _, inView⟩ := List.mem_flatMap.mp inViews
      obtain ⟨row, shown, same⟩ := List.mem_map.mp inView
      exact (free name member).2 view row shown same.symm
    · intro name member barrel
      exact (free name member).1 (List.mem_singleton.mp barrel)

end Schemas
end ModelViews
