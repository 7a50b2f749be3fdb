import Mathlib.Data.List.Perm.Subperm
import ModelViews.Proofs.Faults
import ModelViews.Proofs.ModuleNames
import ModelViews.Proofs.WholeTrees
import ModelViews.Text.NameChar

namespace ModelViews

/-- Whether a text is a name: a head, then parts. -/
def Text.isIdentifier (text : String) : Bool :=
  match text.toList with
  | [] => false
  | head :: rest => Text.isNameHead head && rest.all Text.isNamePart

theorem Text.not_mem_of_identifier {name : String} {c : Char} (noHead : isNameHead c = false)
    (noPart : isNamePart c = false) (identifies : isIdentifier name = true) : c ∉ name.toList := by
  rw [isIdentifier] at identifies
  intro member
  split at identifies
  · cases identifies
  · next head rest text =>
      rw [Bool.and_eq_true, List.all_eq_true] at identifies
      rw [text, List.mem_cons] at member
      rcases member with rfl | inRest
      · rw [noHead] at identifies
        cases identifies.1
      · have part := identifies.2 _ inRest
        rw [noPart] at part
        cases part

private theorem identifier_flat {name : String} (identifies : Text.isIdentifier name = true) :
    Published.IsFlat name :=
  Text.not_mem_of_identifier (by decide +kernel) (by decide +kernel) identifies

namespace Datamodel

def declaredNames (datamodel : Datamodel) : List String :=
  datamodel.enums.map EnumType.name ++ datamodel.models.map Model.name

variable {datamodel : Datamodel} {settings : Settings} {schemas : Schemas}

private theorem compiled_enums (compiled : (datamodel.compile settings).outcome = .ok schemas) :
    schemas.enums.map CompiledEnum.name = datamodel.enums.map EnumType.name := by
  rw [compile_ok datamodel settings compiled]
  change (datamodel.enums.map CompiledEnum.ofEnum).map CompiledEnum.name = _
  rw [List.map_map]
  rfl

private theorem compiled_rows_sublist
    (compiled : (datamodel.compile settings).outcome = .ok schemas)
    (view : View) :
    ((schemas.rowsOf view).map Row.model).Sublist (datamodel.models.map Model.name) := by
  rw [rowsOf_compile datamodel settings compiled]
  induction datamodel.models with
  | nil => exact .slnil
  | cons model rest ih =>
      rw [List.filterMap_cons, List.map_cons]
      cases made : view.rowOf? (datamodel.context settings) model with
      | none => exact ih.cons _
      | some row =>
          obtain ⟨doc, _, _, _, same⟩ := (View.rowOf_eq_some view _ model).mp made
          rw [List.map_cons, same]
          exact ih.cons_cons model.name

private theorem compiled_row_other (compiled : (datamodel.compile settings).outcome = .ok schemas)
    {view other : View} {row : Row} (member : row ∈ schemas.rowsOf view)
    (keeps : ∀ model, view.contributions (datamodel.context settings) model ≠ [] ∨
      view.keepsEmpty = true → other.contributions (datamodel.context settings) model = [] →
      other.keepsEmpty = true) :
    ∃ found ∈ schemas.rowsOf other, found.model = row.model := by
  simp only [mem_rowsOf datamodel settings compiled] at member ⊢
  obtain ⟨model, present, made⟩ := member
  obtain ⟨doc, documented, shown, needs, same⟩ := (View.rowOf_eq_some view _ model).mp made
  have entries := keeps model (Decidable.not_or_of_imp needs)
  refine ⟨_, ⟨model, present, (View.rowOf_eq_some other _ model).mpr
    ⟨doc, documented, shown, entries, rfl⟩⟩, ?_⟩
  rw [same]

private theorem compiled_wellNamed (compiled : (datamodel.compile settings).outcome = .ok schemas)
    (distinct : datamodel.declaredNames.Nodup) : schemas.WellNamed := by
  refine ⟨?_, ?_, ?_, ?_⟩
  · rw [Schemas.takenNames, compiled_enums compiled]
    exact distinct.sublist ((compiled_rows_sublist compiled .plain).append_left _)
  · intro view
    exact (List.nodup_append.mp distinct).2.1.sublist (compiled_rows_sublist compiled view)
  · intro view row member
    exact compiled_row_other compiled member fun _ _ _ => rfl
  · intro view writes row member
    apply compiled_row_other compiled member
    intro model has none
    rcases has with some | keeps
    · exact absurd (View.relations_contributions writes none) some
    · rcases writes with rfl | rfl <;> cases keeps

private theorem compiled_fileNames_flat
    (compiled : (datamodel.compile settings).outcome = .ok schemas)
    (identifiers : ∀ name ∈ datamodel.declaredNames, Text.isIdentifier name = true) :
    ∀ name ∈ schemas.fileNames, Published.IsFlat name := by
  have ofModel {view : View} {row : Row} (member : row ∈ schemas.rowsOf view) :
      Published.IsFlat row.model :=
    identifier_flat (identifiers _ (List.mem_append_right _
      ((compiled_rows_sublist compiled view).subset (List.mem_map_of_mem member))))
  intro name member
  rw [schemas.fileNames_perm.mem_iff, Schemas.takenNames, compiled_enums compiled] at member
  simp only [List.mem_append, List.mem_flatMap, List.mem_singleton] at member
  rcases member with (enum | model) | ⟨view, _, exported⟩ | rfl
  · exact identifier_flat (identifiers _ (List.mem_append_left _ enum))
  · obtain ⟨row, shown, rfl⟩ := List.mem_map.mp model
    exact ofModel shown
  · obtain ⟨row, shown, rfl⟩ := List.mem_map.mp exported
    have viewFlat : ∀ view ∈ View.all, Published.IsFlat view.name := by decide +kernel
    rw [Published.IsFlat, SourceModule.viewName, String.toList_append, List.mem_append, not_or]
    exact ⟨ofModel shown, viewFlat view view.mem_all⟩
  · decide

end Datamodel

namespace Schemas

variable {schemas : Schemas} {settings : Settings}

private theorem modules_names (distinct : schemas.fileNames.Nodup) :
    schemas.modules = schemas.rendered.map fun source => (source.name, source) := by
  apply Keyed.ofPairs_distinct
  rw [List.map_map]
  exact (List.nodup_append.mp distinct).1

private theorem files_names (distinct : schemas.fileNames.Nodup) :
    (schemas.files settings).map Prod.fst = schemas.rendered.map SourceModule.name := by
  rw [files, modules_names distinct, List.map_map, List.map_map]
  rfl

private theorem files_lookup (distinct : schemas.fileNames.Nodup) {source : SourceModule}
    (member : source ∈ schemas.rendered) :
    (schemas.files settings).lookup source.name = some (source.text settings.importName) := by
  rw [Keyed.lookup_eq_some (files_names distinct ▸ (List.nodup_append.mp distinct).1)]
  rw [files, modules_names distinct, List.map_map]
  exact List.mem_map.mpr ⟨source, member, rfl⟩

theorem mem_rendered_of_row {view : View} {row : Row} (member : row ∈ schemas.rowsOf view) :
    .ofRow view row ∈ schemas.rendered := by
  refine List.mem_append_right _ (List.mem_flatMap.mpr ⟨view, view.mem_all, ?_⟩)
  exact List.mem_append_left _ (List.mem_map_of_mem member)

private theorem row_of_get {model expression : String} {view : View}
    (got : schemas.get model view.name = .ok (some expression)) :
    ⟨model, expression⟩ ∈ schemas.rowsOf view := by
  rw [get, View.ofName_name] at got
  simp only [Except.ok.injEq, expression?] at got
  obtain ⟨row, found, same⟩ := Option.map_eq_some_iff.mp got
  have named : row.model = model := by simpa using List.find?_some found
  have member := List.mem_of_find?_eq_some found
  rwa [← named, ← same]

end Schemas

private theorem length_eq_iff {α : Type} {found written : List α} {extra : α → Prop}
    (foundOnce : found.Nodup) (writtenOnce : written.Nodup)
    (made : ∀ item, item ∈ found ↔ item ∈ written ∨ extra item) :
    found.length = written.length ↔ ∀ item, extra item → item ∈ written := by
  constructor
  · intro equal item other
    have within : written.Subperm found :=
      List.subperm_of_subset writtenOnce fun item member => (made item).mpr (.inl member)
    have same := within.perm_of_length_le (Nat.le_of_eq equal)
    exact same.mem_iff.mpr ((made item).mpr (.inr other))
  · intro covered
    refine (List.Perm.length_eq ?_)
    rw [List.perm_ext_iff_of_nodup foundOnce writtenOnce]
    intro item
    rw [made item]
    exact ⟨fun either => either.elim id (covered item), .inl⟩

namespace Published

/-- The files in the output folder after a run: those of the run, and those that were there if the
path of the folder led nowhere. -/
theorem publish_files {schemas : Schemas} {settings : Settings} {tree : DistinctTree}
    {paths : List Path} (flat : ∀ name ∈ (schemas.files settings).map Prod.fst, IsFlat name)
    (published : (schemas.publish settings tree.toTree).outcome = .ok paths) (name : String) :
    name ∈ (tree.publish schemas settings).filesIn (settings.output.resolve tree.current) ↔
      name ∈ ((schemas.files settings).map Prod.fst ++ ["index"]).map (· ++ ".ts") ∨
        (∀ place, tree.find settings.output ≠ .ok place) ∧
          name ∈ tree.filesIn (settings.output.resolve tree.current) := by
  obtain ⟨ready, isReady, listed, left, below⟩ := publish_ok published
  let sources := schemas.files settings ++
    [("index", barrelText ((schemas.files settings).map Prod.fst))]
  have sourceNames : sources.map Prod.fst = (schemas.files settings).map Prod.fst ++ ["index"] := by
    rw [List.map_append]
    rfl
  have flatSources : ∀ source ∈ sources, IsFlat source.1 := by
    intro source member
    have named : source.1 ∈ (schemas.files settings).map Prod.fst ++ ["index"] :=
      sourceNames ▸ List.mem_map_of_mem member
    rcases List.mem_append.mp named with ofFile | ofBarrel
    · exact flat _ ofFile
    · rw [List.mem_singleton.mp ofBarrel]
      decide
  let placed (source : String × String) : Place × List UInt8 :=
    ((modulePath settings.output source.1).resolve tree.current, Text.Utf8.encode source.2)
  have inFolder : ∀ source ∈ sources, (placed source).1 =
      settings.output.resolve tree.current ++ [source.1 ++ ".ts"] :=
    fun source member => resolve_modulePath settings.output (flatSources source member) tree.current
  have named : ∀ file ∈ sources.map placed, file.1 ≠ [] := by
    intro file member
    obtain ⟨source, present, rfl⟩ := List.mem_map.mp member
    rw [inFolder source present]
    simp
  have leaves : (tree.publish schemas settings).toTree = ready.putFiles (sources.map placed) := left
  rw [DistinctTree.mem_filesIn, tree.mem_filesIn, leaves, Tree.putFiles_file named, ← sourceNames]
  simp only [isReady.file, exists_and_left]
  refine or_congr ?_ Iff.rfl
  simp only [List.mem_map, exists_exists_and_eq_and]
  constructor
  · rintro ⟨source, present, same⟩
    rw [inFolder source present] at same
    exact ⟨source, present, (List.cons.inj (List.append_cancel_left same)).1⟩
  · rintro ⟨source, present, rfl⟩
    exact ⟨source, present, inFolder source present⟩

end Published

/-- As many files are in the output folder as were written, save where other files were in it and
its path led nowhere. -/
theorem published_count {schemas : Schemas} {settings : Settings} {tree : DistinctTree}
    {paths : List Path} (namesOnce : schemas.fileNames.Nodup)
    (flat : ∀ name ∈ schemas.fileNames, Published.IsFlat name)
    (published : (schemas.publish settings tree.toTree).outcome = .ok paths) :
    let folder := settings.output.resolve tree.current
    ((tree.publish schemas settings).filesIn folder).length = paths.length ↔
      (∃ place, tree.find settings.output = .ok place) ∨
        ∀ name ∈ tree.filesIn folder, name ∈ schemas.fileNames.map (· ++ ".ts") := by
  intro folder
  have written : (schemas.files settings).map Prod.fst ++ ["index"] = schemas.fileNames := by
    rw [Schemas.files_names namesOnce, Schemas.fileNames]
  have flatFiles : ∀ name ∈ (schemas.files settings).map Prod.fst, Published.IsFlat name :=
    fun name member => flat name (written ▸ List.mem_append_left _ member)
  obtain ⟨_, _, listed, _⟩ := Published.publish_ok published
  have filesOnce := (tree.publish schemas settings).filesIn_nodup folder
  have endingsOnce : (schemas.fileNames.map (· ++ ".ts")).Nodup := by
    refine namesOnce.map fun first second same => ?_
    rw [← String.toList_inj, String.toList_append, String.toList_append] at same
    exact String.toList_inj.mp (List.append_cancel_right same)
  have made := Published.publish_files flatFiles published
  rw [written] at made
  have count : paths.length = (schemas.fileNames.map (· ++ ".ts")).length := by
    rw [listed, written, List.length_map, List.length_map]
  -- All that was written is there once, so that the counts differ by what outlived the run.
  rw [count, length_eq_iff filesOnce endingsOnce made]
  by_cases leads : ∃ place, tree.find settings.output = .ok place
  · obtain ⟨place, found⟩ := leads
    exact ⟨fun _ => .inl ⟨place, found⟩, fun _ name extra => absurd found (extra.1 place)⟩
  · have nowhere : ∀ place, tree.find settings.output ≠ .ok place :=
      fun place found => leads ⟨place, found⟩
    rw [or_iff_right leads]
    exact ⟨fun covered name member => covered name ⟨nowhere, member⟩,
      fun covered name extra => covered name extra.2⟩

namespace Datamodel

variable {datamodel : Datamodel} {settings : Settings} {schemas : Schemas}

/-- A run keeps all its modules exactly if its names do not clash: they go to different files, and
each is found under its name. Then the output folder holds as many files as were written, save where
other files were in it and its path led nowhere. -/
theorem modules_kept_iff (compiled : (datamodel.compile settings).outcome = .ok schemas)
    (identifiers : ∀ name ∈ datamodel.declaredNames, Text.isIdentifier name = true)
    (distinct : datamodel.declaredNames.Nodup) :
    ((schemas.fileNames.map (Published.modulePath settings.output)).Nodup ∧
      (∀ model view expression, schemas.get model view.name = .ok (some expression) →
        (schemas.files settings).lookup (model ++ view.name) =
          some ((SourceModule.ofRow view ⟨model, expression⟩).text settings.importName)) ∧
      (∀ enum ∈ schemas.enums, (schemas.files settings).lookup enum.name =
        some ((SourceModule.ofEnum enum).text settings.importName)) ∧
      (∀ row ∈ schemas.rowsOf .plain, (schemas.files settings).lookup row.model =
        some ((SourceModule.combined row.model (schemas.hasRelations row.model)).text
          settings.importName)) ↔
      schemas.ClashFree) ∧
    (schemas.ClashFree → ∀ (tree : DistinctTree) paths,
      (schemas.publish settings tree.toTree).outcome = .ok paths →
      let folder := settings.output.resolve tree.current
      (((schemas.publish settings tree.toTree).tree.filesIn folder).length = paths.length ↔
        (∃ place, tree.find settings.output = .ok place) ∨
          ∀ name ∈ tree.filesIn folder, name ∈ schemas.fileNames.map (· ++ ".ts"))) := by
  have wellNamed := compiled_wellNamed compiled distinct
  have flat := compiled_fileNames_flat compiled identifiers
  have paths_nodup : (schemas.fileNames.map (Published.modulePath settings.output)).Nodup ↔
      schemas.ClashFree := by
    rw [← Schemas.fileNames_nodup_iff wellNamed]
    constructor
    · exact List.Nodup.of_map _
    · intro namesOnce
      exact namesOnce.map_on fun first inFirst second inSecond =>
        Published.modulePath_inj settings.output (flat first inFirst) (flat second inSecond)
  refine ⟨⟨fun kept => paths_nodup.mp kept.1, ?_⟩, ?_⟩
  · intro free
    have namesOnce := (Schemas.fileNames_nodup_iff wellNamed).mpr free
    refine ⟨paths_nodup.mpr free, ?_, ?_, ?_⟩
    · intro model view expression got
      exact Schemas.files_lookup namesOnce (Schemas.mem_rendered_of_row (Schemas.row_of_get got))
    · intro enum member
      exact Schemas.files_lookup namesOnce (List.mem_append_left _ (List.mem_map_of_mem member))
    · intro row member
      have combined : .combined row.model (schemas.hasRelations row.model) ∈
          schemas.viewModules .plain :=
        List.mem_append_right _ (List.mem_map.mpr ⟨row, member, rfl⟩)
      exact Schemas.files_lookup namesOnce
        (List.mem_append_right _ (List.mem_flatMap.mpr ⟨.plain, View.plain.mem_all, combined⟩))
  · intro free tree paths published
    exact published_count ((Schemas.fileNames_nodup_iff wellNamed).mpr free) flat published

def namesakes : Datamodel where
  models := [{ name := "A" }, { name := "APlain" }]

/-- The plain view of the one model is lost to the combined module of the other. -/
theorem namesakes_lose_module :
    (∀ name ∈ namesakes.declaredNames, Text.isIdentifier name = true) ∧
      namesakes.declaredNames.Nodup ∧
      ∃ schemas expression, (namesakes.compile Settings.standard).outcome = .ok schemas ∧
        ¬ (schemas.fileNames.map (Published.modulePath Settings.standard.output)).Nodup ∧
        schemas.get "A" "Plain" = .ok (some expression) ∧
        (schemas.files Settings.standard).lookup ("A" ++ "Plain") ≠
          some ((SourceModule.ofRow .plain ⟨"A", expression⟩).text
            Settings.standard.importName) := by
  refine ⟨by decide +kernel, by decide, ?_⟩
  obtain ⟨schemas, compiled⟩ : ∃ schemas,
      (namesakes.compile Settings.standard).outcome = .ok schemas := by
    rw [← errorOf_eq_none, compile_fault_sites]
    decide +kernel
  refine ⟨schemas, "\x7b\n  \n\x7d", compiled, ?_⟩
  rw [compile_ok namesakes Settings.standard compiled]
  refine ⟨by decide +kernel, rfl, by decide +kernel⟩

def notes : Datamodel where
  models := [{ name := "Note", fields := [{ name := "mood", kind := .enum, type := "Mood" }] }]
  enums := [{ name := "Mood", values := [{ name := "CALM" }] }]

theorem notes_kept :
    let tree : Tree := ⟨[], []⟩
    ∃ schemas paths, (notes.compile Settings.standard).outcome = .ok schemas ∧
      schemas.ClashFree ∧
      (schemas.fileNames.map (Published.modulePath Settings.standard.output)).Nodup ∧
      (schemas.publish Settings.standard tree).outcome = .ok paths ∧
      ((schemas.publish Settings.standard tree).tree.filesIn
        (Settings.standard.output.resolve tree.current)).length = paths.length := by
  intro tree
  have identifiers : ∀ name ∈ notes.declaredNames, Text.isIdentifier name = true := by
    decide +kernel
  have distinct : notes.declaredNames.Nodup := by decide
  obtain ⟨schemas, compiled⟩ : ∃ schemas,
      (notes.compile Settings.standard).outcome = .ok schemas := by
    rw [← errorOf_eq_none, compile_fault_sites]
    decide +kernel
  have made := compile_ok notes Settings.standard compiled
  have free : schemas.ClashFree := by
    rw [← Schemas.fileNames_nodup_iff (compiled_wellNamed compiled distinct), made]
    decide +kernel
  obtain ⟨paths, published⟩ : ∃ paths,
      (schemas.publish Settings.standard tree).outcome = .ok paths := by
    rw [← errorOf_eq_none, made]
    decide +kernel
  obtain ⟨kept, counted⟩ := modules_kept_iff compiled identifiers distinct
  refine ⟨schemas, paths, compiled, free, (kept.mpr free).1, published, ?_⟩
  exact (counted free ⟨tree, by decide⟩ paths published).mpr (.inr (by simp [tree, Tree.filesIn]))

end Datamodel
end ModelViews
