import ModelViews.Files.Publication
import ModelViews.Proofs.Trees

namespace ModelViews.Published

variable {tree : Tree} {output : Path}

def IsFlat (name : String) : Prop := '/' ∉ name.toList

instance (name : String) : Decidable (IsFlat name) := inferInstanceAs (Decidable (¬ _))

private theorem anchor_flat {text : List Char} (flat : '/' ∉ text) :
    Anchor.ofText text = .current := by
  cases text with
  | nil => rfl
  | cons first rest =>
      have apart : first ≠ '/' := fun same => flat (by simp [same])
      unfold Anchor.ofText
      split
      · next same => exact absurd (List.cons.inj same).1 apart
      · next same => exact absurd (List.cons.inj same).1 apart
      · next same => exact absurd (List.cons.inj same).1 apart
      · rfl

private theorem pieces_flat {text : String} (flat : IsFlat text) :
    Text.pieces '/' text = [text] := by
  rw [Text.pieces, List.splitOn_eq_splitOnP, List.splitOnP_eq_singleton]
  · simp
  · intro c member
    exact beq_eq_false_iff_ne.mpr fun same => flat (same ▸ member)

theorem module_ne (name : String) {short : String} (brief : short.toList.getLast? ≠ some 's') :
    name ++ ".ts" ≠ short := by
  rintro rfl
  exact brief (by simp)

theorem modulePath_flat (output : Path) {name : String} (flat : IsFlat name) :
    modulePath output name = ⟨output.anchor, output.names ++ [name ++ ".ts"]⟩ := by
  have flatModule : IsFlat (name ++ ".ts") := by
    rw [IsFlat, String.toList_append, List.mem_append, not_or]
    exact ⟨flat, by decide⟩
  have kept : Path.ofText (name ++ ".ts") = ⟨.current, [name ++ ".ts"]⟩ := by
    rw [Path.ofText, anchor_flat flatModule, pieces_flat flatModule]
    simp [module_ne name (by decide : "".toList.getLast? ≠ some 's'),
      module_ne name (by decide : ".".toList.getLast? ≠ some 's')]
  rw [modulePath, kept]
  rfl

theorem resolve_modulePath (output : Path) {name : String} (flat : IsFlat name) (current : Place) :
    (modulePath output name).resolve current = output.resolve current ++ [name ++ ".ts"] := by
  rw [modulePath_flat output flat, Path.resolve, List.foldl_append]
  simp [module_ne name (by decide : "..".toList.getLast? ≠ some 's')]
  rfl

theorem modulePath_inj (output : Path) {first second : String} (firstFlat : IsFlat first)
    (secondFlat : IsFlat second) (same : modulePath output first = modulePath output second) :
    first = second := by
  rw [modulePath_flat output firstFlat, modulePath_flat output secondFlat, Path.mk.injEq] at same
  have last := (List.cons.inj (List.append_cancel_left same.2)).1
  rw [← String.toList_inj, String.toList_append, String.toList_append] at last
  exact String.toList_inj.mp (List.append_cancel_right last)

private theorem writeAll_ok {files : List (Path × String)} {paths : List Path}
    (wrote : (writeAll tree files).outcome = .ok paths) :
    paths = files.map Prod.fst ∧
      (writeAll tree files).tree = tree.putFiles (files.map fun (path, text) =>
        (path.resolve tree.current, Text.Utf8.encode text)) ∧
      ∀ path ∈ paths, path.resolve tree.current ≠ [] := by
  induction files generalizing tree paths with
  | nil =>
      simp only [writeAll, Except.ok.injEq] at wrote
      simp [← wrote, writeAll, Tree.putFiles]
  | cons file rest ih =>
      obtain ⟨path, text⟩ := file
      rw [writeAll] at wrote ⊢
      cases first : tree.write path (Text.Utf8.encode text) with
      | error error => simp [first] at wrote
      | ok next =>
          simp only [first] at wrote ⊢
          obtain ⟨put, named⟩ := Tree.write_ok first
          cases others : (writeAll next rest).outcome with
          | error error => simp [others, Except.map] at wrote
          | ok written =>
              obtain ⟨listed, left, below⟩ := ih others
              have current : next.current = tree.current := by rw [put]; rfl
              simp only [others, Except.map, Except.ok.injEq] at wrote
              rw [current] at left below
              refine ⟨by rw [← wrote, listed, List.map_cons], ?_, ?_⟩
              · rw [left, put, List.map_cons, Tree.putFiles_cons]
              · rw [← wrote, List.forall_mem_cons]
                exact ⟨named, below⟩

theorem fill_ok {files : List (String × String)} {paths : List Path}
    (filled : (fill tree output files).outcome = .ok paths) :
    paths = (files.map Prod.fst ++ ["index"]).map (modulePath output) ∧
      (fill tree output files).tree = tree.putFiles
        ((files ++ [("index", barrelText (files.map Prod.fst))]).map fun (name, text) =>
          ((modulePath output name).resolve tree.current, Text.Utf8.encode text)) ∧
      ∀ path ∈ paths, path.resolve tree.current ≠ [] := by
  rw [fill] at filled ⊢
  cases modules : (writeAll tree (files.map fun (name, text) =>
      (modulePath output name, text))).outcome with
  | error error => simp [modules] at filled
  | ok written =>
      obtain ⟨listed, left, below⟩ := writeAll_ok modules
      simp only [modules] at filled ⊢
      split at filled
      · cases filled
      · next barrel wrote =>
          obtain ⟨put, named⟩ := Tree.write_ok wrote
          rw [left] at put named
          simp only [Except.ok.injEq] at filled
          rw [Tree.putFiles_current] at put named
          refine ⟨?_, ?_, ?_⟩
          · rw [← filled, listed]
            simp
          · rw [put, List.map_append, Tree.putFiles_append, List.map_map]
            rfl
          · rw [← filled, List.forall_mem_append]
            exact ⟨below, by simpa using named⟩

theorem vacate_ok {left : Tree} (vacated : vacate tree output = (left, none)) :
    left = tree ∧ (output.hasNul = true ∨ ∀ place, tree.find output ≠ .ok place) ∨
      tree.remove output = (left, none) := by
  rw [vacate, Tree.holds] at vacated
  by_cases nul : output.hasNul
  · rw [if_pos nul] at vacated
    exact .inl ⟨(Prod.mk.inj vacated).1.symm, .inl nul⟩
  · rw [if_neg nul] at vacated
    cases found : tree.find output with
    | ok place =>
        simp only [found] at vacated
        exact .inr vacated
    | error flaw =>
        refine .inl ⟨?_, .inr fun place => by simp⟩
        cases flaw with
        | nameTooLong => simp [found] at vacated
        | _ =>
            simp only [found] at vacated
            exact (Prod.mk.inj vacated).1.symm

structure IsReady (old ready : Tree) (output : Path) : Prop where
  current : ready.current = old.current
  file : ∀ name bytes,
    ready.node? (output.resolve old.current ++ [name]) = some (.file bytes) ↔
      (∀ place, old.find output ≠ .ok place) ∧
        old.node? (output.resolve old.current ++ [name]) = some (.file bytes)

private theorem ready_of_made {left ready : Tree} (vacated : vacate tree output = (left, none))
    (made : left.makeFolders output = (ready, none)) : IsReady tree ready output := by
  have adds : Tree.AddsFolders left (left.makeFolders output).1 := Tree.makeFolders_adds output
  rw [made] at adds
  rcases vacate_ok vacated with ⟨rfl, nowhere⟩ | removed
  · refine ⟨adds.current, ?_⟩
    intro name bytes
    -- A path with a character that no name may hold leads nowhere either, since no folder is made.
    have lost : ∀ place, left.find output ≠ .ok place := by
      rcases nowhere with nul | lost
      · rw [Tree.makeFolders, if_pos nul] at made
        cases made
      · exact lost
    rw [adds.file]
    exact ⟨fun present => ⟨lost, present⟩, And.right⟩
  · obtain ⟨found, _, _, same⟩ := Tree.remove_eq_ok.mp removed
    refine ⟨?_, ?_⟩
    · rw [adds.current, same]
      rfl
    · intro name bytes
      rw [adds.file, Tree.node_removed removed]
      simp [found]

theorem publish_made {schemas : Schemas} {settings : Settings} {left ready : Tree}
    (vacated : vacate tree settings.output = (left, none))
    (made : left.makeFolders settings.output = (ready, none)) :
    schemas.publish settings tree = fill ready settings.output (schemas.files settings) := by
  rw [Schemas.publish, vacated]
  dsimp only
  rw [made]

/-- A run that publishes takes the output folder away, makes it again, and fills it. -/
theorem publish_eq_ok {schemas : Schemas} {settings : Settings} {paths : List Path} :
    (schemas.publish settings tree).outcome = .ok paths ↔
      ∃ left ready, vacate tree settings.output = (left, none) ∧
        left.makeFolders settings.output = (ready, none) ∧
        (fill ready settings.output (schemas.files settings)).outcome = .ok paths ∧
        (schemas.publish settings tree).tree =
          (fill ready settings.output (schemas.files settings)).tree := by
  rw [Schemas.publish]
  rcases vacated : vacate tree settings.output with ⟨left, _ | error⟩
  · rcases made : left.makeFolders settings.output with ⟨ready, _ | error⟩
    · simp [made]
    · simp [made]
  · simp

theorem publish_ok {schemas : Schemas} {settings : Settings} {paths : List Path}
    (published : (schemas.publish settings tree).outcome = .ok paths) :
    ∃ ready, IsReady tree ready settings.output ∧
      paths =
        ((schemas.files settings).map Prod.fst ++ ["index"]).map (modulePath settings.output) ∧
      (schemas.publish settings tree).tree = ready.putFiles
        ((schemas.files settings ++
          [("index", barrelText ((schemas.files settings).map Prod.fst))]).map fun (name, text) =>
            ((modulePath settings.output name).resolve tree.current, Text.Utf8.encode text)) ∧
      ∀ path ∈ paths, path.resolve tree.current ≠ [] := by
  obtain ⟨left, ready, vacated, made, filled, same⟩ := publish_eq_ok.mp published
  have isReady := ready_of_made vacated made
  obtain ⟨listed, put, below⟩ := fill_ok filled
  rw [isReady.current] at put below
  exact ⟨ready, isReady, listed, same.trans put, below⟩

end ModelViews.Published
