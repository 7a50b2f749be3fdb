import Mathlib.Data.List.Nodup
import ModelViews.Proofs.Outcomes
import ModelViews.Proofs.Publishing
import ModelViews.Proofs.Ways

namespace ModelViews

def modulePlace (folder : Place) (name : String) : Place :=
  folder ++ [name ++ ".ts"]

def placed (folder : Place) (file : String × String) : Place × List UInt8 :=
  (modulePlace folder file.1, Text.Utf8.encode file.2)

private theorem modulePlace_inj {folder : Place} {first second : String} :
    modulePlace folder first = modulePlace folder second ↔ first = second := by
  constructor
  · intro same
    have last := (List.cons.inj (List.append_cancel_left same)).1
    rw [← String.toList_inj, String.toList_append, String.toList_append] at last
    exact String.toList_inj.mp (List.append_cancel_right last)
  · rintro rfl
    rfl

structure Tree.SameFolders (old new : Tree) : Prop where
  current : new.current = old.current
  folder : ∀ place, new.node? place = some .folder ↔ old.node? place = some .folder

namespace Tree.SameFolders

variable {old middle new : Tree} {path : Path}

theorem refl (tree : Tree) : SameFolders tree tree :=
  ⟨rfl, fun _ => Iff.rfl⟩

theorem trans (first : SameFolders old middle) (second : SameFolders middle new) :
    SameFolders old new :=
  ⟨second.current.trans first.current, fun place => (second.folder place).trans (first.folder place)⟩

theorem isFolder (same : SameFolders old new) (there : old.isFolder path = true) :
    new.isFolder path = true :=
  isFolder_kept (fun place => (same.folder place).mpr) same.current there

end Tree.SameFolders

private theorem Tree.write_folders {tree new : Tree} {path : Path} {bytes : List UInt8}
    (wrote : tree.write path bytes = .ok new) : tree.SameFolders new := by
  obtain ⟨_, place, slot, other, rfl⟩ := write_eq_ok.mp wrote
  refine ⟨rfl, ?_⟩
  intro folder
  rw [node_put (slot_resolve slot).2]
  by_cases here : folder = place
  · rw [if_pos here, here]
    simp [other]
  · rw [if_neg here]

def Tree.HasExactly (tree : Tree) (folder : Place) (files : List (String × String)) : Prop :=
  ∀ place, isBelow folder place = true → ∀ node, tree.node? place = some node ↔
    ∃ name text, (name, text) ∈ files ∧ place = modulePlace folder name ∧
      node = .file (Text.Utf8.encode text)

theorem Tree.HasExactly.node_eq {first second : Tree} {folder place : Place}
    {files : List (String × String)} (one : first.HasExactly folder files)
    (two : second.HasExactly folder files) (below : isBelow folder place = true) :
    first.node? place = second.node? place := by
  apply Option.ext
  intro node
  rw [one place below, two place below]

namespace Published

variable {tree new other : Tree} {output : Path} {name : String} {files : List (String × String)}

def IsFit (output : Path) (name : String) : Prop :=
  (modulePath output name).hasNul = false ∧
    ¬ Tree.longestPath < (modulePath output name).text.utf8ByteSize ∧
    ¬ Tree.longestName < (name ++ ".ts").utf8ByteSize

private theorem write_module (leads : tree.isFolder output = true) (flat : IsFlat name)
    {bytes : List UInt8} :
    tree.write (modulePath output name) bytes = .ok new ↔
      IsFit output name ∧
        tree.node? (modulePlace (output.resolve tree.current) name) ≠ some .folder ∧
        new = tree.put (modulePlace (output.resolve tree.current) name) (.file bytes) := by
  obtain ⟨_, opens, held⟩ := Tree.isFolder_iff.mp leads
  have named : name ++ ".ts" ≠ ".." :=
    module_ne name (by decide)
  have slot (place : Place) :
      tree.slot? (modulePath output name) = some (.ok place) ↔
        (¬ Tree.longestPath < (modulePath output name).text.utf8ByteSize ∧
          ¬ Tree.longestName < (name ++ ".ts").utf8ByteSize) ∧
        place = modulePlace (output.resolve tree.current) name := by
    have path := modulePath_flat output flat
    rw [Tree.slot_eq_ok]
    constructor
    · rintro ⟨above, last, split, _, brief, short, _, _, rfl⟩
      rw [path] at split
      obtain ⟨rfl, rfl⟩ := List.append_singleton_inj.mp split
      refine ⟨⟨brief, short⟩, ?_⟩
      rw [path]
      rfl
    · rintro ⟨⟨brief, short⟩, rfl⟩
      refine ⟨output.names, name ++ ".ts", by rw [path], named, brief, short, ?_⟩
      rw [path]
      exact ⟨opens, held, rfl⟩
  rw [Tree.write_eq_ok]
  simp only [slot, IsFit]
  constructor
  · rintro ⟨clean, _, ⟨fit, rfl⟩, free, rfl⟩
    exact ⟨⟨clean, fit⟩, free, rfl⟩
  · rintro ⟨⟨clean, fit⟩, free, rfl⟩
    exact ⟨clean, _, ⟨fit, rfl⟩, free, rfl⟩

private theorem writeAll_folders (tree : Tree) (files : List (Path × String)) :
    tree.SameFolders (writeAll tree files).tree := by
  induction files generalizing tree with
  | nil => exact .refl tree
  | cons file rest ih =>
      rw [writeAll]
      split
      · exact .refl tree
      · next wrote => exact (Tree.write_folders wrote).trans (ih _)

private theorem writeAll_iff (leads : tree.isFolder output = true)
    (flat : ∀ name ∈ files.map Prod.fst, IsFlat name) :
    (∃ paths, (writeAll tree (files.map fun (name, text) =>
        (modulePath output name, text))).outcome = .ok paths) ↔
      ∀ name ∈ files.map Prod.fst, IsFit output name ∧
        tree.node? (modulePlace (output.resolve tree.current) name) ≠ some .folder := by
  rw [← errorOf_eq_none]
  induction files generalizing tree with
  | nil => simp [writeAll]
  | cons file rest ih =>
      obtain ⟨name, text⟩ := file
      rw [List.map_cons, List.forall_mem_cons] at flat
      rw [List.map_cons, List.map_cons, List.forall_mem_cons, writeAll]
      cases first : tree.write (modulePath output name) (Text.Utf8.encode text) with
      | error error =>
          have unfit : ¬ (IsFit output name ∧
              tree.node? (modulePlace (output.resolve tree.current) name) ≠ some .folder) := by
            rintro ⟨fit, free⟩
            rw [(write_module leads flat.1).mpr ⟨fit, free, rfl⟩] at first
            cases first
          simp [unfit]
      | ok next =>
          have same := Tree.write_folders first
          obtain ⟨fit, free, _⟩ := (write_module leads flat.1).mp first
          rw [errorOf_map, ih (same.isFolder leads) flat.2]
          simp only [same.current, ne_eq, same.folder]
          exact (and_iff_right ⟨fit, free⟩).symm

theorem fill_folders (tree : Tree) (output : Path) (files : List (String × String)) :
    tree.SameFolders (fill tree output files).tree := by
  have modules := writeAll_folders tree (files.map fun (name, text) =>
    (modulePath output name, text))
  rw [fill]
  split
  · exact modules
  · dsimp only
    split
    · exact modules
    · next wrote => exact modules.trans (Tree.write_folders wrote)

theorem fill_iff (leads : tree.isFolder output = true)
    (flat : ∀ name ∈ files.map Prod.fst, IsFlat name) :
    (∃ paths, (fill tree output files).outcome = .ok paths) ↔
      ∀ name ∈ files.map Prod.fst ++ ["index"], IsFit output name ∧
        tree.node? (modulePlace (output.resolve tree.current) name) ≠ some .folder := by
  have modules := writeAll_folders tree (files.map fun (name, text) =>
    (modulePath output name, text))
  rw [List.forall_mem_append, ← writeAll_iff leads flat, fill]
  cases wrote : (writeAll tree (files.map fun (name, text) =>
      (modulePath output name, text))).outcome with
  | error error => simp [wrote]
  | ok paths =>
      have there := modules.isFolder leads
      have flatBarrel : IsFlat "index" := by decide
      simp only [List.forall_mem_singleton, ← modules.current, ne_eq, ← modules.folder]
      rw [and_iff_right ⟨paths, rfl⟩, ← errorOf_eq_none]
      split
      · next refused =>
          rw [errorOf_error]
          refine iff_of_false (by simp) ?_
          rintro ⟨fit, free⟩
          rw [(write_module there flatBarrel).mpr ⟨fit, free, rfl⟩] at refused
          cases refused
      · next wrote =>
          obtain ⟨fit, free, _⟩ := (write_module there flatBarrel).mp wrote
          exact iff_of_true rfl ⟨fit, free⟩

private theorem fill_files {paths : List Path} (flat : ∀ name ∈ files.map Prod.fst, IsFlat name)
    (filled : (fill tree output files).outcome = .ok paths) :
    (fill tree output files).tree =
      (tree.putFiles (files.map (placed (output.resolve tree.current)))).put
        (modulePlace (output.resolve tree.current) "index")
        (.file (Text.Utf8.encode (barrelText (files.map Prod.fst)))) := by
  have flatBarrel : IsFlat "index" := by decide
  rw [(fill_ok filled).2.1, List.map_append, Tree.putFiles_append]
  have modules : (files.map fun (name, text) =>
      ((modulePath output name).resolve tree.current, Text.Utf8.encode text)) =
        files.map (placed (output.resolve tree.current)) := by
    apply List.map_congr_left
    intro file member
    exact congrArg (·, _)
      (resolve_modulePath output (flat _ (List.mem_map_of_mem member)) tree.current)
  rw [modules]
  change Tree.put _ ((modulePath output "index").resolve tree.current) _ = _
  rw [resolve_modulePath output flatBarrel]
  rfl

private theorem placed_places (folder : Place) (files : List (String × String)) :
    (files.map (placed folder)).map Prod.fst = (files.map Prod.fst).map (modulePlace folder) := by
  rw [List.map_map, List.map_map]
  rfl

private theorem placed_named {folder : Place} :
    ∀ file ∈ files.map (placed folder), file.1 ≠ [] := by
  intro file present
  obtain ⟨_, _, rfl⟩ := List.mem_map.mp present
  simp [placed, modulePlace]

/-- Each module is in the filled folder, and the barrel, which goes before a module of its name. -/
theorem fill_mem {paths : List Path} (flat : ∀ name ∈ files.map Prod.fst, IsFlat name)
    (once : (files.map Prod.fst).Nodup)
    (filled : (fill tree output files).outcome = .ok paths) {name text : String}
    (member : (name, text) ∈ Keyed.put "index" (barrelText (files.map Prod.fst)) files) :
    (fill tree output files).tree.node? (modulePlace (output.resolve tree.current) name) =
      some (.file (Text.Utf8.encode text)) := by
  rw [Keyed.mem_put once] at member
  rw [fill_files flat filled, Tree.node_put (by simp [modulePlace])]
  simp only [modulePlace_inj]
  by_cases barrel : name = "index"
  · rw [if_pos barrel] at member ⊢
    rw [member]
  · rw [if_neg barrel] at member ⊢
    apply Tree.putFiles_mem placed_named
    · rw [placed_places]
      exact List.Nodup.map (fun _ _ => modulePlace_inj.mp) once
    · exact List.mem_map.mpr ⟨_, member, rfl⟩

private theorem fill_other {paths : List Path} (flat : ∀ name ∈ files.map Prod.fst, IsFlat name)
    (filled : (fill tree output files).outcome = .ok paths) {place : Place}
    (apart : ∀ name ∈ files.map Prod.fst ++ ["index"],
      place ≠ modulePlace (output.resolve tree.current) name) :
    (fill tree output files).tree.node? place = tree.node? place := by
  rw [fill_files flat filled, Tree.node_put (by simp [modulePlace]), if_neg (apart _ (by simp))]
  apply Tree.putFiles_other placed_named
  rw [placed_places, List.mem_map]
  rintro ⟨name, member, rfl⟩
  exact apart name (List.mem_append_left _ member) rfl

theorem modulePlace_below (folder : Place) (name : String) :
    Tree.isBelow folder (modulePlace folder name) = true :=
  Tree.isBelow_append folder _

theorem fill_outside {paths : List Path} (flat : ∀ name ∈ files.map Prod.fst, IsFlat name)
    (filled : (fill tree output files).outcome = .ok paths) {place : Place}
    (outside : Tree.isBelow (output.resolve tree.current) place = false) :
    (fill tree output files).tree.node? place = tree.node? place := by
  apply fill_other flat filled
  rintro name _ rfl
  rw [modulePlace_below] at outside
  cases outside

/-- Nothing but its files is below a filled folder if and only if nothing else was before. -/
theorem fill_exact {paths : List Path} (flat : ∀ name ∈ files.map Prod.fst, IsFlat name)
    (once : (files.map Prod.fst).Nodup)
    (filled : (fill tree output files).outcome = .ok paths) :
    let folder := output.resolve tree.current
    (fill tree output files).tree.HasExactly folder
        (Keyed.put "index" (barrelText (files.map Prod.fst)) files) ↔
      ∀ place, Tree.isBelow folder place = true → tree.node? place ≠ none →
        place ∈ (files.map Prod.fst ++ ["index"]).map (modulePlace folder) := by
  intro folder
  have kept {place : Place}
      (apart : place ∉ (files.map Prod.fst ++ ["index"]).map (modulePlace folder)) :
      (fill tree output files).tree.node? place = tree.node? place := by
    apply fill_other flat filled
    rintro name member rfl
    exact apart (List.mem_map_of_mem member)
  constructor
  · intro exactly place below present
    by_contra apart
    obtain ⟨node, held⟩ := Option.ne_none_iff_exists'.mp present
    rw [← kept apart] at held
    obtain ⟨name, text, member, rfl, _⟩ := (exactly place below node).mp held
    apply apart
    apply List.mem_map_of_mem
    rw [List.mem_append, List.mem_singleton, ← Keyed.mem_keys_put]
    exact List.mem_map.mpr ⟨_, member, rfl⟩
  · intro covered place below node
    constructor
    · intro held
      by_cases belongs : place ∈ (files.map Prod.fst ++ ["index"]).map (modulePlace folder)
      · obtain ⟨name, member, rfl⟩ := List.mem_map.mp belongs
        rw [List.mem_append, List.mem_singleton, ← Keyed.mem_keys_put] at member
        obtain ⟨⟨_, text⟩, member, rfl⟩ := List.mem_map.mp member
        rw [fill_mem flat once filled member, Option.some.injEq] at held
        exact ⟨_, text, member, rfl, held.symm⟩
      · rw [kept belongs] at held
        exact absurd (covered place below (by simp [held])) belongs
    · rintro ⟨name, text, member, rfl, rfl⟩
      exact fill_mem flat once filled member

end Published
end ModelViews
