import Mathlib.Data.List.Basic
import ModelViews.Files.Tree
import ModelViews.Proofs.Tables

namespace ModelViews

def Path.walk (start : Place) (names : List String) : Place :=
  names.foldl (fun place name => if name = ".." then place.dropLast else place ++ [name]) start

namespace Tree

def HasDistinctPlaces (tree : Tree) : Prop :=
  (tree.entries.map Prod.fst).Nodup

instance (tree : Tree) : Decidable tree.HasDistinctPlaces :=
  inferInstanceAs (Decidable (List.Nodup _))

end Tree

structure DistinctTree extends Tree where
  distinct : toTree.HasDistinctPlaces

namespace Tree

def filesIn (tree : Tree) (folder : Place) : List String :=
  tree.entries.filterMap fun (place, node) =>
    match node with
    | .file _ => if place.dropLast = folder then place.getLast? else none
    | .folder => none

def putFiles (tree : Tree) (files : List (Place × List UInt8)) : Tree :=
  files.foldl (fun tree file => tree.put file.1 (.file file.2)) tree

variable {tree : Tree} {place other : Place} {node : Node} {path : Path}

theorem resolve_walk (path : Path) :
    path.resolve tree.current = Path.walk (tree.start path) path.names :=
  rfl

@[simp] theorem node_root (tree : Tree) : tree.node? [] = some .folder := rfl

theorem node_named (named : place ≠ []) : tree.node? place = tree.entries.lookup place := by
  rw [node?, if_neg fun root => named (List.isEmpty_iff.mp root)]

theorem node_put (named : place ≠ []) :
    (tree.put place node).node? other = if other = place then some node else tree.node? other := by
  by_cases root : other = []
  · subst root
    rw [if_neg named.symm, node_root, node_root]
  · rw [node_named root, node_named root]
    exact Keyed.lookup_put other

theorem put_distinct (distinct : tree.HasDistinctPlaces) :
    (tree.put place node).HasDistinctPlaces :=
  Keyed.keys_put_nodup distinct

private theorem filesIn_entry {folder : Place} {name : String} {entry : Place × Node} :
    (match entry.2 with
      | .file _ => if entry.1.dropLast = folder then entry.1.getLast? else none
      | .folder => none) = some name ↔
      ∃ bytes, entry = (folder ++ [name], .file bytes) := by
  obtain ⟨place, node⟩ := entry
  cases node with
  | folder => simp
  | file bytes =>
      simp only [Prod.mk.injEq, Node.file.injEq, exists_and_left, exists_eq', and_true]
      rw [Option.ite_none_right_eq_some]
      constructor
      · rintro ⟨rfl, last⟩
        exact (List.dropLast_append_getLast? name last).symm
      · rintro rfl
        simp

end Tree

namespace DistinctTree

open ModelViews.Tree

variable {place : Place} {node : Node}

private theorem node_entry (tree : DistinctTree) (named : place ≠ []) :
    tree.node? place = some node ↔ (place, node) ∈ tree.entries := by
  rw [node_named named]
  exact Keyed.lookup_eq_some tree.distinct

theorem mem_filesIn (tree : DistinctTree) {folder : Place} {name : String} :
    name ∈ tree.filesIn folder ↔ ∃ bytes, tree.node? (folder ++ [name]) = some (.file bytes) := by
  simp only [node_entry tree (by simp : folder ++ [name] ≠ [])]
  rw [filesIn, List.mem_filterMap]
  constructor
  · rintro ⟨entry, member, found⟩
    obtain ⟨bytes, rfl⟩ := filesIn_entry.mp found
    exact ⟨bytes, member⟩
  · rintro ⟨bytes, member⟩
    exact ⟨_, member, filesIn_entry.mpr ⟨bytes, rfl⟩⟩

theorem filesIn_nodup (tree : DistinctTree) (folder : Place) : (tree.filesIn folder).Nodup := by
  rw [filesIn, List.Nodup, List.pairwise_filterMap]
  refine (List.pairwise_map.mp tree.distinct).imp ?_
  intro first second apart name found other given same
  obtain ⟨bytes, rfl⟩ := filesIn_entry.mp found
  obtain ⟨others, rfl⟩ := filesIn_entry.mp given
  exact apart (by rw [same])

end DistinctTree

namespace Tree

variable {tree : Tree} {place other : Place} {node : Node} {path : Path}

/-! Following paths. -/

/-- A name that leads on goes up if it is double dots. Else it enters the folder of that name or, as the
last of the names, ends at the file of that name. -/
theorem follow_cons_eq_ok {here : Place} {name : String} {rest : List String} :
    tree.follow here (name :: rest) = .ok place ↔
      (name = ".." ∧ tree.follow here.dropLast rest = .ok place) ∨
      (name ≠ ".." ∧ ¬ longestName < name.utf8ByteSize ∧
        ((tree.node? (here ++ [name]) = some .folder ∧
            tree.follow (here ++ [name]) rest = .ok place) ∨
          ∃ bytes, tree.node? (here ++ [name]) = some (.file bytes) ∧ rest = [] ∧
            place = here ++ [name])) := by
  rw [follow]
  by_cases up : name = ".."
  · simp [up]
  · rw [if_neg up]
    by_cases long : longestName < name.utf8ByteSize
    · simp [up, long]
    · rw [if_neg long]
      cases tree.node? (here ++ [name]) with
      | none => simp [up]
      | some node =>
          cases node with
          | folder => simp [up, long]
          | file bytes => cases rest <;> simp [up, long, eq_comm]

theorem follow_walk {here : Place} {names : List String}
    (led : tree.follow here names = .ok place) : place = Path.walk here names := by
  induction names generalizing here with
  | nil =>
      rw [follow, Except.ok.injEq] at led
      exact led.symm
  | cons name rest ih =>
      rw [Path.walk, List.foldl_cons]
      rcases follow_cons_eq_ok.mp led with
        ⟨up, onward⟩ | ⟨named, _, ⟨_, onward⟩ | ⟨_, _, rfl, rfl⟩⟩
      · rw [if_pos up]
        exact ih onward
      · rw [if_neg named]
        exact ih onward
      · rw [if_neg named]
        rfl

theorem find_resolve (led : tree.find path = .ok place) : place = path.resolve tree.current := by
  rw [find] at led
  split at led
  · cases led
  · exact follow_walk led

/-- A path has a place for its last name where the names before it lead to a folder. -/
theorem slot_follow :
    tree.slot? path = some (.ok place) ↔
      ∃ above name folder, path.names = above ++ [name] ∧ name ≠ ".." ∧
        ¬ longestPath < path.text.utf8ByteSize ∧ ¬ longestName < name.utf8ByteSize ∧
        tree.follow (tree.start path) above = .ok folder ∧ tree.node? folder = some .folder ∧
        place = folder ++ [name] := by
  rw [slot?]
  rcases List.eq_nil_or_concat path.names with none | ⟨above, name, split⟩
  · simp [none]
  · rw [List.concat_eq_append] at split
    simp only [split, List.getLast?_append, List.getLast?_singleton, Option.some_or,
      List.dropLast_concat]
    constructor
    · intro led
      split at led
      · cases led
      · next named =>
          split at led
          · simp at led
          · next brief =>
              cases inside : tree.follow (tree.start path) above with
              | error flaw => simp [inside] at led
              | ok folder =>
                  simp only [inside] at led
                  split at led
                  · simp at led
                  · next held =>
                      split at led
                      · simp at led
                      · next short =>
                          simp only [Option.some.injEq, Except.ok.injEq] at led
                          exact ⟨above, name, folder, rfl, named, brief, short, inside,
                            not_not.mp held, led.symm⟩
    · rintro ⟨_, _, folder, same, named, brief, short, inside, held, rfl⟩
      obtain ⟨rfl, rfl⟩ := List.append_singleton_inj.mp same
      rw [if_neg named, if_neg brief, inside]
      simp only [held, ne_eq, not_true_eq_false, ↓reduceIte, if_neg short]

theorem slot_resolve (led : tree.slot? path = some (.ok place)) :
    place = path.resolve tree.current ∧ place ≠ [] := by
  obtain ⟨above, name, folder, split, named, _, _, inside, _, rfl⟩ := slot_follow.mp led
  refine ⟨?_, by simp⟩
  rw [follow_walk inside, resolve_walk, split]
  simp [Path.walk, named]

/-! Making folders. -/

structure AddsFolders (old new : Tree) : Prop where
  current : new.current = old.current
  node : ∀ place, new.node? place = old.node? place ∨
    old.node? place = none ∧ new.node? place = some .folder

namespace AddsFolders

variable {old middle new : Tree}

theorem refl (tree : Tree) : AddsFolders tree tree :=
  ⟨rfl, fun _ => .inl rfl⟩

theorem trans (first : AddsFolders old middle) (second : AddsFolders middle new) :
    AddsFolders old new := by
  refine ⟨second.current.trans first.current, ?_⟩
  intro place
  rcases second.node place with same | ⟨absent, made⟩
  · rw [same]
    exact first.node place
  · rcases first.node place with same | ⟨_, present⟩
    · exact .inr ⟨same ▸ absent, made⟩
    · rw [present] at absent
      cases absent

theorem file (adds : AddsFolders old new) (place : Place) (bytes : List UInt8) :
    new.node? place = some (.file bytes) ↔ old.node? place = some (.file bytes) := by
  rcases adds.node place with same | ⟨absent, made⟩
  · rw [same]
  · simp [absent, made]

end AddsFolders

private theorem put_folder_adds (named : place ≠ []) (absent : tree.node? place = none) :
    AddsFolders tree (tree.put place .folder) := by
  refine ⟨rfl, ?_⟩
  intro other
  rw [node_put named]
  by_cases here : other = place
  · rw [if_pos here, here]
    exact .inr ⟨absent, rfl⟩
  · rw [if_neg here]
    exact .inl rfl

theorem makeFolder_eq_ok {new : Tree} :
    tree.makeFolder path = .ok new ↔
      ∃ place, tree.slot? path = some (.ok place) ∧ tree.node? place = none ∧
        new = tree.put place .folder := by
  rw [makeFolder]
  cases slot : tree.slot? path with
  | none => cases found : tree.find path <;> simp
  | some led =>
      cases led with
      | error flaw => simp
      | ok place => cases held : tree.node? place <;> simp [held, eq_comm]

theorem makeFolder_adds {new : Tree} (made : tree.makeFolder path = .ok new) :
    AddsFolders tree new := by
  obtain ⟨place, slot, absent, rfl⟩ := makeFolder_eq_ok.mp made
  exact put_folder_adds (slot_resolve slot).2 absent

theorem ensureFolder_ok {new : Tree} (made : tree.ensureFolder path = .ok new) :
    tree.makeFolder path = .ok new ∨ tree.isFolder path = true ∧ new = tree := by
  rw [ensureFolder] at made
  cases folder : tree.makeFolder path with
  | ok other =>
      simp only [folder] at made
      exact .inl made
  | error flaw =>
      simp only [folder] at made
      split at made
      · next there =>
          cases made
          exact .inr ⟨there, rfl⟩
      · cases made

/-- Folders are made one after the other, at the beginnings of a path. A relation of a tree to itself and
to a tree with one such folder more, if it goes on from tree to tree, is one to the tree with all of
them. -/
theorem makeFoldersFrom_induction (relates : Tree → Tree → Prop) {anchor : Anchor}
    {names : List String} (stays : ∀ tree, relates tree tree)
    (onward : ∀ {old middle new}, relates old middle → relates middle new → relates old new)
    (makes : ∀ {old new : Tree} {above : List String}, above <+: names.reverse →
      old.makeFolder ⟨anchor, above⟩ = .ok new → relates old new) :
    relates tree (tree.makeFoldersFrom anchor names).1 := by
  have ensures {old new : Tree} {above : List String} (begins : above <+: names.reverse)
      (made : old.ensureFolder ⟨anchor, above⟩ = .ok new) : relates old new := by
    rcases ensureFolder_ok made with folder | ⟨_, rfl⟩
    · exact makes begins folder
    · exact stays _
  induction names with
  | nil =>
      rw [makeFoldersFrom]
      split
      · next made => exact ensures List.prefix_rfl made
      · exact stays tree
  | cons name above ih =>
      have longer : above.reverse <+: (name :: above).reverse := by
        rw [List.reverse_cons]
        exact List.prefix_append _ _
      replace ih := ih (fun begins => makes (begins.trans longer))
        fun begins => ensures (begins.trans longer)
      rw [makeFoldersFrom]
      split
      · next made => exact ensures List.prefix_rfl made
      · split
        · next upper => rwa [upper] at ih
        · next upper =>
            rw [upper] at ih
            split
            · next made => exact onward ih (ensures List.prefix_rfl made)
            · exact ih
      · exact stays tree

theorem makeFolders_induction (relates : Tree → Tree → Prop) (stays : ∀ tree, relates tree tree)
    (onward : ∀ {old middle new}, relates old middle → relates middle new → relates old new)
    (makes : ∀ {old new : Tree} {above : List String}, above <+: path.names →
      old.makeFolder ⟨path.anchor, above⟩ = .ok new → relates old new) :
    relates tree (tree.makeFolders path).1 := by
  rw [makeFolders]
  split
  · exact stays tree
  · refine makeFoldersFrom_induction relates stays onward fun begins => makes ?_
    rwa [List.reverse_reverse] at begins

theorem makeFolders_adds (path : Path) : AddsFolders tree (tree.makeFolders path).1 :=
  makeFolders_induction AddsFolders .refl .trans fun _ made => makeFolder_adds made

/-! Taking folders away. -/

theorem node_clear (above : Place) :
    (tree.clear above).node? place = if isBelow above place then none else tree.node? place := by
  by_cases root : place = []
  · subst root
    simp [isBelow]
  · rw [node_named root, node_named root, clear,
      Keyed.lookup_filter fun place => !isBelow above place]
    cases isBelow above place <;> rfl

theorem node_erase (named : place ≠ []) (gone : Place) :
    (tree.erase gone).node? place = if place = gone then none else tree.node? place := by
  rw [node_named named, node_named named, erase, Keyed.lookup_filter fun place => place ≠ gone]
  by_cases here : place = gone <;> simp [here]

theorem node_erased (named : place ≠ []) :
    (tree.erase place).node? other = if other = place then none else tree.node? other := by
  by_cases root : other = []
  · rw [root, node_root, node_root, if_neg named.symm]
  · exact node_erase root place

theorem clear_distinct (above : Place) (distinct : tree.HasDistinctPlaces) :
    (tree.clear above).HasDistinctPlaces :=
  distinct.sublist (List.filter_sublist.map _)

theorem erase_distinct (gone : Place) (distinct : tree.HasDistinctPlaces) :
    (tree.erase gone).HasDistinctPlaces :=
  distinct.sublist (List.filter_sublist.map _)

/-- Taking a folder away: all below it goes first, and its path has to lead to it still. -/
theorem remove_eq_ok {new : Tree} :
    tree.remove path = (new, none) ↔
      tree.find path = .ok (path.resolve tree.current) ∧
        tree.node? (path.resolve tree.current) = some .folder ∧
        (tree.clear (path.resolve tree.current)).removalFlaw? path = none ∧
        new = (tree.clear (path.resolve tree.current)).erase (path.resolve tree.current) := by
  rw [remove]
  cases found : tree.find path with
  | error flaw => simp
  | ok place =>
      rw [← find_resolve found]
      by_cases held : tree.node? place = some .folder
      · simp only [held, ↓reduceIte, true_and]
        cases flaw : (tree.clear place).removalFlaw? path <;> simp [eq_comm]
      · simp [held]

theorem isBelow_iff : isBelow place other = true ↔ ∃ rest, rest ≠ [] ∧ other = place ++ rest := by
  rw [isBelow, Bool.and_eq_true, List.isPrefixOf_iff_prefix, decide_eq_true_eq]
  constructor
  · rintro ⟨⟨rest, rfl⟩, longer⟩
    refine ⟨rest, ?_, rfl⟩
    rintro rfl
    simp at longer
  · rintro ⟨rest, some, rfl⟩
    exact ⟨List.prefix_append place rest, by simpa [List.length_pos_iff] using some⟩

theorem isBelow_child (below : isBelow place other = true) (name : String) :
    isBelow place (other ++ [name]) = true := by
  obtain ⟨rest, _, rfl⟩ := isBelow_iff.mp below
  exact isBelow_iff.mpr ⟨rest ++ [name], by simp, by simp⟩

theorem isBelow_append (above : Place) (name : String) :
    isBelow above (above ++ [name]) = true :=
  isBelow_iff.mpr ⟨[name], by simp, rfl⟩

@[simp] theorem isBelow_self (place : Place) : isBelow place place = false := by
  simp [isBelow]

theorem node_removed {left : Tree} (removed : tree.remove path = (left, none)) (name : String) :
    left.node? (path.resolve tree.current ++ [name]) = none := by
  obtain ⟨_, _, _, rfl⟩ := remove_eq_ok.mp removed
  rw [node_erase (by simp), node_clear, isBelow_append]
  simp

/-! Writing files. -/

theorem write_eq_ok {new : Tree} {bytes : List UInt8} :
    tree.write path bytes = .ok new ↔
      path.hasNul = false ∧ ∃ place, tree.slot? path = some (.ok place) ∧
        tree.node? place ≠ some .folder ∧ new = tree.put place (.file bytes) := by
  rw [write]
  cases nul : path.hasNul with
  | true => simp
  | false =>
      cases slot : tree.slot? path with
      | none => cases found : tree.find path <;> simp
      | some led =>
          cases led with
          | error flaw => simp
          | ok place =>
              by_cases held : tree.node? place = some .folder
              · simp [held]
              · simp [held, eq_comm (a := new)]

theorem write_ok {new : Tree} {bytes : List UInt8} (wrote : tree.write path bytes = .ok new) :
    new = tree.put (path.resolve tree.current) (.file bytes) ∧ path.resolve tree.current ≠ [] := by
  obtain ⟨_, place, slot, _, rfl⟩ := write_eq_ok.mp wrote
  obtain ⟨rfl, named⟩ := slot_resolve slot
  exact ⟨rfl, named⟩

@[simp] theorem putFiles_cons (file : Place × List UInt8) (files : List (Place × List UInt8)) :
    tree.putFiles (file :: files) = (tree.put file.1 (.file file.2)).putFiles files := rfl

theorem putFiles_append (first second : List (Place × List UInt8)) :
    tree.putFiles (first ++ second) = (tree.putFiles first).putFiles second :=
  List.foldl_append

@[simp] theorem putFiles_current (files : List (Place × List UInt8)) :
    (tree.putFiles files).current = tree.current := by
  induction files generalizing tree with
  | nil => rfl
  | cons file rest ih => exact ih

theorem putFiles_other {files : List (Place × List UInt8)} (named : ∀ file ∈ files, file.1 ≠ [])
    (apart : place ∉ files.map Prod.fst) : (tree.putFiles files).node? place = tree.node? place := by
  induction files generalizing tree with
  | nil => rfl
  | cons file rest ih =>
      rw [List.map_cons, List.mem_cons, not_or] at apart
      rw [putFiles_cons, ih (fun other member => named other (by simp [member])) apart.2,
        node_put (named file (by simp)), if_neg apart.1]

theorem putFiles_mem {files : List (Place × List UInt8)} (named : ∀ file ∈ files, file.1 ≠ [])
    (once : (files.map Prod.fst).Nodup) {bytes : List UInt8} (member : (place, bytes) ∈ files) :
    (tree.putFiles files).node? place = some (.file bytes) := by
  induction files generalizing tree with
  | nil => cases member
  | cons file rest ih =>
      have others : ∀ other ∈ rest, other.1 ≠ [] := fun other member => named other (by simp [member])
      rw [List.map_cons, List.nodup_cons] at once
      rw [putFiles_cons]
      rcases List.mem_cons.mp member with rfl | later
      · rw [putFiles_other others once.1, node_put (named _ (by simp)), if_pos rfl]
      · exact ih others once.2 later

/-- After files are put there are files at their places and where files were. -/
theorem putFiles_file {files : List (Place × List UInt8)} (named : ∀ file ∈ files, file.1 ≠ []) :
    (∃ bytes, (tree.putFiles files).node? place = some (.file bytes)) ↔
      place ∈ files.map Prod.fst ∨ ∃ bytes, tree.node? place = some (.file bytes) := by
  induction files generalizing tree with
  | nil => simp [putFiles]
  | cons file rest ih =>
      rw [putFiles_cons, ih fun other member => named other (by simp [member]),
        node_put (named file (by simp)), List.map_cons, List.mem_cons]
      by_cases here : place = file.1
      · simp [here]
      · simp [here]

end Tree
end ModelViews
