import Mathlib.Data.List.Induction
import ModelViews.Proofs.Trees

namespace ModelViews

namespace Path

variable {here place : Place} {name : String} {names above below : List String}

def places (here : Place) : List String → List Place
  | [] => []
  | name :: rest =>
    if name = ".." then places here.dropLast rest
    else (here ++ [name]) :: places (here ++ [name]) rest

def spelled (current : Place) (path : Path) : List Place :=
  places (if path.anchor = .current then current else []) path.names

theorem walk_name (named : name ≠ "..") : walk here (above ++ [name]) = walk here above ++ [name] := by
  simp [walk, named]

theorem walk_up : walk here (above ++ [".."]) = (walk here above).dropLast := by
  simp [walk]

theorem places_append :
    places here (above ++ below) = places here above ++ places (walk here above) below := by
  induction above generalizing here with
  | nil => rfl
  | cons name rest ih =>
      rw [List.cons_append, places, places, ih, ih]
      by_cases up : name = ".."
      · simp [up, walk]
      · simp [up, walk]

theorem places_name (named : name ≠ "..") :
    places here (above ++ [name]) = places here above ++ [walk here above ++ [name]] := by
  rw [places_append, places, if_neg named, places]

theorem places_up : places here (above ++ [".."]) = places here above := by
  rw [places_append, places, if_pos rfl, places, List.append_nil]

theorem mem_places_named (spelled : place ∈ places here names) : place ≠ [] := by
  induction names generalizing here with
  | nil => cases spelled
  | cons name rest ih =>
      rw [places] at spelled
      split at spelled
      · exact ih spelled
      · rcases List.mem_cons.mp spelled with rfl | later
        · simp
        · exact ih later

private theorem places_eq_nil : places here names = [] ↔ ∀ name ∈ names, name = ".." := by
  induction names generalizing here with
  | nil => simp [places]
  | cons name rest ih =>
      rw [places, List.forall_mem_cons]
      by_cases up : name = ".."
      · rw [if_pos up, ih]
        exact (and_iff_right up).symm
      · simp [up]

private theorem exists_spelled_below (names : List String) (some : places here names ≠ []) :
    ∃ place ∈ places here names, walk here names <+: place := by
  induction names using List.reverseRecOn with
  | nil => exact absurd rfl some
  | append_singleton above name ih =>
      by_cases up : name = ".."
      · subst up
        rw [places_up] at some ⊢
        obtain ⟨place, spelled, within⟩ := ih some
        rw [walk_up]
        exact ⟨place, spelled, (List.dropLast_prefix _).trans within⟩
      · rw [places_name up, walk_name up]
        exact ⟨_, List.mem_append_right _ (List.mem_singleton.mpr rfl), List.prefix_rfl⟩

private theorem text_named (anchor : Anchor) (some : names ≠ []) :
    text ⟨anchor, names⟩ = anchor.text ++ "/".intercalate names := by
  rw [text, if_neg fun none => some none.2]

theorem text_beginning (anchor : Anchor) (some : above ≠ []) (below : List String) :
    (text ⟨anchor, above⟩).utf8ByteSize ≤ (text ⟨anchor, above ++ below⟩).utf8ByteSize := by
  rw [text_named anchor some, text_named anchor (List.append_ne_nil_of_left_ne_nil some below),
    String.utf8ByteSize_append, String.utf8ByteSize_append]
  cases below with
  | nil => simp
  | cons name rest =>
      rw [String.intercalate_append_of_ne_nil some (List.cons_ne_nil name rest),
        String.utf8ByteSize_append, String.utf8ByteSize_append]
      omega

end Path

namespace Tree

variable {tree new : Tree} {here place folder : Place} {name : String}
  {names above below : List String} {path : Path}

structure IsOpen (tree : Tree) (here : Place) (names : List String) : Prop where
  short : ∀ name ∈ names, name ≠ ".." → ¬ longestName < name.utf8ByteSize
  folders : ∀ place ∈ Path.places here names, tree.node? place = some .folder

theorem follow_open (opens : tree.IsOpen here names) :
    tree.follow here names = .ok (Path.walk here names) := by
  obtain ⟨short, folders⟩ := opens
  induction names generalizing here with
  | nil => rfl
  | cons name rest ih =>
      rw [List.forall_mem_cons] at short
      rw [Path.places] at folders
      rw [follow, Path.walk, List.foldl_cons]
      by_cases up : name = ".."
      · rw [if_pos up] at folders ⊢
        rw [if_pos up]
        exact ih short.2 folders
      · rw [if_neg up, List.forall_mem_cons] at folders
        rw [if_neg up, if_neg (short.1 up), folders.1, if_neg up]
        exact ih short.2 folders.2

private theorem follow_short (led : tree.follow here names = .ok place) :
    ∀ name ∈ names, name ≠ ".." → ¬ longestName < name.utf8ByteSize := by
  induction names generalizing here with
  | nil => simp
  | cons name rest ih =>
      rw [List.forall_mem_cons]
      rcases follow_cons_eq_ok.mp led with
        ⟨up, onward⟩ | ⟨_, short, ⟨_, onward⟩ | ⟨_, _, rfl, _⟩⟩
      · exact ⟨fun named => absurd up named, ih onward⟩
      · exact ⟨fun _ => short, ih onward⟩
      · exact ⟨fun _ => short, by simp⟩

/-- On a way that was followed to its end there is something at each place. -/
theorem follow_present (led : tree.follow here names = .ok place) :
    ∀ passed ∈ Path.places here names, tree.node? passed ≠ none := by
  induction names generalizing here with
  | nil => simp [Path.places]
  | cons name rest ih =>
      rw [Path.places]
      rcases follow_cons_eq_ok.mp led with
        ⟨up, onward⟩ | ⟨named, _, ⟨held, onward⟩ | ⟨_, held, rfl, _⟩⟩
      · rw [if_pos up]
        exact ih onward
      · rw [if_neg named, List.forall_mem_cons]
        exact ⟨by simp [held], ih onward⟩
      · rw [if_neg named]
        simp [held, Path.places]

/-- A way that was followed to a folder is open. -/
theorem open_of_follow (led : tree.follow here names = .ok place)
    (held : tree.node? place = some .folder) : tree.IsOpen here names := by
  refine ⟨follow_short led, ?_⟩
  induction names generalizing here with
  | nil => simp [Path.places]
  | cons name rest ih =>
      rw [Path.places]
      rcases follow_cons_eq_ok.mp led with
        ⟨up, onward⟩ | ⟨named, _, ⟨folder, onward⟩ | ⟨_, file, _, rfl⟩⟩
      · rw [if_pos up]
        exact ih onward
      · rw [if_neg named, List.forall_mem_cons]
        exact ⟨folder, ih onward⟩
      · rw [held] at file
        cases file

theorem IsOpen.append (opens : tree.IsOpen here above)
    (onward : tree.IsOpen (Path.walk here above) below) : tree.IsOpen here (above ++ below) := by
  constructor
  · exact List.forall_mem_append.mpr ⟨opens.short, onward.short⟩
  · rw [Path.places_append]
    exact List.forall_mem_append.mpr ⟨opens.folders, onward.folders⟩

theorem IsOpen.init (opens : tree.IsOpen here (above ++ below)) : tree.IsOpen here above := by
  obtain ⟨short, folders⟩ := opens
  rw [Path.places_append] at folders
  exact ⟨(List.forall_mem_append.mp short).1, (List.forall_mem_append.mp folders).1⟩

def KeepsFolders (old new : Tree) : Prop :=
  ∀ place, old.node? place = some .folder → new.node? place = some .folder

theorem IsOpen.kept (opens : tree.IsOpen here names) (keeps : tree.KeepsFolders new) :
    new.IsOpen here names :=
  ⟨opens.short, fun place spelled => keeps place (opens.folders place spelled)⟩

/-! The operations, each by all that it can do. -/

/-- The place of a path's last name is in a folder to which the rest of the path leads. -/
theorem slot_eq_ok :
    tree.slot? path = some (.ok place) ↔
      ∃ above name, path.names = above ++ [name] ∧ name ≠ ".." ∧
        ¬ longestPath < path.text.utf8ByteSize ∧ ¬ longestName < name.utf8ByteSize ∧
        tree.IsOpen (tree.start path) above ∧
        tree.node? (Path.walk (tree.start path) above) = some .folder ∧
        place = Path.walk (tree.start path) above ++ [name] := by
  rw [slot_follow]
  constructor
  · rintro ⟨above, name, folder, split, named, brief, short, inside, held, rfl⟩
    obtain rfl := follow_walk inside
    exact ⟨above, name, split, named, brief, short, open_of_follow inside held, held, rfl⟩
  · rintro ⟨above, name, split, named, brief, short, opens, held, rfl⟩
    exact ⟨above, name, _, split, named, brief, short, follow_open opens, held, rfl⟩

theorem isFolder_iff :
    tree.isFolder path = true ↔
      ¬ longestPath < path.text.utf8ByteSize ∧ tree.IsOpen (tree.start path) path.names ∧
        tree.node? (path.resolve tree.current) = some .folder := by
  rw [isFolder, find, resolve_walk]
  by_cases long : longestPath < path.text.utf8ByteSize
  · simp [long]
  · rw [if_neg long]
    cases led : tree.follow (tree.start path) path.names with
    | error flaw =>
        have closed : ¬ tree.IsOpen (tree.start path) path.names := by
          intro opens
          rw [follow_open opens] at led
          cases led
        simp [closed]
    | ok place =>
        obtain rfl := follow_walk led
        simp only [decide_eq_true_eq, long, not_false_eq_true, true_and]
        exact ⟨fun held => ⟨open_of_follow led held, held⟩, And.right⟩

theorem find_of_isFolder (folder : tree.isFolder path = true) :
    tree.find path = .ok (path.resolve tree.current) := by
  obtain ⟨brief, opens, _⟩ := isFolder_iff.mp folder
  rw [find, if_neg brief, follow_open opens, resolve_walk]

theorem find_unspelled (none : path.spelled tree.current = [])
    (brief : ¬ longestPath < path.text.utf8ByteSize) :
    tree.find path = .ok (path.resolve tree.current) := by
  change Path.places (tree.start path) path.names = [] at none
  have opens : tree.IsOpen (tree.start path) path.names := by
    constructor
    · intro name member named
      exact absurd (Path.places_eq_nil.mp none name member) named
    · simp [none]
  rw [find, if_neg brief, follow_open opens, resolve_walk]

theorem AddsFolders.keeps (adds : AddsFolders tree new) : tree.KeepsFolders new := by
  intro place held
  rcases adds.node place with same | ⟨absent, _⟩
  · rw [same, held]
  · rw [absent] at held
    cases held

private theorem put_keeps {node : Node} (named : place ≠ [])
    (other : tree.node? place ≠ some .folder) :
    tree.KeepsFolders (tree.put place node) := by
  intro kept held
  have apart : kept ≠ place := by
    rintro rfl
    exact other held
  rw [node_put named, if_neg apart, held]

theorem isFolder_kept (keeps : tree.KeepsFolders new) (current : new.current = tree.current)
    (there : tree.isFolder path = true) : new.isFolder path = true := by
  obtain ⟨brief, opens, held⟩ := isFolder_iff.mp there
  have start : new.start path = tree.start path := by rw [Tree.start, current, Tree.start]
  rw [isFolder_iff, start, current]
  exact ⟨brief, opens.kept keeps, keeps _ held⟩

/-- A path that never passes below the place where it ends has a name of its own. -/
theorem last_named (spells : Path.places here names ≠ [])
    (out : ∀ place ∈ Path.places here names, isBelow (Path.walk here names) place = false) :
    ∃ above name, names = above ++ [name] ∧ name ≠ ".." := by
  rcases List.eq_nil_or_concat names with none | ⟨above, name, split⟩
  · rw [none] at spells
    exact absurd rfl spells
  · rw [List.concat_eq_append] at split
    refine ⟨above, name, split, ?_⟩
    rintro rfl
    rw [split, Path.places_up] at spells out
    rw [Path.walk_up] at out
    obtain ⟨place, spelled, within⟩ := Path.exists_spelled_below above spells
    have longer : (Path.walk here above).dropLast.length < place.length := by
      have long := List.length_pos_iff.mpr (Path.mem_places_named spelled)
      have whole := within.length_le
      rw [List.length_dropLast]
      omega
    have below : isBelow (Path.walk here above).dropLast place = true := by
      rw [isBelow, Bool.and_eq_true, List.isPrefixOf_iff_prefix, decide_eq_true_eq]
      exact ⟨(List.dropLast_prefix _).trans within, longer⟩
    rw [out place spelled] at below
    cases below

theorem removalFlaw_eq_none :
    tree.removalFlaw? path = none ↔
      ∃ above name place, path.names = above ++ [name] ∧ name ≠ ".." ∧
        tree.follow (tree.start path) above = .ok place := by
  rw [removalFlaw?]
  rcases List.eq_nil_or_concat path.names with none | ⟨above, name, split⟩
  · simp [none]
    split <;> simp
  · rw [List.concat_eq_append] at split
    simp only [split, List.getLast?_append, List.getLast?_singleton, Option.some_or,
      List.dropLast_concat]
    constructor
    · intro fine
      split at fine
      · cases fine
      · next led =>
          split at fine
          · cases fine
          · next named => exact ⟨above, name, _, rfl, named, led⟩
    · rintro ⟨_, _, place, same, named, led⟩
      obtain ⟨rfl, rfl⟩ := List.append_singleton_inj.mp same
      rw [led]
      exact if_neg named

/-! Making folders once more. -/

private theorem makeFolder_isFolder (made : tree.makeFolder path = .ok new) :
    new.isFolder path = true := by
  obtain ⟨place, slot, absent, rfl⟩ := makeFolder_eq_ok.mp made
  obtain ⟨above, name, split, named, brief, short, opens, held, rfl⟩ := slot_eq_ok.mp slot
  let place := Path.walk (tree.start path) above ++ [name]
  have keeps : tree.KeepsFolders (tree.put place .folder) := put_keeps (by simp [place]) (by
    rw [absent]
    simp)
  have there : (tree.put place .folder).node? place = some .folder := by
    rw [node_put (by simp [place]), if_pos rfl]
  have ends : (tree.put place .folder).IsOpen (Path.walk (tree.start path) above) [name] := by
    refine ⟨by simpa [named] using short, ?_⟩
    rw [Path.places, if_neg named]
    simpa [Path.places] using there
  rw [isFolder_iff, resolve_walk, split]
  refine ⟨brief, (opens.kept keeps).append ends, ?_⟩
  rw [Path.walk_name named]
  exact there

private theorem ensureFolder_isFolder (made : tree.ensureFolder path = .ok new) :
    new.isFolder path = true := by
  rcases ensureFolder_ok made with folder | ⟨there, rfl⟩
  · exact makeFolder_isFolder folder
  · exact there

private theorem makeFoldersFrom_isFolder {anchor : Anchor}
    (made : tree.makeFoldersFrom anchor names = (new, none)) :
    new.isFolder ⟨anchor, names.reverse⟩ = true := by
  cases names with
  | nil =>
      rw [makeFoldersFrom] at made
      split at made
      · next ensured =>
          cases made
          exact ensureFolder_isFolder ensured
      · cases made
  | cons name above =>
      rw [makeFoldersFrom] at made
      split at made
      · next ensured =>
          cases made
          exact ensureFolder_isFolder ensured
      · split at made
        · cases made
        · split at made
          · next ensured =>
              cases made
              exact ensureFolder_isFolder ensured
          · cases made
      · cases made

theorem makeFolders_isFolder (made : tree.makeFolders path = (new, none)) :
    path.hasNul = false ∧ new.isFolder path = true := by
  rw [makeFolders] at made
  split at made
  · cases made
  · next clean =>
      have there := makeFoldersFrom_isFolder made
      rw [List.reverse_reverse] at there
      exact ⟨Bool.eq_false_iff.mpr clean, there⟩

theorem ensureFolder_there (there : tree.isFolder path = true) : tree.ensureFolder path = .ok tree := by
  rw [ensureFolder]
  cases made : tree.makeFolder path with
  | error flaw => simp only [there, ↓reduceIte]
  | ok new =>
      obtain ⟨place, slot, absent, _⟩ := makeFolder_eq_ok.mp made
      rw [(slot_resolve slot).1, (isFolder_iff.mp there).2.2] at absent
      cases absent

private theorem makeFolder_spelled (begins : above <+: path.names)
    (made : tree.makeFolder ⟨path.anchor, above⟩ = .ok new) (place : Place) :
    new.node? place = tree.node? place ∨ place ∈ path.spelled tree.current := by
  obtain ⟨made, slot, _, rfl⟩ := makeFolder_eq_ok.mp made
  obtain ⟨upper, name, split, named, _, _, _, _, rfl⟩ := slot_eq_ok.mp slot
  obtain ⟨rest, whole⟩ := begins
  obtain rfl : above = upper ++ [name] := split
  rw [node_put (by simp)]
  by_cases here : place = Path.walk (tree.start ⟨path.anchor, upper ++ [name]⟩) upper ++ [name]
  · refine .inr ?_
    rw [Path.spelled, ← whole, Path.places_append, Path.places_name named, here]
    exact List.mem_append_left _ (by simp [start])
  · exact .inl (if_neg here)

/-- Folders are made where nothing was, and nowhere but at the places that a path spells. -/
theorem makeFolders_node (tree : Tree) (path : Path) (place : Place) :
    (tree.makeFolders path).1.node? place = tree.node? place ∨
      tree.node? place = none ∧ (tree.makeFolders path).1.node? place = some .folder ∧
        place ∈ path.spelled tree.current := by
  have adds : AddsFolders tree (tree.makeFolders path).1 := makeFolders_adds path
  have spelled : (tree.makeFolders path).1.current = tree.current ∧
      ((tree.makeFolders path).1.node? place = tree.node? place ∨
        place ∈ path.spelled tree.current) := by
    refine makeFolders_induction (fun old new => new.current = old.current ∧
      (new.node? place = old.node? place ∨ place ∈ path.spelled old.current)) ?_ ?_ ?_
    · exact fun _ => ⟨rfl, .inl rfl⟩
    · rintro old middle new ⟨current, first⟩ ⟨onward, second⟩
      rw [current] at onward second
      refine ⟨onward, ?_⟩
      rcases second with same | spelled
      · rwa [same]
      · exact .inr spelled
    · intro old new above begins made
      exact ⟨(makeFolder_adds made).current, makeFolder_spelled begins made place⟩
  rcases adds.node place with same | ⟨absent, made⟩
  · exact .inl same
  · refine .inr ⟨absent, made, spelled.2.resolve_left ?_⟩
    rw [absent, made]
    simp

end Tree
end ModelViews
