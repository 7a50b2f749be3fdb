import Mathlib.Logic.Relation
import ModelViews.Proofs.Publishing
import ModelViews.Proofs.Ways

namespace ModelViews

namespace Tree

variable {tree new : Tree} {here place folder : Place} {name : String} {names : List String}
  {path : Path}

def IsWhole (tree : Tree) : Prop :=
  ∀ place name, tree.node? (place ++ [name]) ≠ none → tree.node? place = some .folder

inductive Change : Tree → Tree → Prop where
  | folder {tree : Tree} {path : Path} {place : Place} (slot : tree.slot? path = some (.ok place))
      (absent : tree.node? place = none) : Change tree (tree.put place .folder)
  | file {tree : Tree} {path : Path} {place : Place} (slot : tree.slot? path = some (.ok place))
      (other : tree.node? place ≠ some .folder) (bytes : List UInt8) :
      Change tree (tree.put place (.file bytes))
  | emptied (tree : Tree) (above : Place) : Change tree (tree.clear above)
  | taken {tree : Tree} {place : Place} (empty : ∀ name, tree.node? (place ++ [name]) = none) :
      Change tree (tree.erase place)

def Changes : Tree → Tree → Prop :=
  Relation.ReflTransGen Change

theorem Change.current (change : tree.Change new) : new.current = tree.current := by
  cases change <;> rfl

private theorem whole_put (whole : tree.IsWhole) (inside : tree.node? folder = some .folder)
    (other : tree.node? (folder ++ [name]) ≠ some .folder) (node : Node) :
    (tree.put (folder ++ [name]) node).IsWhole := by
  intro place child present
  rw [node_put (by simp)] at present ⊢
  have held : tree.node? place = some .folder := by
    by_cases here : place ++ [child] = folder ++ [name]
    · rw [(List.append_singleton_inj.mp here).1, inside]
    · rw [if_neg here] at present
      exact whole place child present
  rw [if_neg, held]
  rintro rfl
  exact other held

theorem Change.whole (change : tree.Change new) (whole : tree.IsWhole) : new.IsWhole := by
  cases change with
  | folder slot absent =>
      obtain ⟨_, _, _, _, _, _, _, held, rfl⟩ := slot_eq_ok.mp slot
      exact whole_put whole held (by simp [absent]) .folder
  | file slot other bytes =>
      obtain ⟨_, _, _, _, _, _, _, held, rfl⟩ := slot_eq_ok.mp slot
      exact whole_put whole held other (.file bytes)
  | emptied above =>
      intro place name present
      rw [node_clear] at present ⊢
      split at present
      · exact absurd rfl present
      · next outside =>
          rw [if_neg fun below => outside (isBelow_child below name)]
          exact whole place name present
  | @taken gone empty =>
      intro place name present
      rw [node_erase (by simp)] at present
      split at present
      · exact absurd rfl present
      · have held := whole place name present
        by_cases root : place = []
        · rw [root, node_root]
        · rw [node_erase root, if_neg, held]
          rintro rfl
          exact present (empty name)

theorem Changes.whole (changes : tree.Changes new) (whole : tree.IsWhole) : new.IsWhole := by
  induction changes with
  | refl => exact whole
  | tail _ change ih => exact change.whole ih

theorem Change.distinct (change : tree.Change new) (distinct : tree.HasDistinctPlaces) :
    new.HasDistinctPlaces := by
  cases change with
  | folder | file => exact put_distinct distinct
  | emptied above => exact clear_distinct above distinct
  | taken => exact erase_distinct _ distinct

theorem Changes.distinct (changes : tree.Changes new) (distinct : tree.HasDistinctPlaces) :
    new.HasDistinctPlaces := by
  induction changes with
  | refl => exact distinct
  | tail _ change ih => exact change.distinct ih

theorem Changes.current (changes : tree.Changes new) : new.current = tree.current := by
  induction changes with
  | refl => rfl
  | tail _ change ih => exact change.current.trans ih

private theorem makeFolder_changes (made : tree.makeFolder path = .ok new) : tree.Changes new := by
  obtain ⟨_, slot, absent, rfl⟩ := makeFolder_eq_ok.mp made
  exact .single (.folder slot absent)

private theorem makeFolders_changes (tree : Tree) (path : Path) :
    tree.Changes (tree.makeFolders path).1 :=
  makeFolders_induction Changes (fun _ => .refl) .trans fun _ made => makeFolder_changes made

private theorem remove_changes (path : Path) : tree.Changes (tree.remove path).1 := by
  rw [remove]
  split
  · exact .refl
  · next place found =>
      split
      · have emptied : tree.Changes (tree.clear place) := .single (.emptied tree place)
        dsimp only
        split
        · exact emptied
        · refine emptied.tail (.taken fun name => ?_)
          rw [node_clear, isBelow_append, if_pos rfl]
      · exact .refl

private theorem write_changes {bytes : List UInt8} (wrote : tree.write path bytes = .ok new) :
    tree.Changes new := by
  obtain ⟨_, _, slot, other, rfl⟩ := write_eq_ok.mp wrote
  exact .single (.file slot other bytes)

/-! Making a folder again. -/

/-- Trees that have the same at each place, seen from the same folder. -/
structure Alike (first second : Tree) : Prop where
  current : first.current = second.current
  node : ∀ place, first.node? place = second.node? place

theorem Alike.isFolder (alike : new.Alike tree) (there : tree.isFolder path = true) :
    new.isFolder path = true :=
  isFolder_kept (fun place held => (alike.node place).trans held) alike.current there

theorem IsWhole.parent (whole : tree.IsWhole) (held : tree.node? place = some .folder) :
    tree.node? place.dropLast = some .folder := by
  rcases List.eq_nil_or_concat place with root | ⟨above, name, split⟩
  · rw [root, List.dropLast_nil, node_root]
  · rw [List.concat_eq_append] at split
    rw [split, List.dropLast_concat]
    exact whole above name (by simp [← split, held])

private theorem IsOpen.walk_folder (opens : tree.IsOpen here names) (whole : tree.IsWhole)
    (spells : Path.places here names ≠ []) :
    tree.node? (Path.walk here names) = some .folder := by
  induction names using List.reverseRecOn with
  | nil => exact absurd rfl spells
  | append_singleton above name ih =>
      by_cases up : name = ".."
      · subst up
        rw [Path.places_up] at spells
        rw [Path.walk_up]
        exact whole.parent (ih opens.init spells)
      · apply opens.folders
        rw [Path.places_name up, Path.walk_name up]
        simp

private theorem follow_erased (opens : tree.IsOpen here names)
    (passed : place ∈ Path.places here names) :
    (tree.erase place).follow here names = .error .missing := by
  obtain ⟨short, folders⟩ := opens
  induction names generalizing here with
  | nil => cases passed
  | cons name rest ih =>
      rw [List.forall_mem_cons] at short
      rw [Path.places] at folders passed
      rw [follow]
      by_cases up : name = ".."
      · rw [if_pos up] at folders passed ⊢
        exact ih passed short.2 folders
      · rw [if_neg up, List.forall_mem_cons] at folders
        rw [if_neg up, List.mem_cons] at passed
        rw [if_neg up, if_neg (short.1 up), node_erase (by simp)]
        by_cases cut : here ++ [name] = place
        · rw [if_pos cut]
        · rw [if_neg cut, folders.1]
          exact ih (passed.resolve_left fun same => cut same.symm) short.2 folders.2

private theorem IsOpen.erased (opens : tree.IsOpen here names)
    (apart : place ∉ Path.places here names) :
    (tree.erase place).IsOpen here names := by
  refine ⟨opens.short, ?_⟩
  intro passed spelled
  rw [node_erase (Path.mem_places_named spelled), if_neg, opens.folders passed spelled]
  rintro rfl
  exact apart spelled

private theorem ensureFolder_erased {anchor : Anchor} {above : List String}
    (brief : ¬ longestPath < (Path.text ⟨anchor, above ++ [name]⟩).utf8ByteSize)
    (opens : tree.IsOpen (tree.start ⟨anchor, above ++ [name]⟩) (above ++ [name]))
    (passed : place ∈ Path.places (tree.start ⟨anchor, above ++ [name]⟩) above) :
    (tree.erase place).ensureFolder ⟨anchor, above ++ [name]⟩ = .error .missing := by
  let path : Path := ⟨anchor, above ++ [name]⟩
  have start : (tree.erase place).start path = tree.start path := rfl
  have lost : (tree.erase place).find path = .error .missing := by
    rw [find, if_neg brief, start]
    apply follow_erased opens
    rw [Path.places_append]
    exact List.mem_append_left _ passed
  have refused : (tree.erase place).makeFolder path = .error .missing := by
    rw [makeFolder, lost, slot?, start]
    by_cases up : name = ".."
    · simp [path, up]
    · have cut := follow_erased opens.init passed
      simp only [path, List.getLast?_append, List.getLast?_singleton, Option.some_or,
        List.dropLast_concat, up, ↓reduceIte, if_neg brief, cut]
  rw [ensureFolder, refused, isFolder, lost]
  rfl

private theorem put_erase_alike {node : Node} (named : place ≠ [])
    (held : tree.node? place = some node) :
    ((tree.erase place).put place node).Alike tree := by
  refine ⟨rfl, ?_⟩
  intro other
  rw [node_put named, node_erased named]
  by_cases here : other = place
  · rw [if_pos here, here, held]
  · rw [if_neg here, if_neg here]

private theorem ensureFolder_last (whole : tree.IsWhole) {anchor : Anchor} {above : List String}
    (named : name ≠ "..")
    (brief : ¬ longestPath < (Path.text ⟨anchor, above ++ [name]⟩).utf8ByteSize)
    (opens : tree.IsOpen (tree.start ⟨anchor, above ++ [name]⟩) (above ++ [name]))
    (leads : Path.walk (tree.start ⟨anchor, above ++ [name]⟩) above = folder)
    (apart : folder ++ [name] ∉ Path.places (tree.start ⟨anchor, above ++ [name]⟩) above) :
    (tree.erase (folder ++ [name])).ensureFolder ⟨anchor, above ++ [name]⟩ =
      .ok ((tree.erase (folder ++ [name])).put (folder ++ [name]) .folder) := by
  have present : tree.node? (folder ++ [name]) = some .folder := by
    apply opens.folders
    rw [Path.places_name named, leads]
    simp
  have held : tree.node? folder = some .folder := whole folder name (by simp [present])
  have inside : (tree.erase (folder ++ [name])).node? folder = some .folder := by
    rw [node_erased (by simp), if_neg (by simp), held]
  have slot : (tree.erase (folder ++ [name])).slot? ⟨anchor, above ++ [name]⟩ =
      some (.ok (folder ++ [name])) := by
    rw [← leads] at apart inside ⊢
    exact slot_eq_ok.mpr ⟨above, name, rfl, named, brief, opens.short name (by simp) named,
      opens.init.erased apart, inside, rfl⟩
  have absent : (tree.erase (folder ++ [name])).node? (folder ++ [name]) = none := by
    rw [node_erase (by simp), if_pos rfl]
  rw [ensureFolder, makeFolder_eq_ok.mpr ⟨_, slot, absent, rfl⟩]

private theorem makeFoldersFrom_erased (whole : tree.IsWhole) {anchor : Anchor}
    (names : List String)
    (brief : ¬ longestPath < (Path.text ⟨anchor, names.reverse⟩).utf8ByteSize)
    (opens : tree.IsOpen (tree.start ⟨anchor, names.reverse⟩) names.reverse)
    (passed : place ∈ Path.places (tree.start ⟨anchor, names.reverse⟩) names.reverse) :
    ∃ new, (tree.erase place).makeFoldersFrom anchor names = (new, none) ∧ new.Alike tree := by
  induction names with
  | nil => cases passed
  | cons name above ih =>
      have start : tree.start ⟨anchor, (name :: above).reverse⟩ =
        tree.start ⟨anchor, above.reverse⟩ := rfl
      rw [start] at opens passed
      rw [List.reverse_cons] at brief opens passed
      rw [makeFoldersFrom, List.reverse_cons]
      by_cases earlier : place ∈ Path.places (tree.start ⟨anchor, above.reverse⟩) above.reverse
      · have some : above.reverse ≠ [] := by
          rintro none
          rw [none] at earlier
          cases earlier
        have shorter := Path.text_beginning anchor some [name]
        obtain ⟨middle, made, alike⟩ := ih (by omega) opens.init earlier
        have there : tree.isFolder ⟨anchor, above.reverse ++ [name]⟩ = true := by
          rw [isFolder_iff]
          refine ⟨brief, opens, opens.walk_folder whole ?_⟩
          exact List.ne_nil_of_mem passed
        rw [ensureFolder_erased brief opens earlier, made]
        simp only [ensureFolder_there (alike.isFolder there)]
        exact ⟨middle, rfl, alike⟩
      · have named : name ≠ ".." := by
          rintro rfl
          rw [Path.places_up] at passed
          exact earlier passed
        obtain ⟨folder, leads⟩ : ∃ folder,
            Path.walk (tree.start ⟨anchor, above.reverse⟩) above.reverse = folder := ⟨_, rfl⟩
        rw [Path.places_name named, List.mem_append, leads] at passed
        obtain rfl := List.mem_singleton.mp (passed.resolve_left earlier)
        have held : tree.node? (folder ++ [name]) = some .folder := by
          apply opens.folders
          rw [Path.places_name named, leads]
          simp
        rw [ensureFolder_last whole named brief opens leads earlier]
        exact ⟨_, rfl, put_erase_alike (by simp) held⟩

/-- In a whole tree a folder that was taken away by its path can be made again by it. -/
theorem makeFolders_erased (whole : tree.IsWhole) (clean : path.hasNul = false)
    (folder : tree.isFolder path = true)
    (spelled : path.resolve tree.current ∈ path.spelled tree.current) :
    ∃ new, (tree.erase (path.resolve tree.current)).makeFolders path = (new, none) ∧
      new.Alike tree := by
  obtain ⟨brief, opens, _⟩ := isFolder_iff.mp folder
  rw [makeFolders, if_neg (by simp [clean])]
  apply makeFoldersFrom_erased whole
  · rwa [List.reverse_reverse]
  · rw [List.reverse_reverse]
    exact opens
  · rw [List.reverse_reverse]
    exact spelled

end Tree

namespace Published

theorem vacate_changes (tree : Tree) (output : Path) : tree.Changes (vacate tree output).1 := by
  rw [vacate]
  split
  · exact .refl
  · exact .refl
  · exact Tree.remove_changes output

private theorem writeAll_changes (tree : Tree) (files : List (Path × String)) :
    tree.Changes (writeAll tree files).tree := by
  induction files generalizing tree with
  | nil => exact .refl
  | cons file rest ih =>
      rw [writeAll]
      split
      · exact .refl
      · next wrote => exact (Tree.write_changes wrote).trans (ih _)

private theorem fill_changes (tree : Tree) (output : Path) (files : List (String × String)) :
    tree.Changes (fill tree output files).tree := by
  rw [fill]
  split
  · exact writeAll_changes tree _
  · dsimp only
    split
    · exact writeAll_changes tree _
    · next wrote => exact (writeAll_changes tree _).trans (Tree.write_changes wrote)

/-- Whatever comes of publishing, the tree has been changed by the operations alone. -/
theorem publish_changes (schemas : Schemas) (settings : Settings) (tree : Tree) :
    tree.Changes (schemas.publish settings tree).tree := by
  have vacated := vacate_changes tree settings.output
  rw [Schemas.publish]
  split
  · next left error gone =>
      rwa [gone] at vacated
  · next left gone =>
      rw [gone] at vacated
      have made := Tree.makeFolders_changes left settings.output
      split
      · next folders =>
          rw [folders] at made
          exact vacated.trans made
      · next folders =>
          rw [folders] at made
          exact (vacated.trans made).trans (fill_changes _ _ _)

end Published

/-- A tree after runs that publish one after the other, whatever comes of each. -/
def Tree.publishing (tree : Tree) (runs : List (Schemas × Settings)) : Tree :=
  runs.foldl (fun tree run => (run.1.publish run.2 tree).tree) tree

private theorem Tree.publishing_changes (tree : Tree) (runs : List (Schemas × Settings)) :
    tree.Changes (tree.publishing runs) := by
  induction runs generalizing tree with
  | nil => exact .refl
  | cons run rest ih => exact (Published.publish_changes run.1 run.2 tree).trans (ih _)

def DistinctTree.publish (tree : DistinctTree) (schemas : Schemas) (settings : Settings) :
    DistinctTree where
  toTree := (schemas.publish settings tree.toTree).tree
  distinct := (Published.publish_changes schemas settings tree.toTree).distinct tree.distinct

structure WholeTree extends Tree where
  whole : toTree.IsWhole

namespace WholeTree

def publish (tree : WholeTree) (schemas : Schemas) (settings : Settings) : WholeTree where
  toTree := (schemas.publish settings tree.toTree).tree
  whole := (Published.publish_changes schemas settings tree.toTree).whole tree.whole

def publishing (tree : WholeTree) (runs : List (Schemas × Settings)) : WholeTree where
  toTree := tree.toTree.publishing runs
  whole := (Tree.publishing_changes tree.toTree runs).whole tree.whole

end WholeTree

end ModelViews
