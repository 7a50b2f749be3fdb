import ModelViews.Proofs.Faults
import ModelViews.Proofs.Filling
import ModelViews.Proofs.WholeTrees

namespace ModelViews

def Schemas.outputs (schemas : Schemas) (settings : Settings) : List (String × String) :=
  Keyed.put "index" (barrelText ((schemas.files settings).map Prod.fst)) (schemas.files settings)

/-- The names of the files of a run, in the order in which they are written. -/
def Schemas.outputNames (schemas : Schemas) (settings : Settings) : List String :=
  (schemas.files settings).map Prod.fst ++ ["index"]

/-- Whether a run leaves nothing but its files in the output folder: the path of the folder leads
somewhere, or nothing else is below the place that it spells, and it does not pass there itself. -/
def Schemas.Clears (schemas : Schemas) (settings : Settings) (tree : Tree) : Prop :=
  let folder := settings.output.resolve tree.current
  (∃ place, tree.find settings.output = .ok place) ∨
    (∀ place, Tree.isBelow folder place = true → tree.node? place ≠ none →
      place ∈ (schemas.outputNames settings).map (modulePlace folder)) ∧
    ∀ place ∈ settings.output.spelled tree.current, Tree.isBelow folder place = false

namespace Schemas

variable {schemas : Schemas} {settings : Settings}

private theorem files_nodup : ((schemas.files settings).map Prod.fst).Nodup := by
  have names : (schemas.files settings).map Prod.fst = schemas.modules.map Prod.fst := by
    rw [files, List.map_map]
    rfl
  rw [names]
  exact Keyed.keys_putAll_nodup (by simp) _

end Schemas

namespace Tree

variable {tree left ready : Tree} {path : Path}

private theorem node_emptied (held : tree.node? (path.resolve tree.current) = some .folder) :
    (tree.clear (path.resolve tree.current)).node? (path.resolve tree.current) = some .folder := by
  rw [node_clear, isBelow_self, if_neg Bool.false_ne_true, held]

private theorem spelled_of_remove (removed : tree.remove path = (left, none)) :
    path.resolve tree.current ∈ path.spelled tree.current ∧
      ∀ place ∈ path.spelled tree.current,
        (tree.clear (path.resolve tree.current)).node? place ≠ none := by
  obtain ⟨_, held, fine, rfl⟩ := remove_eq_ok.mp removed
  obtain ⟨above, name, _, split, named, led⟩ := removalFlaw_eq_none.mp fine
  have ends : path.resolve tree.current = Path.walk (tree.start path) above ++ [name] := by
    rw [resolve_walk, split, Path.walk_name named]
  have spelled : path.spelled tree.current =
      Path.places (tree.start path) above ++ [path.resolve tree.current] := by
    change Path.places (tree.start path) path.names = _
    rw [ends, split, Path.places_name named]
  rw [spelled]
  refine ⟨by simp, ?_⟩
  intro place passed
  rcases List.mem_append.mp passed with before | last
  · exact follow_present led place before
  · rw [List.mem_singleton.mp last, node_emptied held]
    exact Option.some_ne_none _

private theorem remade (removed : tree.remove path = (left, none))
    (made : left.makeFolders path = (ready, none)) :
    path.resolve tree.current ∈ path.spelled tree.current ∧
      (∀ place ∈ path.spelled tree.current,
        isBelow (path.resolve tree.current) place = false) ∧
      ready.Alike (tree.clear (path.resolve tree.current)) := by
  obtain ⟨ends, present⟩ := spelled_of_remove removed
  obtain ⟨_, held, _, rfl⟩ := remove_eq_ok.mp removed
  let gone := path.resolve tree.current
  refine ⟨ends, ?_, ?_⟩
  · intro place passed
    have there := present place passed
    rw [node_clear] at there
    exact Bool.eq_false_iff.mpr fun below => there (if_pos below)
  · have node (place : Place) := makeFolders_node ((tree.clear gone).erase gone) path place
    rw [made] at node
    have adds : AddsFolders _ (((tree.clear gone).erase gone).makeFolders path).1 :=
      makeFolders_adds path
    rw [made] at adds
    have goneNamed : gone ≠ [] := Path.mem_places_named ends
    refine ⟨adds.current, ?_⟩
    intro place
    by_cases here : place = gone
    · have folder := (isFolder_iff.mp (makeFolders_isFolder made).2).2.2
      rw [adds.current] at folder
      rw [here, node_emptied held]
      exact folder
    · rcases node place with same | ⟨absent, _, spelled⟩
      · rw [same, node_erased goneNamed, if_neg here]
      · rw [node_erased goneNamed, if_neg here] at absent
        exact absurd absent (present place spelled)

end Tree

namespace Published

variable {schemas : Schemas} {settings : Settings} {tree left ready : Tree} {output : Path}

private theorem ready_cases (vacated : vacate tree output = (left, none))
    (made : left.makeFolders output = (ready, none)) :
    ((∃ place, tree.find output = .ok place) ∧
        output.resolve tree.current ∈ output.spelled tree.current ∧
        (∀ place ∈ output.spelled tree.current,
          Tree.isBelow (output.resolve tree.current) place = false) ∧
        ready.Alike (tree.clear (output.resolve tree.current))) ∨
      (∀ place, tree.find output ≠ .ok place) ∧ ready.current = tree.current ∧
        ∀ place, ready.node? place = tree.node? place ∨
          tree.node? place = none ∧ ready.node? place = some .folder ∧
            place ∈ output.spelled tree.current := by
  rcases vacate_ok vacated with ⟨rfl, nowhere⟩ | removed
  · have node (place : Place) := Tree.makeFolders_node left output place
    have adds : Tree.AddsFolders left (left.makeFolders output).1 := Tree.makeFolders_adds output
    rw [made] at node adds
    refine .inr ⟨?_, adds.current, node⟩
    rcases nowhere with nul | lost
    · rw [(Tree.makeFolders_isFolder made).1] at nul
      cases nul
    · exact lost
  · exact .inl ⟨⟨_, (Tree.remove_eq_ok.mp removed).1⟩, Tree.remade removed made⟩

private theorem ready_current (vacated : vacate tree output = (left, none))
    (made : left.makeFolders output = (ready, none)) : ready.current = tree.current := by
  rcases ready_cases vacated made with ⟨_, _, _, alike⟩ | ⟨_, current, _⟩
  · exact alike.current
  · exact current

private theorem ready_outside (vacated : vacate tree output = (left, none))
    (made : left.makeFolders output = (ready, none)) {place : Place}
    (outside : Tree.isBelow (output.resolve tree.current) place = false) :
    ready.node? place = tree.node? place ∨
      tree.node? place = none ∧ ready.node? place = some .folder ∧
        place ∈ output.spelled tree.current := by
  rcases ready_cases vacated made with ⟨_, _, _, alike⟩ | ⟨_, _, node⟩
  · rw [alike.node, Tree.node_clear, outside]
    exact .inl rfl
  · exact node place

/-- Nothing but the files of a run is below its output folder if and only if the run clears it. -/
theorem publish_exact {paths : List Path}
    (flat : ∀ name ∈ (schemas.files settings).map Prod.fst, IsFlat name)
    (published : (schemas.publish settings tree).outcome = .ok paths) :
    (schemas.publish settings tree).tree.HasExactly (settings.output.resolve tree.current)
        (schemas.outputs settings) ↔ schemas.Clears settings tree := by
  obtain ⟨left, ready, vacated, made, filled, same⟩ := publish_eq_ok.mp published
  have current := ready_current vacated made
  have leads := (Tree.makeFolders_isFolder made).2
  have exactly := fill_exact flat schemas.files_nodup filled
  dsimp only at exactly
  rw [current] at exactly
  rw [same, Schemas.outputs, exactly, Schemas.Clears]
  rcases ready_cases vacated made with ⟨led, _, _, alike⟩ | ⟨lost, _, node⟩
  · refine iff_of_true ?_ (.inl led)
    intro place below present
    rw [alike.node, Tree.node_clear, if_pos below] at present
    exact absurd rfl present
  · rw [or_iff_right fun led => led.elim lost]
    constructor
    · intro covered
      constructor
      · intro place below present
        apply covered place below
        rcases node place with kept | ⟨absent, _⟩
        · rwa [kept]
        · exact absurd absent present
      · intro place spelled
        -- A folder that the path passes below its end would be in the way of a file of the run.
        by_contra below
        rw [Bool.not_eq_false] at below
        obtain ⟨_, opens, _⟩ := Tree.isFolder_iff.mp leads
        have start : ready.start settings.output = tree.start settings.output := by
          rw [Tree.start, current, Tree.start]
        rw [start] at opens
        have folder : ready.node? place = some .folder := opens.folders place spelled
        obtain ⟨name, member, rfl⟩ := List.mem_map.mp (covered place below (by simp [folder]))
        have free := ((fill_iff leads flat).mp ⟨paths, filled⟩ name member).2
        rw [current] at free
        exact free folder
    · rintro ⟨covered, out⟩ place below present
      rcases node place with kept | ⟨_, _, spelled⟩
      · exact covered place below (kept ▸ present)
      · rw [out place spelled] at below
        cases below

private theorem replaced_again (tree : WholeTree) (clean : output.hasNul = false)
    (there : tree.isFolder output = true) (spells : output.spelled tree.current ≠ [])
    (out : ∀ place ∈ output.spelled tree.current,
      Tree.isBelow (output.resolve tree.current) place = false) :
    ∃ left ready, vacate tree.toTree output = (left, none) ∧
      left.makeFolders output = (ready, none) ∧
      ready.Alike (tree.clear (output.resolve tree.current)) := by
  let folder := output.resolve tree.current
  let emptied := tree.clear folder
  obtain ⟨brief, opens, held⟩ := Tree.isFolder_iff.mp there
  obtain ⟨above, name, split, named⟩ := Tree.last_named spells out
  have kept {place : Place} (outside : Tree.isBelow folder place = false)
      (folders : tree.node? place = some .folder) : emptied.node? place = some .folder := by
    rw [Tree.node_clear, outside, if_neg Bool.false_ne_true, folders]
  have emptiedOpens : emptied.IsOpen (tree.start output) output.names :=
    ⟨opens.short, fun place spelled => kept (out place spelled) (opens.folders place spelled)⟩
  have stays : emptied.isFolder output = true :=
    Tree.isFolder_iff.mpr ⟨brief, emptiedOpens, kept (Tree.isBelow_self folder) held⟩
  have fine : emptied.removalFlaw? output = none := by
    rw [split] at emptiedOpens
    exact Tree.removalFlaw_eq_none.mpr
      ⟨above, name, _, split, named, Tree.follow_open emptiedOpens.init⟩
  have found := Tree.find_of_isFolder there
  have vacated : vacate tree.toTree output = (emptied.erase folder, none) := by
    rw [vacate, Tree.holds, if_neg (by simp [clean]), found]
    exact Tree.remove_eq_ok.mpr ⟨found, held, fine, rfl⟩
  have ends : folder ∈ output.spelled tree.current := by
    change Path.walk (tree.start output) output.names ∈
      Path.places (tree.start output) output.names
    rw [split, Path.walk_name named, Path.places_name named]
    simp
  obtain ⟨ready, made, alike⟩ := Tree.makeFolders_erased
    ((Tree.Change.emptied tree.toTree folder).whole tree.whole) clean stays ends
  exact ⟨_, ready, vacated, made, alike⟩

private theorem clears_way {paths : List Path}
    (published : (schemas.publish settings tree).outcome = .ok paths)
    (clears : schemas.Clears settings tree) :
    settings.output.spelled tree.current ≠ [] ∧
      ∀ place ∈ settings.output.spelled tree.current,
        Tree.isBelow (settings.output.resolve tree.current) place = false := by
  obtain ⟨left, ready, vacated, made, _, _⟩ := publish_eq_ok.mp published
  rcases ready_cases vacated made with ⟨_, ends, out, _⟩ | ⟨lost, _, _⟩
  · exact ⟨List.ne_nil_of_mem ends, out⟩
  · refine ⟨?_, (clears.resolve_left fun led => led.elim lost).2⟩
    intro none
    obtain ⟨brief, _, _⟩ := Tree.isFolder_iff.mp (Tree.makeFolders_isFolder made).2
    exact lost _ (Tree.find_unspelled none brief)

/-- A run that clears its output folder leaves the same when it is done again. -/
theorem publish_again (tree : WholeTree) {paths : List Path}
    (flat : ∀ name ∈ (schemas.files settings).map Prod.fst, IsFlat name)
    (published : (schemas.publish settings tree.toTree).outcome = .ok paths)
    (clears : schemas.Clears settings tree.toTree) :
    let new := tree.publish schemas settings
    (schemas.publish settings new.toTree).outcome = .ok paths ∧
      (new.publish schemas settings).Alike new.toTree := by
  intro new
  obtain ⟨left, ready, vacated, made, filled, same⟩ := publish_eq_ok.mp published
  obtain ⟨clean, leads⟩ := Tree.makeFolders_isFolder made
  have current : new.current = tree.current := (publish_changes schemas settings tree.toTree).current
  have folders : ready.SameFolders new.toTree := by
    change ready.SameFolders (schemas.publish settings tree.toTree).tree
    rw [same]
    exact fill_folders ready _ _
  have there : new.isFolder settings.output = true := folders.isFolder leads
  obtain ⟨spells, out⟩ := clears_way published clears
  rw [← current] at spells out
  obtain ⟨leftAgain, readyAgain, vacatedAgain, madeAgain, alike⟩ :=
    replaced_again new clean there spells out
  obtain ⟨listed, filledAgain⟩ : ∃ listed,
      (fill readyAgain settings.output (schemas.files settings)).outcome = .ok listed := by
    rw [fill_iff (Tree.makeFolders_isFolder madeAgain).2 flat]
    intro name member
    refine ⟨((fill_iff leads flat).mp ⟨paths, filled⟩ name member).1, ?_⟩
    rw [alike.node, alike.current]
    change (new.toTree.clear (settings.output.resolve new.current)).node?
      (modulePlace (settings.output.resolve new.current) name) ≠ _
    rw [Tree.node_clear, if_pos (modulePlace_below _ name)]
    simp
  have again : schemas.publish settings new.toTree =
      fill readyAgain settings.output (schemas.files settings) :=
    publish_made vacatedAgain madeAgain
  have publishedAgain : (schemas.publish settings new.toTree).outcome = .ok listed := by
    rw [again, filledAgain]
  refine ⟨?_, (publish_changes schemas settings new.toTree).current, ?_⟩
  · rw [publishedAgain, (fill_ok filledAgain).1, (fill_ok filled).1]
  · intro place
    cases below : Tree.isBelow (settings.output.resolve new.current) place with
    | true =>
        have first : new.HasExactly (settings.output.resolve new.current)
            (schemas.outputs settings) := by
          rw [current]
          exact (publish_exact flat published).mpr clears
        have second := (publish_exact flat publishedAgain).mpr
          (.inl ⟨_, Tree.find_of_isFolder there⟩)
        exact second.node_eq first below
    | false =>
        have readyCurrent : readyAgain.current = new.current := alike.current
        change (schemas.publish settings new.toTree).tree.node? place = _
        rw [again, fill_outside flat filledAgain (readyCurrent ▸ below), alike.node,
          Tree.node_clear, below]
        rfl

/-- What a run that publishes does to a tree, whatever runs came before. It returns the paths of its files
in their order, and all of them are there with their texts; outside of the output folder nothing is other
than it was, save for folders that were made on the way. Nothing else is below the output folder, and
the same run once more changes nothing, exactly if the run clears its folder. -/
theorem publish_replaces (start : Tree) (earlier : List (Schemas × Settings)) {paths : List Path}
    (flat : ∀ name ∈ (schemas.files settings).map Prod.fst, IsFlat name)
    (published : (schemas.publish settings (start.publishing earlier)).outcome = .ok paths) :
    let tree := start.publishing earlier
    let new := (schemas.publish settings tree).tree
    let folder := settings.output.resolve tree.current
    paths = (schemas.outputNames settings).map (modulePath settings.output) ∧
    new.node? folder = some .folder ∧
    (∀ name text, (name, text) ∈ schemas.outputs settings →
      new.node? (modulePlace folder name) = some (.file (Text.Utf8.encode text))) ∧
    (∀ place, ¬ folder <+: place → new.node? place = tree.node? place ∨
      tree.node? place = none ∧ new.node? place = some .folder ∧
        place ∈ settings.output.spelled tree.current) ∧
    (new.HasExactly folder (schemas.outputs settings) ↔ schemas.Clears settings tree) ∧
    ∀ whole : WholeTree, whole.toTree = start →
      ((schemas.publish settings new).outcome = .ok paths ∧
          (schemas.publish settings new).tree.Alike new ↔
        schemas.Clears settings tree) := by
  intro tree new folder
  obtain ⟨left, ready, vacated, made, filled, same⟩ := publish_eq_ok.mp published
  have current : ready.current = tree.current := ready_current vacated made
  have folders : ready.SameFolders new := by
    change ready.SameFolders (schemas.publish settings tree).tree
    rw [same]
    exact fill_folders ready _ _
  have there : new.isFolder settings.output = true :=
    folders.isFolder (Tree.makeFolders_isFolder made).2
  have newCurrent : new.current = tree.current := folders.current.trans current
  refine ⟨(fill_ok filled).1, ?_, ?_, ?_, publish_exact flat published, ?_⟩
  · have held := (Tree.isFolder_iff.mp there).2.2
    rwa [newCurrent] at held
  · intro name text member
    change (schemas.publish settings tree).tree.node? _ = _
    have written := fill_mem flat schemas.files_nodup filled member
    rwa [current, ← same] at written
  · intro place outside
    have apart : Tree.isBelow folder place = false := by
      rw [← Bool.not_eq_true]
      intro below
      obtain ⟨rest, _, rfl⟩ := Tree.isBelow_iff.mp below
      exact outside (List.prefix_append folder rest)
    have unwritten : new.node? place = ready.node? place := by
      change (schemas.publish settings tree).tree.node? place = _
      rw [same, fill_outside flat filled (current ▸ apart)]
    rw [unwritten]
    exact ready_outside vacated made apart
  · rintro whole rfl
    constructor
    · rintro ⟨publishedAgain, alike⟩
      have second := (publish_exact flat publishedAgain).mpr
        (.inl ⟨_, Tree.find_of_isFolder there⟩)
      apply (publish_exact flat published).mp
      intro place below node
      rw [newCurrent] at second
      rw [← second place below node, alike.node]
    · exact publish_again (whole.publishing earlier) flat published

def single (name : String) (values : List String) : Schemas where
  enums := [.ofEnum { name := name, values := values.map fun value => { name := value } }]

theorem mood_replaces_role :
    let earlier := [(single "Role" ["USER", "ADMIN"], Settings.standard)]
    let tree := Tree.publishing ⟨[], []⟩ earlier
    let mood := single "Mood" ["CALM"]
    let new := (mood.publish Settings.standard tree).tree
    let folder := Settings.standard.output.resolve tree.current
    tree.node? (modulePlace folder "Role") ≠ none ∧
    ∃ paths, (mood.publish Settings.standard tree).outcome = .ok paths ∧
      new.HasExactly folder (mood.outputs Settings.standard) ∧
      (mood.publish Settings.standard new).outcome = .ok paths ∧
      (mood.publish Settings.standard new).tree.Alike new := by
  intro earlier tree mood new folder
  have flat : ∀ name ∈ (mood.files Settings.standard).map Prod.fst, IsFlat name := by
    decide +kernel
  obtain ⟨paths, published⟩ : ∃ paths,
      (mood.publish Settings.standard tree).outcome = .ok paths := by
    rw [← errorOf_eq_none]
    decide +kernel
  have leads : ∃ place, tree.find Settings.standard.output = .ok place := by
    rw [← errorOf_eq_none]
    decide +kernel
  have whole : Tree.IsWhole ⟨[], []⟩ := by
    intro place name present
    simp [Tree.node?] at present
  obtain ⟨_, _, _, _, exactly, again⟩ := publish_replaces ⟨[], []⟩ earlier flat published
  refine ⟨by decide +kernel, paths, published, exactly.mpr (.inl leads), ?_⟩
  exact (again ⟨⟨[], []⟩, whole⟩ rfl).mpr (.inl leads)

/-- Where a path leads nowhere for double dots behind a folder that is missing, a file that was in the
folder that it spells outlives a run, and goes with the next. -/
theorem stale_file_survives :
    let stale : Place := ["out", "Stale.ts"]
    let tree : Tree := ⟨[], [(["out"], .folder), (stale, .file (Text.Utf8.encode "old"))]⟩
    let settings : Settings := { Settings.standard with output := Path.ofText "missing/../out" }
    ∃ schemas paths, (({} : Datamodel).compile settings).outcome = .ok schemas ∧
      (∀ name ∈ (schemas.files settings).map Prod.fst, IsFlat name) ∧
      let new := (schemas.publish settings tree).tree
      (schemas.publish settings tree).outcome = .ok paths ∧
      new.node? stale = some (.file (Text.Utf8.encode "old")) ∧
      ¬ new.HasExactly (settings.output.resolve tree.current) (schemas.outputs settings) ∧
      (schemas.publish settings new).outcome = .ok paths ∧
      ¬ (schemas.publish settings new).tree.Alike new := by
  intro stale tree settings
  obtain ⟨schemas, compiled⟩ : ∃ schemas,
      (({} : Datamodel).compile settings).outcome = .ok schemas := by
    rw [← errorOf_eq_none, Datamodel.compile_fault_sites]
    decide +kernel
  refine ⟨schemas, [Path.ofText "missing/../out/index.ts"], compiled, ?_⟩
  rw [Datamodel.compile_ok {} settings compiled]
  let found : Schemas := ⟨(Datamodel.context {} settings).enums, View.all.map fun view =>
    (view, ({} : Datamodel).models.filterMap (view.rowOf? (Datamodel.context {} settings)))⟩
  let new := (found.publish settings tree).tree
  have published : (found.publish settings tree).outcome =
      .ok [Path.ofText "missing/../out/index.ts"] := by decide +kernel
  have survives : new.node? stale = some (.file (Text.Utf8.encode "old")) := by decide +kernel
  have written : found.outputs settings = [("index", "")] := by decide +kernel
  have publishedAgain : (found.publish settings new).outcome =
      .ok [Path.ofText "missing/../out/index.ts"] := by decide +kernel
  have gone : (found.publish settings new).tree.node? stale = none := by decide +kernel
  refine ⟨by decide +kernel, published, survives, ?_, publishedAgain, ?_⟩
  · intro exactly
    obtain ⟨name, text, member, same, _⟩ := (exactly stale (by decide +kernel) _).mp survives
    change (name, text) ∈ found.outputs settings at member
    rw [written, List.mem_singleton, Prod.mk.injEq] at member
    rw [member.1] at same
    exact absurd same (by decide +kernel)
  · intro alike
    have kept := alike.node stale
    change (found.publish settings new).tree.node? stale = new.node? stale at kept
    rw [gone, survives] at kept
    cases kept

end Published
end ModelViews
