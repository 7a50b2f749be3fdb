import ModelViews.Compilation
import ModelViews.Proofs.Spellings
import ModelViews.Proofs.Tables
import ModelViews.Proofs.TextParts

namespace ModelViews

namespace Settings

open Text (IsBlankText Splits Trims trimmed)

/-! Texts that list keys. -/

/-- A key that a text can list: one that is not empty, has no blanks at its ends, and no comma. -/
structure IsKey (key : String) : Prop where
  nonempty : key ≠ ""
  trims : Trims key.toList key.toList
  undivided : ',' ∉ key.toList

/-- Segments that list keys in their order. A key stands between blanks, if there are any; a segment of
blanks alone, or an empty one, may come anywhere and lists nothing. -/
inductive Segments : List String → List String → Prop where
  | nil : Segments [] []
  | blank {keys segments : List String} {segment : String} (blank : IsBlankText segment.toList)
      (others : Segments keys segments) : Segments keys (segment :: segments)
  | key {keys segments : List String} {left right : String} (key : String)
      (before : IsBlankText left.toList) (after : IsBlankText right.toList)
      (others : Segments keys segments) : Segments (key :: keys) ((left ++ key ++ right) :: segments)

def Lists (text : String) (keys : List String) : Prop :=
  ∃ segments, Segments keys segments ∧ text = ",".intercalate segments

def keysOf (segments : List String) : List String :=
  (segments.map trimmed).filter (· != "")

variable {keys segments : List String} {text segment : String}

private theorem splitKeys_eq (text : String) : splitKeys text = keysOf (Text.pieces ',' text) :=
  rfl

private theorem trimmed_eq_iff {key : String} :
    trimmed segment = key ↔ Trims segment.toList key.toList := by
  rw [Text.trims_iff, ← String.toList_inj, Text.toList_trimmed, eq_comm]

private theorem trimmed_eq_empty : trimmed segment = "" ↔ IsBlankText segment.toList := by
  rw [trimmed_eq_iff]
  constructor
  · rintro ⟨⟨left, right, split, before, after⟩, _, _⟩ c member
    rw [split, String.toList_empty, List.append_nil, List.mem_append] at member
    exact member.elim (before c) (after c)
  · intro blank
    exact ⟨⟨segment.toList, [], by simp, blank, List.forall_mem_nil _⟩, nofun, nofun⟩

private theorem trimmed_between {key left right : String} (trims : Trims key.toList key.toList)
    (before : IsBlankText left.toList) (after : IsBlankText right.toList) :
    trimmed (left ++ key ++ right) = key := by
  apply trimmed_eq_iff.mpr
  exact ⟨⟨left.toList, right.toList, by simp, before, after⟩, trims.starts, trims.ends⟩

private theorem Segments.keysOf_eq (lists : Segments keys segments)
    (usable : ∀ key ∈ keys, IsKey key) :
    keysOf segments = keys := by
  induction lists with
  | nil => rfl
  | blank blank _ ih =>
      rw [keysOf, List.map_cons, trimmed_eq_empty.mpr blank]
      exact ih usable
  | key key before after _ ih =>
      rw [List.forall_mem_cons] at usable
      have kept : (key != "") = true := by simpa using usable.1.nonempty
      rw [keysOf, List.map_cons, trimmed_between usable.1.trims before after, List.filter_cons,
        if_pos kept]
      exact congrArg (key :: ·) (ih usable.2)

private theorem comma_not_mem_blank {blanks : List Char} (blank : IsBlankText blanks) :
    ',' ∉ blanks :=
  blank.not_mem (by decide)

private theorem Segments.undivided (lists : Segments keys segments)
    (usable : ∀ key ∈ keys, IsKey key) :
    ∀ segment ∈ segments, ',' ∉ segment.toList := by
  induction lists with
  | nil => exact List.forall_mem_nil _
  | blank blank _ ih => exact List.forall_mem_cons.mpr ⟨comma_not_mem_blank blank, ih usable⟩
  | key key before after _ ih =>
      rw [List.forall_mem_cons] at usable
      refine List.forall_mem_cons.mpr ⟨?_, ih usable.2⟩
      simp only [String.toList_append, List.mem_append, not_or]
      exact ⟨⟨comma_not_mem_blank before, usable.1.undivided⟩, comma_not_mem_blank after⟩

private theorem isKey_trimmed (undivided : ',' ∉ segment.toList) (nonempty : trimmed segment ≠ "") :
    IsKey (trimmed segment) := by
  have trims : Trims segment.toList (trimmed segment).toList := trimmed_eq_iff.mp rfl
  obtain ⟨left, right, split, _, _⟩ := trims.between
  refine ⟨nonempty, trims.again, ?_⟩
  intro member
  apply undivided
  rw [split]
  exact List.mem_append_left _ (List.mem_append_right _ member)

private theorem Segments.trimmed_cons (segment : String) (lists : Segments keys segments) :
    Segments (trimmed segment :: keys) (segment :: segments) := by
  have trims : Trims segment.toList (trimmed segment).toList := trimmed_eq_iff.mp rfl
  obtain ⟨left, right, split, before, after⟩ := trims.between
  have whole : segment = String.ofList left ++ trimmed segment ++ String.ofList right := by
    rw [← String.toList_inj]
    simpa using split
  have listed : Segments (trimmed segment :: keys)
      ((String.ofList left ++ trimmed segment ++ String.ofList right) :: segments) :=
    .key _ (by simpa using before) (by simpa using after) lists
  rwa [← whole] at listed

private theorem segments_keysOf (undivided : ∀ segment ∈ segments, ',' ∉ segment.toList) :
    (∀ key ∈ keysOf segments, IsKey key) ∧ Segments (keysOf segments) segments := by
  induction segments with
  | nil => exact ⟨List.forall_mem_nil _, .nil⟩
  | cons segment segments ih =>
      rw [List.forall_mem_cons] at undivided
      obtain ⟨usable, lists⟩ := ih undivided.2
      rw [keysOf, List.map_cons]
      by_cases blank : trimmed segment = ""
      · rw [List.filter_cons_of_neg (by simpa using blank)]
        exact ⟨usable, .blank (trimmed_eq_empty.mp blank) lists⟩
      · rw [List.filter_cons_of_pos (by simpa using blank)]
        exact ⟨List.forall_mem_cons.mpr ⟨isKey_trimmed undivided.1 blank, usable⟩,
          lists.trimmed_cons segment⟩

/-- The keys that are read from a text are those that it lists. -/
theorem splitKeys_eq_iff :
    splitKeys text = keys ↔ (∀ key ∈ keys, IsKey key) ∧ Lists text keys := by
  constructor
  · rintro rfl
    have splits : Splits ',' text (Text.pieces ',' text) := Text.splits_iff.mpr rfl
    obtain ⟨usable, lists⟩ := segments_keysOf splits.free
    exact ⟨usable, _, lists, splits.joined.symm⟩
  · rintro ⟨usable, segments, lists, rfl⟩
    have keys := lists.keysOf_eq usable
    cases segments with
    | nil =>
        rw [← keys]
        decide
    | cons segment segments =>
        have splits : Splits ',' (",".intercalate (segment :: segments)) (segment :: segments) :=
          ⟨List.cons_ne_nil _ _, lists.undivided usable, rfl⟩
        rw [splitKeys_eq, ← Text.splits_iff.mp splits, keys]

example : splitKeys " id,, createdAt\t,\u3000" = ["id", "createdAt"] := by decide +kernel

end Settings

namespace Checked

private theorem Name.find_around (name : Name) (key : String)
    (before after : List (String × Json)) :
    (∀ value, name.find? (before ++ (key, value) :: after) = some (key, value)) ∨
      ∃ found, ∀ value, name.find? (before ++ (key, value) :: after) = found := by
  have each (other : String) :
      (other = key ∧ ∀ value, (before ++ (key, value) :: after).lookup other = some value) ∨
        ∃ found, ∀ value, (before ++ (key, value) :: after).lookup other = found := by
    simp only [Keyed.lookup_around]
    cases before.lookup other with
    | some held => exact .inr ⟨some held, fun _ => rfl⟩
    | none =>
        by_cases here : other = key
        · exact .inl ⟨here, fun _ => by rw [if_pos here]; rfl⟩
        · exact .inr ⟨after.lookup other, fun _ => by rw [if_neg here]; rfl⟩
  rcases each name.preferred with ⟨rfl, here⟩ | ⟨found, elsewhere⟩
  · exact .inl fun value => by rw [find?, here]
  · cases found with
    | some held => exact .inr ⟨_, fun value => by rw [find?, elsewhere]⟩
    | none =>
        rcases each name.alternative with ⟨rfl, here⟩ | ⟨other, otherwise⟩
        · exact .inl fun value => by rw [find?, elsewhere, here]; rfl
        · exact .inr ⟨_, fun value => by rw [find?, elsewhere, otherwise]⟩

private theorem defaulted_congr {α : Type} {name : Name} {first second : List (String × Json)}
    (default : α) (check : Json → Checked α) (same : name.find? first = name.find? second) :
    defaulted name default check first = defaulted name default check second := by
  rw [defaulted, defaulted, same]

end Checked

namespace Settings

open Checked (app defaulted)

variable {keys : List String} {text name : String} {value other : Json}
  {before after first second members : List (String × Json)} {output : Option Json}

def NamesKeys (name : String) : Prop :=
  IsSpelling "ignored_keys_on_input_models" name

instance (name : String) : Decidable (NamesKeys name) :=
  inferInstanceAs (Decidable (IsSpelling _ _))

def Gives (keys : List String) (json : Json) : Prop :=
  readKeys json = .good keys

private theorem reads_gives : Checked.Reads readKeys Gives :=
  fun _ _ read => read

def ignored (members : List (String × Json)) : Checked (List String) :=
  defaulted ⟨"ignoredKeysOnInputModels", "ignored_keys_on_input_models"⟩ standard.ignoredKeys readKeys
    members

def beside (members : List (String × Json)) : Checked (List String → Settings) :=
  Settings.mk <$> defaulted (.plain "output") standard.output readOutput members
    <*> defaulted ⟨"arktypeImportDependencyName", "arktype_import_dependency_name"⟩
      standard.importName readImportName members

private theorem readMembers_eq (members : List (String × Json)) :
    readMembers members = app (beside members) (ignored members) :=
  rfl

def withOutput : Option Json → List (String × Json) → List (String × Json)
  | none, members => members
  | some output, members => Keyed.put "output" output members

def settle : Checked Settings → Except SettingsError Settings
  | .good settings => .ok settings
  | .bad problems => .error (.problems problems)

private theorem resolve_obj (members : List (String × Json)) (output : Option Json) :
    resolve (.obj members) output = settle (readMembers (withOutput output members)) := by
  have named : optionMembers (.obj members) = .ok members := by
    cases members <;> rfl
  rw [resolve, named]
  cases output <;> rfl

private theorem lookup_withOutput (name : String) :
    (withOutput output members).lookup name =
      if name = "output" then output.or (members.lookup name) else members.lookup name := by
  cases output with
  | none => rw [withOutput, Option.none_or, ite_self]
  | some output => rw [withOutput, Keyed.lookup_put, Option.some_or]

private theorem find_withOutput {wanted : Checked.Name} (preferred : wanted.preferred ≠ "output")
    (alternative : wanted.alternative ≠ "output") :
    wanted.find? (withOutput output members) = wanted.find? members := by
  rw [Checked.Name.find?, Checked.Name.find?, lookup_withOutput, if_neg preferred, lookup_withOutput,
    if_neg alternative]

private theorem ignored_withOutput : ignored (withOutput output members) = ignored members :=
  Checked.defaulted_congr _ _ (find_withOutput (by decide) (by decide))

private theorem beside_congr
    (same : ∀ name, ¬ NamesKeys name → first.lookup name = second.lookup name) :
    beside (withOutput output first) = beside (withOutput output second) := by
  have found (wanted : Checked.Name) (preferred : ¬ NamesKeys wanted.preferred)
      (alternative : ¬ NamesKeys wanted.alternative) :
      wanted.find? (withOutput output first) = wanted.find? (withOutput output second) := by
    simp only [Checked.Name.find?, lookup_withOutput, same _ preferred, same _ alternative]
  rw [beside, beside, Checked.defaulted_congr _ _ (found (.plain "output") (by decide) (by decide)),
    Checked.defaulted_congr _ _ (found ⟨"arktypeImportDependencyName", "arktype_import_dependency_name"⟩
      (by decide) (by decide))]

private theorem ignored_around (same : readKeys value = readKeys other) :
    ignored (before ++ (name, value) :: after) = ignored (before ++ (name, other) :: after) := by
  rw [ignored, ignored, defaulted, defaulted]
  rcases Checked.Name.find_around _ name before after with here | ⟨found, elsewhere⟩
  · rw [here, here]
    simp only [same]
  · rw [elsewhere, elsewhere]

private theorem ignored_named (names : NamesKeys name)
    (others : ∀ member ∈ before ++ after, ¬ NamesKeys member.1) (gives : Gives keys value) :
    ignored (before ++ (name, value) :: after) = .good keys := by
  apply Checked.defaulted_spelled _ reads_gives (by decide)
  refine .inl ⟨name, value, names, by simp, gives, ?_⟩
  intro member present names
  rcases List.mem_append.mp present with earlier | present
  · exact absurd names (others member (List.mem_append_left _ earlier))
  · rcases List.mem_cons.mp present with rfl | later
    · rfl
    · exact absurd names (others member (List.mem_append_right _ later))

private theorem ignored_unnamed (others : ∀ member ∈ members, ¬ NamesKeys member.1) :
    ignored members = .good standard.ignoredKeys :=
  Checked.defaulted_spelled _ reads_gives (by decide) (.inr ⟨rfl, others⟩)

private theorem beside_around (names : NamesKeys name) (value other : Json) :
    beside (withOutput output (before ++ (name, value) :: after)) =
      beside (withOutput output (before ++ (name, other) :: after)) := by
  apply beside_congr
  intro wanted unnamed
  have apart : wanted ≠ name := fun same => unnamed (same ▸ names)
  rw [Keyed.lookup_beside apart, Keyed.lookup_beside apart]

private theorem resolve_around (names : NamesKeys name) (same : readKeys value = readKeys other) :
    resolve (.obj (before ++ (name, value) :: after)) output =
      resolve (.obj (before ++ (name, other) :: after)) output := by
  rw [resolve_obj, resolve_obj, readMembers_eq, readMembers_eq, ignored_withOutput, ignored_withOutput,
    ignored_around same, beside_around names value other]

def withKeys (keys : List String) (settings : Settings) : Settings :=
  { settings with ignoredKeys := keys }

private theorem settle_keys (path : Checked Path) (importName : Checked String)
    (keys others : List String) :
    settle (app (Settings.mk <$> path <*> importName) (.good keys)) =
      (settle (app (Settings.mk <$> path <*> importName) (.good others))).map (withKeys keys) := by
  cases path <;> cases importName <;> rfl

private theorem resolve_named (names : NamesKeys name)
    (others : ∀ member ∈ before ++ after, ¬ NamesKeys member.1) (gives : Gives keys value) :
    resolve (.obj (before ++ (name, value) :: after)) output =
      (resolve (.obj (before ++ after)) output).map (withKeys keys) := by
  have same : beside (withOutput output (before ++ (name, value) :: after)) =
      beside (withOutput output (before ++ after)) := by
    apply beside_congr
    intro wanted unnamed
    have apart : wanted ≠ name := fun same => unnamed (same ▸ names)
    exact Keyed.lookup_beside apart before after
  rw [resolve_obj, resolve_obj, readMembers_eq, readMembers_eq, ignored_withOutput, ignored_withOutput,
    ignored_named names others gives, ignored_unnamed others, same]
  exact settle_keys _ _ keys _

private theorem gives_list (keys : List String) : Gives keys (.arr (keys.map .str)) :=
  Checked.reads_list Checked.reads_text keys _ (Form.list_map Form.text_str keys)

private theorem gives_text_iff : Gives keys (.str text) ↔ splitKeys text = keys := by
  rw [Gives, readKeys, Checked.good.injEq]

/-- A text and a list give the same keys, if the text lists the keys of the list and nothing else: then
whatever the other options are, and whichever name the keys are given under, the settings are the same, or
the options are refused with the same problems, and every data model compiles to the same; and if this is
so for all options, the text lists the keys. Where no other option names keys, the settings are those
without the option, with these keys to leave out, in whichever form and under whichever name they are
given. -/
theorem text_lists_iff (usable : ∀ key ∈ keys, IsKey key) (text : String) :
    (Lists text keys ↔ ∀ name before after output, NamesKeys name →
      resolve (.obj (before ++ (name, .str text) :: after)) output =
        resolve (.obj (before ++ (name, .arr (keys.map .str)) :: after)) output ∧
      ∀ datamodel : Datamodel,
        (resolve (.obj (before ++ (name, .str text) :: after)) output).map datamodel.compile =
          (resolve (.obj (before ++ (name, .arr (keys.map .str)) :: after)) output).map
            datamodel.compile) ∧
    (Lists text keys → ∀ form ∈ [Json.str text, .arr (keys.map .str)],
      ∀ name before after output, NamesKeys name →
        (∀ member ∈ before ++ after, ¬ NamesKeys member.1) →
        resolve (.obj (before ++ (name, form) :: after)) output =
          (resolve (.obj (before ++ after)) output).map (withKeys keys)) := by
  have gives (lists : Lists text keys) : Gives keys (.str text) :=
    gives_text_iff.mpr (splitKeys_eq_iff.mpr ⟨usable, lists⟩)
  refine ⟨⟨?_, ?_⟩, ?_⟩
  · intro lists name before after output names
    have same : readKeys (.str text) = readKeys (.arr (keys.map .str)) :=
      (gives lists).trans (gives_list keys).symm
    have alike : resolve (.obj (before ++ (name, .str text) :: after)) output =
        resolve (.obj (before ++ (name, .arr (keys.map .str)) :: after)) output :=
      resolve_around names same
    exact ⟨alike, fun datamodel => congrArg (Except.map datamodel.compile) alike⟩
  · intro alike
    have names : NamesKeys "ignoredKeysOnInputModels" := by decide
    obtain ⟨same, _⟩ := alike "ignoredKeysOnInputModels" [] [] none names
    have none : ∀ member ∈ ([] ++ [] : List (String × Json)), ¬ NamesKeys member.1 := nofun
    have split : Gives (splitKeys text) (.str text) := gives_text_iff.mpr rfl
    rw [resolve_named names none split, resolve_named names none (gives_list keys)] at same
    have keysSame : splitKeys text = keys := congrArg Settings.ignoredKeys (Except.ok.inj same)
    exact (splitKeys_eq_iff.mp keysSame).2
  · intro lists form listed name before after output names others
    apply resolve_named names others
    rcases List.mem_pair.mp listed with rfl | rfl
    · exact gives lists
    · exact gives_list keys

def loggedKeys : List String :=
  ["id", "written at"]

def loggedText : String :=
  "\u3000id ,, \t,written at,"

theorem logged_keys_alike :
    (∀ key ∈ loggedKeys, IsKey key) ∧ Lists loggedText loggedKeys ∧
      resolve (.obj [("output", .str "out"), ("ignored_keys_on_input_models", .str loggedText)]) none =
        resolve (.obj [("output", .str "out"),
          ("ignored_keys_on_input_models", .arr [.str "id", .str "written at"])]) none ∧
      resolve (.obj [("ignoredKeysOnInputModels", .str loggedText), ("output", .str "out")]) none =
        .ok ⟨Path.ofText "out", "arktype", loggedKeys⟩ := by
  have split : splitKeys loggedText = loggedKeys := by decide +kernel
  obtain ⟨usable, lists⟩ := splitKeys_eq_iff.mp split
  obtain ⟨alike, alone⟩ := text_lists_iff usable loggedText
  obtain ⟨same, _⟩ := alike.mp lists "ignored_keys_on_input_models" [("output", .str "out")] [] none
    (by decide)
  have named := alone lists (.str loggedText) List.mem_cons_self "ignoredKeysOnInputModels" []
    [("output", .str "out")] none (by decide) (by decide)
  exact ⟨usable, lists, same, named⟩

end Settings
end ModelViews
