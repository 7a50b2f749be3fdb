import Mathlib.Data.List.Basic
import ModelViews.Proofs.Literals
import ModelViews.View.Basic
import ModelViews.View.Relation

namespace ModelViews.ObjectText

open Definition (Enclosed IsMark isLiteral)

/-- A reader takes a part off the front of a text and leaves the rest, or refuses the text. -/
structure Reader where
  read : List Char → Option (List Char × List Char)
  splits : ∀ {text taken rest}, read text = some (taken, rest) → text = taken ++ rest

namespace Reader

def Takes (reader : Reader) (part : List Char) : Prop :=
  ∀ rest, reader.read (part ++ rest) = some (part, rest)

def exactly (part : String) : Reader where
  read text := (part.toList.isPrefixOf? text).map (part.toList, ·)
  splits := by
    intro text taken rest given
    simp only [Option.map_eq_some_iff, List.isPrefixOf?_eq_some_iff_append_eq,
      Prod.mk.injEq] at given
    obtain ⟨_, same, rfl, rfl⟩ := given
    exact same.symm

def andThen (first second : Reader) : Reader where
  read text :=
    (first.read text).bind fun (taken, middle) =>
      (second.read middle).map fun (more, rest) => (taken ++ more, rest)
  splits := by
    intro text taken rest given
    simp only [Option.bind_eq_some_iff, Option.map_eq_some_iff, Prod.mk.injEq,
      Prod.exists] at given
    obtain ⟨before, middle, head, more, _, tail, rfl, rfl⟩ := given
    rw [first.splits head, second.splits tail, List.append_assoc]

def orElse (first second : Reader) : Reader where
  read text := (first.read text).or (second.read text)
  splits := by
    intro text taken rest given
    rcases Option.or_eq_some_iff.mp given with given | ⟨_, given⟩
    · exact first.splits given
    · exact second.splits given

def maybe (reader : Reader) : Reader :=
  reader.orElse (exactly "")

end Reader

/-- The text before the first bare mark, and the text after it. A backslash takes the character after
it along. -/
def upTo (mark : Char) : List Char → Option (List Char × List Char)
  | [] => none
  | '\\' :: text =>
    match text with
    | [] => none
    | c :: text => (upTo mark text).map fun (inside, rest) => ('\\' :: c :: inside, rest)
  | c :: text =>
    if c = mark then some ([], text)
    else (upTo mark text).map fun (inside, rest) => (c :: inside, rest)

def between (mark : Char) : List Char → Option (List Char × List Char)
  | [] => none
  | c :: text => if c = mark then upTo mark text else none

theorem upTo_sound {mark : Char} {text inside rest : List Char}
    (found : upTo mark text = some (inside, rest)) :
    text = inside ++ mark :: rest ∧ Enclosed mark inside := by
  fun_induction upTo mark text generalizing inside with
  | case1 => simp at found
  | case2 => simp at found
  | case3 c text ih =>
      simp only [Option.map_eq_some_iff, Prod.exists, Prod.mk.injEq] at found
      obtain ⟨inner, _, found, rfl, rfl⟩ := found
      obtain ⟨split, enclosed⟩ := ih found
      exact ⟨by rw [split]; rfl, .escape enclosed⟩
  | case4 text _ =>
      simp only [Option.some.injEq, Prod.mk.injEq] at found
      obtain ⟨rfl, rfl⟩ := found
      exact ⟨rfl, .nil⟩
  | case5 c text noEscape noMark ih =>
      simp only [Option.map_eq_some_iff, Prod.exists, Prod.mk.injEq] at found
      obtain ⟨inner, _, found, rfl, rfl⟩ := found
      obtain ⟨split, enclosed⟩ := ih found
      exact ⟨by rw [split]; rfl, .plain noEscape noMark enclosed⟩

theorem upTo_complete {mark : Char} (noEscape : mark ≠ '\\') {inside : List Char}
    (enclosed : Enclosed mark inside) (rest : List Char) :
    upTo mark (inside ++ mark :: rest) = some (inside, rest) := by
  induction enclosed with
  | nil => simp [upTo]
  | plain noEscape noMark _ ih => simp [upTo, noMark, ih]
  | escape _ ih => simp [upTo, ih]

theorem between_sound {mark : Char} {text inside rest : List Char}
    (found : between mark text = some (inside, rest)) :
    text = mark :: inside ++ mark :: rest ∧ Enclosed mark inside := by
  cases text with
  | nil => simp [between] at found
  | cons c text =>
      rw [between] at found
      split at found
      · obtain ⟨split, enclosed⟩ := upTo_sound found
        subst c
        exact ⟨by rw [split]; rfl, enclosed⟩
      · simp at found

private theorem between_complete {mark : Char} (isMark : IsMark mark) {inside : List Char}
    (enclosed : Enclosed mark inside) (rest : List Char) :
    between mark (mark :: inside ++ mark :: rest) = some (inside, rest) := by
  rw [List.cons_append, between, if_pos rfl]
  exact upTo_complete isMark.ne_escape enclosed rest

namespace Reader

def quoted (mark : Char) : Reader where
  read text := (between mark text).map fun (inside, rest) => (mark :: inside ++ [mark], rest)
  splits := by
    intro text taken rest given
    simp only [Option.map_eq_some_iff, Prod.exists, Prod.mk.injEq] at given
    obtain ⟨inside, _, found, rfl, rfl⟩ := given
    rw [(between_sound found).1]
    simp

def literal : Reader :=
  (quoted '"').orElse (quoted '\'')

def target : Reader :=
  (exactly "\x7b \"id\": ").andThen <| literal.andThen (exactly " \x7d")

/-- Takes what a relation is connected to or disconnected from: one record, several, or a literal. -/
def operand : Reader :=
  literal.orElse <| target.andThen (maybe (exactly "[]"))

def member : Reader :=
  ((exactly "\"connect\"").orElse (exactly "\"disconnect\"")).andThen <|
    (maybe (exactly "?")).andThen <| (exactly ": ").andThen operand

def change : Reader :=
  (exactly "\x7b ").andThen <| member.andThen <|
    (maybe ((exactly ", ").andThen member)).andThen (exactly " \x7d")

private theorem orElse_takes_left {first second : Reader} {part : List Char}
    (takes : first.Takes part) :
    (first.orElse second).Takes part := by
  intro rest
  simp [orElse, takes rest]

private theorem orElse_takes_right {first second : Reader} {part : List Char}
    (refuses : ∀ rest, first.read (part ++ rest) = none) (takes : second.Takes part) :
    (first.orElse second).Takes part := by
  intro rest
  simp [orElse, refuses rest, takes rest]

private theorem quoted_takes {mark : Char} (isMark : IsMark mark) {inside : List Char}
    (enclosed : Enclosed mark inside) : (quoted mark).Takes (mark :: inside ++ [mark]) := by
  intro rest
  have found := between_complete isMark enclosed rest
  simp only [List.cons_append] at found
  simp [quoted, found]

theorem literal_takes {text : String} (isOne : isLiteral text = true) :
    literal.Takes text.toList := by
  obtain ⟨mark, inside, isMark, enclosed, same⟩ := Definition.isLiteralText_iff.mp isOne
  rw [same]
  rcases isMark with rfl | rfl
  · exact orElse_takes_left (quoted_takes (.inl rfl) enclosed)
  · exact orElse_takes_right (fun rest => rfl) (quoted_takes (.inr rfl) enclosed)

def IsIdentity (identity : String) : Prop :=
  identity = "\"number.integer\"" ∨ identity = "\"string\""

theorem connect_takes {identity : String} (known : IsIdentity identity) :
    (literal.orElse change).Takes (Relation.connect identity).toList := by
  intro rest
  rcases known with rfl | rfl <;> rfl

theorem change_takes (field : Field) {identity : String} (known : IsIdentity identity) :
    (literal.orElse change).Takes (Relation.change field identity).toList := by
  rw [Relation.change]
  split
  · intro rest
    rcases known with rfl | rfl <;> rfl
  · split
    · exact connect_takes known
    · intro rest
      rcases known with rfl | rfl <;> rfl

end Reader

def behind? (part : String) (text : List Char) : Option (List Char) :=
  part.toList.isPrefixOf? text

theorem behind_eq_some {part : String} {text rest : List Char} :
    behind? part text = some rest ↔ text = part.toList ++ rest := by
  rw [behind?, List.isPrefixOf?_eq_some_iff_append_eq, eq_comm]

abbrev Pair := String × String

/-- Reads an entry: a key in double quotes, a colon and a value. -/
def entry (value : Reader) (text : List Char) : Option (Pair × List Char) :=
  (between '"' text).bind fun (key, afterKey) =>
    (behind? ": " afterKey).bind fun afterColon =>
      (value.read afterColon).map fun (type, rest) =>
        ((String.ofList key, String.ofList type), rest)

def writeEntry (pair : Pair) : String :=
  "\"" ++ pair.1 ++ "\": " ++ pair.2

private theorem entry_sound {value : Reader} {text rest : List Char} {pair : Pair}
    (found : entry value text = some (pair, rest)) : text = (writeEntry pair).toList ++ rest := by
  simp only [entry, Option.bind_eq_some_iff, Option.map_eq_some_iff, Prod.exists, Prod.mk.injEq,
    behind_eq_some] at found
  obtain ⟨key, _, quotes, _, rfl, type, _, typed, rfl, rfl⟩ := found
  rw [(between_sound quotes).1, value.splits typed]
  simp [writeEntry]

private theorem entry_complete {value : Reader} {pair : Pair}
    (plainKey : Enclosed '"' pair.1.toList)
    (takes : value.Takes pair.2.toList) (rest : List Char) :
    entry value ((writeEntry pair).toList ++ rest) = some (pair, rest) := by
  have quotes := between_complete (.inl rfl) plainKey (": ".toList ++ (pair.2.toList ++ rest))
  have split : (writeEntry pair).toList ++ rest =
      '"' :: pair.1.toList ++ '"' :: (": ".toList ++ (pair.2.toList ++ rest)) := by
    simp [writeEntry]
  rw [split, entry, quotes]
  simp only [Option.bind_some]
  rw [behind_eq_some.mpr rfl, Option.bind_some, takes rest]
  simp

/-- Reads entries up to the closing brace. There is at least one. -/
def entries (value : Reader) (text : List Char) : Option (List Pair × List Char) :=
  match _found : entry value text with
  | none => none
  | some (pair, rest) =>
    match _separated : behind? ",\n  " rest with
    | some next => (entries value next).map fun (pairs, rest) => (pair :: pairs, rest)
    | none => (behind? "\n\x7d" rest).map ([pair], ·)
termination_by text.length
decreasing_by
  rw [entry_sound _found, behind_eq_some.mp _separated]
  simp
  omega

private theorem entries_last {value : Reader} {text middle : List Char} {pair : Pair}
    (first : entry value text = some (pair, middle)) (alone : behind? ",\n  " middle = none) :
    entries value text = (behind? "\n\x7d" middle).map ([pair], ·) := by
  rw [entries]
  split
  · simp_all
  · rename_i other rest found
    obtain ⟨rfl, rfl⟩ : other = pair ∧ rest = middle := by simpa [found] using first
    split
    · simp_all
    · rfl

private theorem entries_more {value : Reader} {text middle next : List Char} {pair : Pair}
    (first : entry value text = some (pair, middle))
    (separated : behind? ",\n  " middle = some next) :
    entries value text =
      (entries value next).map fun (pairs, rest) => (pair :: pairs, rest) := by
  rw [entries]
  split
  · simp_all
  · rename_i other rest found
    obtain ⟨rfl, rfl⟩ : other = pair ∧ rest = middle := by simpa [found] using first
    split <;> simp_all

def writeEntries (pairs : List Pair) : String :=
  ",\n  ".intercalate (pairs.map writeEntry) ++ "\n\x7d"

private theorem entries_sound {value : Reader} {text rest : List Char} {pairs : List Pair}
    (found : entries value text = some (pairs, rest)) :
    pairs ≠ [] ∧ text = (writeEntries pairs).toList ++ rest := by
  fun_induction entries value text generalizing pairs with
  | case1 => simp at found
  | case2 text pair middle first next separated ih =>
      simp only [Option.map_eq_some_iff, Prod.exists, Prod.mk.injEq] at found
      obtain ⟨others, _, found, rfl, rfl⟩ := found
      obtain ⟨someOther, split⟩ := ih found
      have moreEntries : others.map writeEntry ≠ [] := by simpa using someOther
      refine ⟨List.cons_ne_nil _ _, ?_⟩
      rw [entry_sound first, behind_eq_some.mp separated, split, writeEntries, writeEntries,
        List.map_cons, String.intercalate_cons_of_ne_nil moreEntries]
      simp
  | case3 text pair middle first _ =>
      simp only [Option.map_eq_some_iff, Prod.mk.injEq] at found
      obtain ⟨_, closed, rfl, rfl⟩ := found
      refine ⟨List.cons_ne_nil _ _, ?_⟩
      rw [entry_sound first, behind_eq_some.mp closed]
      simp [writeEntries]

def Readable (value : Reader) (pair : Pair) : Prop :=
  Enclosed '"' pair.1.toList ∧ value.Takes pair.2.toList

private theorem writeEntries_opens (pair : Pair) (others : List Pair) :
    ∃ text, (writeEntries (pair :: others)).toList = '"' :: text := by
  cases others with
  | nil => exact ⟨_, by simp [writeEntries, writeEntry]; rfl⟩
  | cons other others =>
      exact ⟨_, by simp [writeEntries, writeEntry, String.intercalate_cons_cons]; rfl⟩

private theorem entries_complete {value : Reader} {pair : Pair} {others : List Pair}
    (readable : ∀ entry ∈ pair :: others, Readable value entry) (rest : List Char) :
    entries value ((writeEntries (pair :: others)).toList ++ rest) =
      some (pair :: others, rest) := by
  induction others generalizing pair with
  | nil =>
      obtain ⟨plainKey, takes⟩ := readable pair (by simp)
      have first := entry_complete plainKey takes ("\n\x7d".toList ++ rest)
      have split : (writeEntries [pair]).toList ++ rest =
          (writeEntry pair).toList ++ ("\n\x7d".toList ++ rest) := by
        simp [writeEntries]
      rw [split, entries_last first rfl, behind_eq_some.mpr rfl]
      rfl
  | cons other others ih =>
      obtain ⟨plainKey, takes⟩ := readable pair (by simp)
      have tail := ih fun entry member => readable entry (List.mem_cons_of_mem pair member)
      have first := entry_complete plainKey takes
        (",\n  ".toList ++ ((writeEntries (other :: others)).toList ++ rest))
      have split : (writeEntries (pair :: other :: others)).toList ++ rest =
          (writeEntry pair).toList ++
            (",\n  ".toList ++ ((writeEntries (other :: others)).toList ++ rest)) := by
        simp [writeEntries, String.intercalate_cons_cons]
      rw [split, entries_more first (behind_eq_some.mpr rfl), tail]
      rfl

def object (value : Reader) (text : String) : Option (List Pair × String) :=
  (behind? "\x7b\n  " text.toList).bind fun inside =>
    match behind? "\n\x7d" inside with
    | some rest => some ([], String.ofList rest)
    | none => (entries value inside).map fun (pairs, rest) => (pairs, String.ofList rest)

def write (pairs : List Pair) : String :=
  "\x7b\n  " ++ writeEntries pairs

theorem object_sound {value : Reader} {text rest : String} {pairs : List Pair}
    (found : object value text = some (pairs, rest)) : text = write pairs ++ rest := by
  rw [← String.toList_inj]
  simp only [object, Option.bind_eq_some_iff, behind_eq_some] at found
  obtain ⟨inside, opened, found⟩ := found
  rw [opened]
  split at found
  · rename_i after closed
    simp only [Option.some.injEq, Prod.mk.injEq] at found
    obtain ⟨rfl, rfl⟩ := found
    rw [behind_eq_some.mp closed]
    simp [write, writeEntries]
  · simp only [Option.map_eq_some_iff, Prod.exists, Prod.mk.injEq] at found
    obtain ⟨_, after, found, rfl, rfl⟩ := found
    rw [(entries_sound found).2]
    simp [write]

theorem object_write {value : Reader} {pairs : List Pair}
    (readable : ∀ pair ∈ pairs, Readable value pair) (rest : String) :
    object value (write pairs ++ rest) = some (pairs, rest) := by
  have split : (write pairs ++ rest).toList =
      "\x7b\n  ".toList ++ ((writeEntries pairs).toList ++ rest.toList) := by
    simp [write]
  rw [object, split, behind_eq_some.mpr rfl, Option.bind_some]
  cases pairs with
  | nil =>
      have closed : behind? "\n\x7d" ((writeEntries []).toList ++ rest.toList) =
          some rest.toList :=
        behind_eq_some.mpr rfl
      simp only [closed, String.ofList_toList]
  | cons pair others =>
      have opened : behind? "\n\x7d"
          ((writeEntries (pair :: others)).toList ++ rest.toList) = none := by
        obtain ⟨text, quotes⟩ := writeEntries_opens pair others
        rw [quotes]
        rfl
      simp only [opened, entries_complete readable, Option.map_some, String.ofList_toList]

end ModelViews.ObjectText
