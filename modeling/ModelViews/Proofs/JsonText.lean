import ModelViews.Proofs.NumberText
import ModelViews.Proofs.StringText
import ModelViews.Proofs.Tables

namespace ModelViews.Wire

open Json Number

inductive Inside (inner : Wire) : Wire → Prop where
  | self : Inside inner inner
  | item {items : List Wire} {item : Wire} (member : item ∈ items) (inside : Inside inner item) :
      Inside inner (.arr items)
  | member {members : List (CodeText × Wire)} {name : CodeText} {value : Wire}
      (member : (name, value) ∈ members) (inside : Inside inner value) : Inside inner (.obj members)

def IsFloatFree (value : Wire) : Prop :=
  ∀ number, ¬ Inside (.float number) value

def IsTidy (value : Wire) : Prop :=
  ∀ members, Inside (.obj members) value →
    (members.map fun member => member.1.joined).Nodup

def IsNeat : Wire → Prop
  | str text => text.IsSettled
  | obj members => (members.map Prod.fst).Nodup ∧ ∀ member ∈ members, member.1.IsSettled
  | _ => True

def IsSettled (value : Wire) : Prop :=
  ∀ inner, Inside inner value → inner.IsNeat

theorem IsSettled.tidy {value : Wire} (settled : value.IsSettled) : value.IsTidy := by
  intro members inside
  obtain ⟨distinct, names⟩ : (Wire.obj members).IsNeat := settled _ inside
  have same : (members.map fun member => member.1.joined) = members.map Prod.fst :=
    List.map_congr_left fun member found => CodeText.joined_of_settled (names member found)
  rwa [same]

@[elab_as_elim]
theorem inductionOn {P : Wire → Prop} (value : Wire) (null : P .null) (bool : ∀ b, P (.bool b))
    (int : ∀ n, P (.int n)) (float : ∀ x, P (.float x)) (str : ∀ text, P (.str text))
    (arr : ∀ items, (∀ item ∈ items, P item) → P (.arr items))
    (obj : ∀ members, (∀ member ∈ members, P member.2) → P (.obj members)) : P value :=
  @Wire.rec P (fun items => ∀ item ∈ items, P item) (fun members => ∀ member ∈ members, P member.2)
    (fun member => P member.2) null bool int float str arr obj (by simp)
    (fun first rest holds others => by simpa using ⟨holds, others⟩) (by simp)
    (fun first rest holds others => by simpa using ⟨holds, fun a b => others (a, b)⟩)
    (fun _ _ holds => holds) value

theorem isTidy_of_flat {value : Wire} (flat : ∀ members, ¬ Inside (.obj members) value) :
    value.IsTidy :=
  fun members inside => absurd inside (flat members)

theorem isTidy_obj {members : List (CodeText × Wire)}
    (distinct : (members.map fun member => member.1.joined).Nodup)
    (tidy : ∀ member ∈ members, member.2.IsTidy) : (obj members).IsTidy := by
  intro others inside
  cases inside with
  | self => exact distinct
  | member found inside => exact tidy _ found others inside

mutual

def reread (f : Binary64 → Binary64) : Wire → Wire
  | float value => float (f value)
  | arr items => arr (rereadItems f items)
  | obj members => obj (rereadMembers f members)
  | null => null
  | bool value => bool value
  | int value => int value
  | str text => str text.joined

def rereadItems (f : Binary64 → Binary64) : List Wire → List Wire
  | [] => []
  | first :: rest => reread f first :: rereadItems f rest

def rereadMembers (f : Binary64 → Binary64) : List (CodeText × Wire) → List (CodeText × Wire)
  | [] => []
  | (name, first) :: rest => (name.joined, reread f first) :: rereadMembers f rest

end

variable {f : Binary64 → Binary64} {v : Wire} {items : List Wire} {members : List (CodeText × Wire)}

private theorem rereadItems_eq_map : rereadItems f items = items.map (reread f) := by
  induction items with
  | nil => rfl
  | cons first rest ih => rw [rereadItems, ih, List.map_cons]

private theorem rereadMembers_eq_map :
    rereadMembers f members = members.map fun member => (member.1.joined, reread f member.2) := by
  induction members with
  | nil => rfl
  | cons first rest ih =>
      obtain ⟨name, value⟩ := first
      rw [rereadMembers, ih, List.map_cons]

private theorem names_rereadMembers :
    (rereadMembers f members).map Prod.fst = members.map fun member => member.1.joined := by
  rw [rereadMembers_eq_map, List.map_map]
  rfl

/-- A value that can be read is read back as it is, if there are no fractional numbers in it. -/
theorem reread_of_settled (settled : v.IsSettled) (free : v.IsFloatFree) : reread f v = v := by
  induction v using inductionOn with
  | float x => exact absurd .self (free x)
  | str text =>
      have neat : text.IsSettled := settled _ .self
      rw [reread, CodeText.joined_of_settled neat]
  | arr items ih =>
      have same : items.map (reread f) = items.map id := by
        apply List.map_congr_left
        intro item member
        exact ih item member (fun inner inside => settled inner (.item member inside))
          fun x inside => free x (.item member inside)
      rw [reread, rereadItems_eq_map, same, List.map_id]
  | obj members ih =>
      obtain ⟨_, names⟩ : (Wire.obj members).IsNeat := settled _ .self
      have same : (members.map fun member => (member.1.joined, reread f member.2)) =
          members.map id := by
        apply List.map_congr_left
        intro member found
        have kept := ih member found (fun inner inside => settled inner (.member found inside))
          fun x inside => free x (.member found inside)
        exact Prod.ext (CodeText.joined_of_settled (names member found)) kept
      rw [reread, rereadMembers_eq_map, same, List.map_id]
  | _ => rfl

/-! How texts of values begin. -/

def BeginsScalar (c : Char) : Prop :=
  c.isDigit = true ∨ c ∈ ['-', 'n', 't', 'f', 'N', 'I']

instance (c : Char) : Decidable (BeginsScalar c) :=
  inferInstanceAs (Decidable (_ ∨ _))

def BeginsValue (c : Char) : Prop :=
  BeginsScalar c ∨ c ∈ ['"', '[', '{']

instance (c : Char) : Decidable (BeginsValue c) :=
  inferInstanceAs (Decidable (_ ∨ _))

private theorem BeginsValue.not_space {c : Char} (begins : BeginsValue c) : isSpace c = false := by
  have other (d : Char) (no : ¬ BeginsValue d) : c ≠ d := by
    rintro rfl
    exact no begins
  simp [isSpace, other ' ' (by decide), other '\t' (by decide), other '\n' (by decide),
    other '\r' (by decide)]

private theorem skipSpace_of_begins {c : Char} (begins : BeginsValue c) (rest : List Char) :
    skipSpace (c :: rest) = c :: rest := by
  rw [skipSpace, List.dropWhile_cons, begins.not_space]
  rfl

private theorem begins_signed {text : List Char} (starts : StartsWithDigit text) (negative : Bool) :
    ∃ c rest, signed negative text = c :: rest ∧ BeginsScalar c := by
  cases negative with
  | true => exact ⟨'-', text, rfl, by decide⟩
  | false =>
      obtain ⟨c, rest, rfl, digit⟩ := starts
      exact ⟨c, rest, rfl, .inl digit⟩

private theorem begins_floatText (value : Binary64) :
    ∃ c rest, (numberLayout.text value).toList = c :: rest ∧ BeginsScalar c := by
  cases value with
  | undefined => exact ⟨'N', _, rfl, by decide⟩
  | infinite negative =>
      cases negative with
      | true => exact ⟨'-', _, rfl, by decide⟩
      | false => exact ⟨'I', _, rfl, by decide⟩
  | finite negative mantissa exponent =>
      obtain ⟨shown, shape, same⟩ := text_finite numberLayout negative mantissa exponent
      rw [same]
      exact begins_signed (startsWithDigit_fractional shape) negative

private theorem begins_intText (value : Int) :
    ∃ c rest, intText value = c :: rest ∧ BeginsScalar c := by
  have starts := startsWithDigit_whole (isWhole_toDigits value.natAbs) []
  rw [List.append_nil] at starts
  obtain ⟨c, rest, same, begins⟩ := begins_signed starts (decide (value < 0))
  refine ⟨c, rest, ?_, begins⟩
  rw [← same]
  simp [intText, signed]

private theorem begins_chars (v : Wire) : ∃ c rest, v.chars = c :: rest ∧ BeginsValue c := by
  cases v with
  | null => exact ⟨'n', _, rfl, by decide⟩
  | bool b => cases b <;> exact ⟨_, _, rfl, by decide⟩
  | int n =>
      obtain ⟨c, rest, same, begins⟩ := begins_intText n
      exact ⟨c, rest, same, .inl begins⟩
  | float x =>
      obtain ⟨c, rest, same, begins⟩ := begins_floatText x
      exact ⟨c, rest, same, .inl begins⟩
  | str text => exact ⟨'"', _, rfl, by decide⟩
  | arr items => exact ⟨'[', _, rfl, by decide⟩
  | obj members => exact ⟨'{', _, rfl, by decide⟩

/-! How the reader takes a value by its first character. -/

section Value

variable {limits : Limits} {bound : Nat} {room : Option Nat} {c : Char} {text rest : List Char}

private theorem value_scalar (begins : BeginsScalar c) :
    value limits (bound + 1) room (c :: text) = scalar limits (c :: text) := by
  have other (d : Char) (no : ¬ BeginsScalar d) : c ≠ d := by
    rintro rfl
    exact no begins
  rw [value]
  · rintro rest ⟨⟩
    exact other '"' (by decide) rfl
  · rintro rest ⟨⟩
    exact other '[' (by decide) rfl
  · rintro rest ⟨⟩
    exact other '{' (by decide) rfl

private theorem value_array (roomy : room ≠ some 0) (begins : BeginsValue c) :
    value limits (bound + 1) room ('[' :: c :: text) =
      (Json.items limits bound (room.map (· - 1)) (c :: text)).map fun read => (arr read.1, read.2) := by
  have other : c ≠ ']' := by
    rintro rfl
    exact absurd begins (by decide)
  rw [value, if_neg roomy, skipSpace_of_begins begins]
  split
  · rename_i same
    cases same
    exact absurd rfl other
  · cases Json.items limits bound (room.map (· - 1)) (c :: text) <;> rfl

private theorem value_object (roomy : room ≠ some 0) (begins : BeginsValue c) :
    value limits (bound + 1) room ('{' :: c :: text) =
      (Json.members limits bound (room.map (· - 1)) (c :: text)).map
        fun read => (obj (Keyed.ofPairs read.1), read.2) := by
  have other : c ≠ '}' := by
    rintro rfl
    exact absurd begins (by decide)
  rw [value, if_neg roomy, skipSpace_of_begins begins]
  split
  · rename_i same
    cases same
    exact absurd rfl other
  · cases Json.members limits bound (room.map (· - 1)) (c :: text) <;> rfl

end Value

/-! Reading back what was written. -/

def ReadsAs (v read : Wire) : Prop :=
  ∀ bound rest, 2 * v.chars.length ≤ bound → Stops rest →
    value .unbounded bound none (v.chars ++ rest) = .ok (read, rest)

private theorem stops_cons {c : Char}
    (ends : c ∈ [',', ']', '}']) (rest : List Char) : Stops (c :: rest) := by
  rintro other ⟨⟩
  simp only [List.mem_cons, List.not_mem_nil, or_false] at ends
  obtain rfl | rfl | rfl := ends <;> decide

private theorem readsAs_scalar {read : Wire}
    (begins : ∃ c rest, v.chars = c :: rest ∧ BeginsScalar c)
    (reads : ∀ rest, Stops rest → scalar .unbounded (v.chars ++ rest) = .ok (read, rest)) :
    ReadsAs v read := by
  intro bound rest enough stops
  obtain ⟨c, more, same, begins⟩ := begins
  obtain ⟨bound, rfl⟩ : ∃ less, bound = less + 1 := ⟨bound - 1, by simp [same] at enough; omega⟩
  have read := reads rest stops
  rw [same, List.cons_append] at read ⊢
  rw [value_scalar begins, read]

private theorem readsAs_str (text : CodeText) : ReadsAs (.str text) (.str text.joined) := by
  intro bound rest enough stops
  obtain ⟨bound, rfl⟩ : ∃ less, bound = less + 1 :=
    ⟨bound - 1, by simp [chars, stringText] at enough; omega⟩
  have read := string_stringText text rest
  change value .unbounded (bound + 1) none ('"' :: _) = _
  change string ('"' :: _) = _ at read
  rw [value, read]
  rfl

private theorem begins_itemChars (first : Wire) (others : List Wire) :
    ∃ c rest, itemChars (first :: others) = c :: rest ∧ BeginsValue c := by
  obtain ⟨c, rest, same, begins⟩ := begins_chars first
  cases others with
  | nil => exact ⟨c, rest, same, begins⟩
  | cons second others =>
      refine ⟨c, rest ++ (", ".toList ++ itemChars (second :: others)), ?_, begins⟩
      rw [itemChars, same]
      · simp
      · simp

private theorem begins_memberChars (member : CodeText × Wire) (others : List (CodeText × Wire)) :
    ∃ rest, memberChars (member :: others) = '"' :: rest := by
  obtain ⟨name, value⟩ := member
  cases others <;> exact ⟨_, rfl⟩

private theorem skipSpace_blank {c : Char} (begins : BeginsValue c) (rest : List Char) :
    skipSpace (' ' :: c :: rest) = c :: rest :=
  skipSpace_of_begins begins rest

private theorem items_item {first read : Wire} (reads : ReadsAs first read) {bound : Nat}
    (enough : 2 * first.chars.length ≤ bound) {tail : List Char} (stops : Stops tail) :
    Json.items .unbounded (bound + 1) none (first.chars ++ tail) =
      match skipSpace tail with
      | ']' :: rest => .ok ([read], rest)
      | ',' :: rest => do
        let (others, rest) ← Json.items .unbounded bound none (skipSpace rest)
        .ok (read :: others, rest)
      | rest => .error (.flawed .expectingComma rest) := by
  rw [Json.items, reads bound tail enough stops]
  rfl

private theorem items_itemChars (reads : ∀ item ∈ items, ReadsAs item (reread f item))
    (present : items ≠ []) (bound : Nat) (enough : 2 * (itemChars items).length + 1 ≤ bound)
    (rest : List Char) :
    Json.items .unbounded bound none (itemChars items ++ ']' :: rest) =
      .ok (rereadItems f items, rest) := by
  -- the last item is written without a comma, and so a list of one is a case of its own
  induction items generalizing bound with
  | nil => exact absurd rfl present
  | cons first others ih =>
      obtain ⟨bound, rfl⟩ : ∃ less, bound = less + 1 := ⟨bound - 1, by omega⟩
      have head := reads first (by simp)
      cases others with
      | nil =>
          have after : itemChars [first] ++ ']' :: rest = first.chars ++ ']' :: rest := rfl
          rw [after, items_item head (by simp [itemChars] at enough; omega)
            (stops_cons (by simp) rest)]
          rfl
      | cons second others =>
          have length : (itemChars (first :: second :: others)).length =
              first.chars.length + 2 + (itemChars (second :: others)).length := by
            simp [itemChars]
            omega
          have tail := ih (fun item member => reads item (List.mem_cons_of_mem _ member)) (by simp)
            bound (by omega)
          have after : itemChars (first :: second :: others) ++ ']' :: rest =
              first.chars ++ ',' :: ' ' :: (itemChars (second :: others) ++ ']' :: rest) := by
            simp [itemChars]
          obtain ⟨c, more, same, begins⟩ := begins_itemChars second others
          rw [same, List.cons_append] at tail after
          rw [after, items_item head (by omega) (stops_cons (by simp) _)]
          change (Json.items .unbounded bound none (skipSpace (' ' :: c :: _)) >>= _) = _
          rw [skipSpace_blank begins, tail]
          rfl

private theorem members_member {name : CodeText} {first read : Wire} (reads : ReadsAs first read)
    {bound : Nat}
    (enough : 2 * first.chars.length ≤ bound) {tail : List Char} (stops : Stops tail) :
    Json.members .unbounded (bound + 1) none
        (stringText name ++ ':' :: ' ' :: (first.chars ++ tail)) =
      match skipSpace tail with
      | '}' :: rest => .ok ([(name.joined, read)], rest)
      | ',' :: rest => do
        let (others, rest) ← Json.members .unbounded bound none (skipSpace rest)
        .ok ((name.joined, read) :: others, rest)
      | rest => .error (.flawed .expectingComma rest) := by
  obtain ⟨c, more, same, begins⟩ := begins_chars first
  have valued := reads bound tail enough stops
  rw [same, List.cons_append] at valued ⊢
  have named := string_stringText name (':' :: ' ' :: c :: (more ++ tail))
  change string ('"' :: _) = _ at named
  change Json.members .unbounded (bound + 1) none ('"' :: _) = _
  rw [Json.members, named]
  change (value .unbounded bound none (skipSpace (' ' :: c :: (more ++ tail))) >>= _) = _
  rw [skipSpace_blank begins, valued]
  rfl

private theorem members_memberChars
    (reads : ∀ member ∈ members, ReadsAs member.2 (reread f member.2))
    (present : members ≠ []) (bound : Nat) (enough : 2 * (memberChars members).length + 1 ≤ bound)
    (rest : List Char) :
    Json.members .unbounded bound none (memberChars members ++ '}' :: rest) =
      .ok (rereadMembers f members, rest) := by
  induction members generalizing bound with
  | nil => exact absurd rfl present
  | cons first others ih =>
      obtain ⟨bound, rfl⟩ : ∃ less, bound = less + 1 := ⟨bound - 1, by omega⟩
      obtain ⟨name, first⟩ := first
      have head : ReadsAs first (reread f first) := reads (name, first) (by simp)
      cases others with
      | nil =>
          have after : memberChars [(name, first)] ++ '}' :: rest =
              stringText name ++ ':' :: ' ' :: (first.chars ++ '}' :: rest) := by
            simp [memberChars]
          rw [after, members_member head (by simp [memberChars] at enough; omega)
            (stops_cons (by simp) rest)]
          rfl
      | cons second others =>
          have length : (memberChars ((name, first) :: second :: others)).length =
              (stringText name).length + 2 + first.chars.length + 2 +
                (memberChars (second :: others)).length := by
            simp [memberChars]
            omega
          have tail := ih (fun member found => reads member (List.mem_cons_of_mem _ found)) (by simp)
            bound (by omega)
          have after : memberChars ((name, first) :: second :: others) ++ '}' :: rest =
              stringText name ++ ':' :: ' ' :: (first.chars ++
                ',' :: ' ' :: (memberChars (second :: others) ++ '}' :: rest)) := by
            simp [memberChars]
          obtain ⟨more, same⟩ := begins_memberChars second others
          rw [same, List.cons_append] at tail after
          rw [after, members_member head (by omega) (stops_cons (by simp) _)]
          change (Json.members .unbounded bound none (skipSpace (' ' :: '"' :: _)) >>= _) = _
          rw [skipSpace_blank (by decide), tail]
          rfl

private theorem readsAs_arr (reads : ∀ item ∈ items, ReadsAs item (reread f item)) :
    ReadsAs (.arr items) (reread f (.arr items)) := by
  intro bound rest enough stops
  have length : (chars (.arr items)).length = (itemChars items).length + 2 := by simp [chars]
  obtain ⟨bound, rfl⟩ : ∃ less, bound = less + 1 := ⟨bound - 1, by omega⟩
  cases items with
  | nil => rfl
  | cons first others =>
      have read := items_itemChars reads (by simp) bound (by omega) rest
      have written : chars (.arr (first :: others)) ++ rest =
          '[' :: (itemChars (first :: others) ++ ']' :: rest) := by simp [chars]
      obtain ⟨c, more, same, begins⟩ := begins_itemChars first others
      rw [same, List.cons_append] at read written
      rw [written, value_array (by simp) begins, Option.map_none, read]
      rfl

private theorem readsAs_obj (reads : ∀ member ∈ members, ReadsAs member.2 (reread f member.2))
    (once : (members.map fun member => member.1.joined).Nodup) :
    ReadsAs (.obj members) (reread f (.obj members)) := by
  intro bound rest enough stops
  have length : (chars (.obj members)).length = (memberChars members).length + 2 := by simp [chars]
  obtain ⟨bound, rfl⟩ : ∃ less, bound = less + 1 := ⟨bound - 1, by omega⟩
  have distinct : ((rereadMembers f members).map Prod.fst).Nodup := by
    rwa [names_rereadMembers]
  cases members with
  | nil => rfl
  | cons first others =>
      have read := members_memberChars reads (by simp) bound (by omega) rest
      have written : chars (.obj (first :: others)) ++ rest =
          '{' :: (memberChars (first :: others) ++ '}' :: rest) := by simp [chars]
      obtain ⟨more, same⟩ := begins_memberChars first others
      rw [same, List.cons_append] at read written
      rw [written, value_object (by simp) (by decide), Option.map_none, read]
      change Except.ok (obj (Keyed.ofPairs _), rest) = _
      rw [Keyed.ofPairs_distinct distinct]
      rfl

private theorem readsAs_reread
    (floats : ∀ x rest, Stops rest →
      scalar .unbounded ((numberLayout.text x).toList ++ rest) = .ok (float (f x), rest))
    (tidy : v.IsTidy) : ReadsAs v (reread f v) := by
  induction v using inductionOn with
  | null => exact readsAs_scalar ⟨'n', _, rfl, by decide⟩ fun rest _ => rfl
  | bool b => cases b <;> exact readsAs_scalar ⟨_, _, rfl, by decide⟩ fun rest _ => rfl
  | int n => exact readsAs_scalar (begins_intText n) fun rest stops => scalar_intText n stops
  | float x => exact readsAs_scalar (begins_floatText x) (floats x)
  | str text => exact readsAs_str text
  | arr items ih =>
      apply readsAs_arr
      intro item member
      exact ih item member fun members inside => tidy members (.item member inside)
  | obj members ih =>
      refine readsAs_obj ?_ (tidy members .self)
      intro member found
      exact ih member found fun others inside => tidy others (.member found inside)

private theorem stops_blank {blank : List Char} (spaces : ∀ c ∈ blank, isSpace c = true) :
    Stops blank := by
  intro c first
  have space := spaces c (List.mem_of_mem_head? first)
  simp only [isSpace, Bool.or_eq_true, beq_iff_eq] at space
  rcases space with ((rfl | rfl) | rfl) | rfl <;> decide

/-- There is one reading of fractional numbers with which the text of every tidy value reads back,
whatever blanks come after it. -/
theorem read_render : ∃ f : Binary64 → Binary64, ∀ v : Wire, v.IsTidy → ∀ blank : String,
    (∀ c ∈ blank.toList, isSpace c = true) →
      readWithin .unbounded (v.render ++ blank) = .ok (reread f v) := by
  choose f floats using scalar_floatText .unbounded
  refine ⟨f, fun v tidy blank spaces => ?_⟩
  generalize written : blank.toList = after at spaces
  have length : (v.chars ++ after).length = v.chars.length + after.length := List.length_append
  have read := readsAs_reread floats tidy (2 * (v.chars ++ after).length + 2) after (by omega)
    (stops_blank spaces)
  obtain ⟨c, rest, same, begins⟩ := begins_chars v
  have mark : (v.chars ++ after).head? ≠ some (Char.ofNat 0xFEFF) := by
    rw [same]
    rintro ⟨⟩
    exact absurd begins (by decide)
  have skipped : skipSpace (v.chars ++ after) = v.chars ++ after := by
    rw [same]
    exact skipSpace_of_begins begins (rest ++ after)
  have ended : skipSpace after = [] := List.dropWhile_eq_nil_iff.mpr spaces
  have document : Json.document .unbounded (v.chars ++ after) = .ok (reread f v) := by
    rw [Json.document, if_neg mark, skipped]
    change (value .unbounded (2 * (v.chars ++ after).length + 2) none (v.chars ++ after) >>= _) = _
    rw [read]
    simp only [bind, Except.bind, ended]
  rw [readWithin, render, String.toList_append, String.toList_ofList, written, document]
  rfl

/-! Written text is printable ASCII. -/

private theorem isShown_of_digit {c : Char} (digit : c.isDigit = true) : IsShown c := by
  rw [Char.isDigit, Bool.and_eq_true, decide_eq_true_eq, decide_eq_true_eq] at digit
  have least : 48 ≤ c.toNat := UInt32.le_iff_toNat_le.mp digit.1
  have most : c.toNat ≤ 57 := UInt32.le_iff_toNat_le.mp digit.2
  constructor <;> omega

private theorem isShown_digits {text : List Char} (digits : AreDigits text) :
    ∀ c ∈ text, IsShown c :=
  fun c member => isShown_of_digit (digits c member)

private theorem isShown_append {first second : List Char} (left : ∀ c ∈ first, IsShown c)
    (right : ∀ c ∈ second, IsShown c) : ∀ c ∈ first ++ second, IsShown c :=
  fun c member => (List.mem_append.mp member).elim (left c) (right c)

private theorem isShown_cons {c : Char} {text : List Char} (first : IsShown c)
    (rest : ∀ c ∈ text, IsShown c) :
    ∀ d ∈ c :: text, IsShown d :=
  List.forall_mem_cons.mpr ⟨first, rest⟩

private theorem isShown_of_all {text : List Char} (all : text.all fun c => decide (IsShown c)) :
    ∀ c ∈ text, IsShown c := by
  simpa using all

private theorem isShown_fractional {text : List Char} (shape : IsFractional text) :
    ∀ c ∈ text, IsShown c := by
  cases shape with
  | plain before after _ =>
      exact isShown_append (isShown_digits before.1) (isShown_cons (by decide) (isShown_digits after))
  | @scaled digits fraction power sign before after signed all _ =>
      have shown : IsShown sign := by
        obtain rfl | rfl := signed <;> decide
      have point : ∀ c ∈ (if fraction.isEmpty then [] else '.' :: fraction), IsShown c := by
        split
        · simp
        · exact isShown_cons (by decide) (isShown_digits after)
      exact isShown_append (isShown_append (isShown_digits before.1) point)
        (isShown_cons (by decide) (isShown_cons shown (isShown_digits all)))

private theorem isShown_signed {text : List Char} (shown : ∀ c ∈ text, IsShown c)
    (negative : Bool) :
    ∀ c ∈ signed negative text, IsShown c := by
  cases negative with
  | true => exact isShown_cons (by decide) shown
  | false => exact shown

private theorem isShown_floatText (value : Binary64) :
    ∀ c ∈ (numberLayout.text value).toList, IsShown c := by
  cases value with
  | undefined => exact isShown_of_all (by decide)
  | infinite negative => cases negative <;> exact isShown_of_all (by decide)
  | finite negative mantissa exponent =>
      obtain ⟨shown, shape, same⟩ := text_finite numberLayout negative mantissa exponent
      rw [same]
      exact isShown_signed (isShown_fractional shape) negative

private theorem isShown_intText (value : Int) : ∀ c ∈ intText value, IsShown c := by
  have signed : ∀ c ∈ (if value < 0 then ['-'] else []), IsShown c := by
    split
    · simp [IsShown]
    · simp
  exact isShown_append signed (isShown_digits (areDigits_toDigits _))

private theorem isShown_itemChars (shown : ∀ item ∈ items, ∀ c ∈ item.chars, IsShown c) :
    ∀ c ∈ itemChars items, IsShown c := by
  induction items with
  | nil => simp [itemChars]
  | cons first others ih =>
      have head := shown first (by simp)
      have tail := ih fun item member => shown item (List.mem_cons_of_mem _ member)
      cases others with
      | nil => exact head
      | cons second others => exact isShown_append (isShown_append head (isShown_of_all (by decide))) tail

private theorem isShown_memberChars (shown : ∀ member ∈ members, ∀ c ∈ member.2.chars, IsShown c) :
    ∀ c ∈ memberChars members, IsShown c := by
  induction members with
  | nil => simp [memberChars]
  | cons first others ih =>
      obtain ⟨name, first⟩ := first
      have head : ∀ c ∈ first.chars, IsShown c := shown (name, first) (by simp)
      have named : ∀ c ∈ stringText name ++ ": ".toList, IsShown c :=
        isShown_append (isShown_stringText name) (isShown_of_all (by decide))
      have tail := ih fun member found => shown member (List.mem_cons_of_mem _ found)
      cases others with
      | nil => exact isShown_append named head
      | cons second others =>
          have first := isShown_append named head
          exact isShown_append (isShown_append first (isShown_of_all (by decide))) tail

private theorem isShown_chars (v : Wire) : ∀ c ∈ v.chars, IsShown c := by
  induction v using inductionOn with
  | null => exact isShown_of_all (by decide)
  | bool b => cases b <;> exact isShown_of_all (by decide)
  | int n => exact isShown_intText n
  | float x => exact isShown_floatText x
  | str text => exact isShown_stringText text
  | arr items ih =>
      have close : ∀ c ∈ [']'], IsShown c := isShown_of_all (by decide)
      exact isShown_cons (by decide) (isShown_append (isShown_itemChars ih) close)
  | obj members ih =>
      have close : ∀ c ∈ ['}'], IsShown c := isShown_of_all (by decide)
      exact isShown_cons (by decide) (isShown_append (isShown_memberChars ih) close)

theorem newline_not_mem_render (v : Wire) : '\n' ∉ v.render.toList := by
  rw [render, String.toList_ofList]
  intro member
  exact absurd (isShown_chars v _ member) (by decide)

end ModelViews.Wire
