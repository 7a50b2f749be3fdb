import Mathlib.Data.List.Basic
import ModelViews.Json.Reader

namespace ModelViews.Json

variable {α β : Type} {limits : Limits} {length : Nat} {text rest : List Char}

structure Settles (length : Nat) (first second : Except Fault (α × List Char)) : Prop where
  same : first = second
  less : ∀ a rest, first = .ok (a, rest) → rest.length < length

namespace Settles

theorem ok {a : α} (less : rest.length < length) :
    Settles length (.ok (a, rest)) (.ok (a, rest)) where
  same := rfl
  less := by
    rintro _ _ ⟨⟩
    exact less

theorem error (fault : Fault) :
    Settles (α := α) length (.error fault) (.error fault) where
  same := rfl
  less := by
    rintro _ _ ⟨⟩

private theorem mono {first second : Except Fault (α × List Char)} {more : Nat}
    (settles : Settles length first second) (most : length ≤ more) : Settles more first second where
  same := settles.same
  less a rest read := Nat.lt_of_lt_of_le (settles.less a rest read) most

theorem bind {first second : Except Fault (α × List Char)} {more : Nat}
    {next other : α × List Char → Except Fault (β × List Char)} (settles : Settles length first second)
    (goes : ∀ a rest, rest.length < length → Settles more (next (a, rest)) (other (a, rest))) :
    Settles more (first >>= next) (second >>= other) := by
  obtain ⟨rfl, less⟩ := settles
  cases first with
  | error fault => exact .error fault
  | ok read =>
      obtain ⟨a, rest⟩ := read
      exact goes a rest (less a rest rfl)

end Settles

private theorem length_skipSpace_le (text : List Char) : (skipSpace text).length ≤ text.length :=
  (List.dropWhile_sublist _).length_le

private theorem length_of_skipSpace {c : Char} (same : skipSpace text = c :: rest) :
    rest.length < text.length := by
  have most := length_skipSpace_le text
  rw [same, List.length_cons] at most
  omega

private theorem length_onward {c : Char} (same : skipSpace text = c :: rest) :
    (skipSpace rest).length < text.length :=
  Nat.lt_of_le_of_lt (length_skipSpace_le rest) (length_of_skipSpace same)

/-! Strings. -/

private theorem escape_settles (opening text : List Char) :
    Settles text.length (escape opening text) (escape opening text) := by
  cases text with
  | nil => exact .error _
  | cons c tail =>
      simp only [escape, List.drop_succ_cons, List.drop_zero]
      repeat' split
      all_goals first
        | exact .error _
        | exact .ok (by simp only [List.length_cons]; omega)
        | have lengths := congrArg List.length ‹_ = '\\' :: 'u' :: _›
          simp only [List.length_cons] at lengths
          exact .ok (by simp only [List.length_cons]; omega)

private theorem stringBody_settles (bound : Nat) (opening text : List Char) :
    Settles text.length (stringBody bound opening text) (stringBody bound opening text) := by
  induction bound generalizing text with
  | zero => exact .error _
  | succ bound ih =>
      cases text with
      | nil => exact .error _
      | cons c tail =>
          rw [stringBody]
          split
          · exact .ok (by simp)
          split
          · refine (escape_settles opening (c :: tail)).bind fun character rest less => ?_
            exact (ih rest).bind fun characters left fewer => .ok (by omega)
          split
          · exact .error _
          · refine (ih tail).bind fun characters left fewer => .ok ?_
            exact Nat.lt_succ_of_lt fewer

private theorem string_settles (text : List Char) :
    Settles text.length (string text) (string text) := by
  refine (stringBody_settles _ _ _).mono ?_
  rw [List.length_drop]
  exact Nat.sub_le _ _

/-! Numbers and words. -/

private theorem wholeDigits?_less {digits : List Char}
    (found : wholeDigits? text = some (digits, rest)) :
    rest.length < text.length := by
  rw [wholeDigits?.eq_def] at found
  split at found
  · cases found
    simp
  · rename_i c tail _
    split at found
    · rename_i digit
      cases found
      rw [List.dropWhile_cons, if_pos digit, List.length_cons]
      have kept := (List.dropWhile_sublist (l := tail) Char.isDigit).length_le
      omega
    · cases found
  · cases found

private theorem fractionDigits_le (text : List Char) :
    (fractionDigits text).2.length ≤ text.length := by
  rw [fractionDigits.eq_def]
  split
  · rename_i c tail
    split
    · have kept := (List.dropWhile_sublist (l := c :: tail) Char.isDigit).length_le
      simp only [List.length_cons] at kept ⊢
      omega
    · exact Nat.le_refl _
  · exact Nat.le_refl _

private theorem exponent?_le {power : Int} (found : exponent? text = some (power, rest)) :
    rest.length ≤ text.length := by
  cases text with
  | nil => cases found
  | cons mark tail =>
      have kept (digits : List Char) : (digits.dropWhile Char.isDigit).length ≤ digits.length :=
        (List.dropWhile_sublist _).length_le
      simp only [exponent?] at found
      split at found
      · split at found
        all_goals
          split at found
          · cases found
          · cases found
            simp only [List.length_cons]
            exact Nat.le_trans (kept _) (by omega)
      · cases found

private theorem unsignedNumber?_settles (negative : Bool) (text : List Char) (fault : Fault) :
    Settles text.length ((unsignedNumber? limits negative text).getD (.error fault))
      ((unsignedNumber? limits negative text).getD (.error fault)) := by
  rw [unsignedNumber?]
  cases whole : wholeDigits? text with
  | none => exact .error fault
  | some read =>
      obtain ⟨digits, afterWhole⟩ := read
      have less := wholeDigits?_less whole
      have kept := fractionDigits_le afterWhole
      simp only [Option.getD_some]
      cases found : exponent? (fractionDigits afterWhole).2 with
      | some read =>
          have left := exponent?_le found
          exact .ok (by omega)
      | none =>
          simp only
          split
          · rw [Json.whole]
            split
            · exact .error _
            · exact .ok (by omega)
          · exact .ok (by omega)

private theorem scalar_settles (text : List Char) :
    Settles text.length (scalar limits text) (scalar limits text) := by
  rw [scalar]
  cases found : word? text with
  | some word =>
      have written : word.1 <+: text := by
        have holds := List.find?_some found
        simpa using holds
      have some : 0 < word.1.length := by
        have all : ∀ word ∈ words, 0 < word.1.length := by simp [words]
        exact all word (List.mem_of_find?_eq_some found)
      have most := written.length_le
      refine .ok ?_
      rw [List.length_drop]
      omega
  | none =>
      rw [number?.eq_def]
      simp only
      split
      · exact (unsignedNumber?_settles true _ _).mono (by simp)
      · exact unsignedNumber?_settles false _ _

/-! Values. -/

def Covers (extra : Nat) (reader : Nat → Option Nat → List Char → Except Fault (α × List Char))
    (bound other : Nat) : Prop :=
  ∀ room text, 2 * text.length + extra ≤ bound → 2 * text.length + extra ≤ other →
    Settles text.length (reader bound room text) (reader other room text)

-- Of the two units that a character pays for, a value takes one and the list of its items or members
-- the other, so that each step leaves the smaller bounds enough.

private theorem value_step {bound other : Nat} (lists : Covers 2 (items limits) bound other)
    (objects : Covers 2 (members limits) bound other) :
    Covers 1 (value limits) (bound + 1) (other + 1) := by
  intro room text enough more
  rw [value.eq_def, value.eq_def]
  simp only
  split
  · exact (string_settles _).bind fun characters rest less => .ok less
  · rename_i tail
    simp only [List.length_cons] at enough more ⊢
    have shorter := length_skipSpace_le tail
    split
    · exact .error _
    split
    · rename_i same
      have closed := length_of_skipSpace same
      exact .ok (by omega)
    · refine (lists _ _ (by omega) (by omega)).bind fun read rest less => .ok ?_
      change rest.length < _
      omega
  · rename_i tail
    simp only [List.length_cons] at enough more ⊢
    have shorter := length_skipSpace_le tail
    split
    · exact .error _
    split
    · rename_i same
      have closed := length_of_skipSpace same
      exact .ok (by omega)
    · refine (objects _ _ (by omega) (by omega)).bind fun read rest less => .ok ?_
      change rest.length < _
      omega
  · exact scalar_settles _

private theorem items_step {bound other : Nat} (values : Covers 1 (value limits) bound other)
    (lists : Covers 2 (items limits) bound other) :
    Covers 2 (items limits) (bound + 1) (other + 1) := by
  intro room text enough more
  rw [items, items]
  refine (values room text (by omega) (by omega)).bind fun first rest less => ?_
  simp only
  split
  · rename_i same
    have closed := length_of_skipSpace same
    exact .ok (by omega)
  · rename_i same
    have comma := length_onward same
    refine (lists room _ (by omega) (by omega)).bind fun others last fewer => .ok ?_
    change last.length < _
    omega
  · exact .error _

private theorem members_step {bound other : Nat} (values : Covers 1 (value limits) bound other)
    (objects : Covers 2 (members limits) bound other) :
    Covers 2 (members limits) (bound + 1) (other + 1) := by
  intro room text enough more
  rw [members.eq_def, members.eq_def]
  simp only
  split
  · refine (string_settles _).bind fun name rest less => ?_
    simp only
    split
    · rename_i same
      have colon := length_onward same
      refine (values room _ (by omega) (by omega)).bind fun first left fewer => ?_
      simp only
      split
      · rename_i same
        have closed := length_of_skipSpace same
        exact .ok (by omega)
      · rename_i same
        have comma := length_onward same
        refine (objects room _ (by omega) (by omega)).bind fun others remains fewest => .ok ?_
        change remains.length < _
        omega
      · exact .error _
    · exact .error _
  · exact .error _

private theorem value_settles (bound other : Nat) :
    Covers 1 (value limits) bound other ∧ Covers 2 (items limits) bound other ∧
      Covers 2 (members limits) bound other := by
  induction bound generalizing other with
  | zero => exact ⟨fun _ _ _ _ => by omega, fun _ _ _ _ => by omega, fun _ _ _ _ => by omega⟩
  | succ bound ih =>
      cases other with
      | zero => exact ⟨fun _ _ _ _ => by omega, fun _ _ _ _ => by omega, fun _ _ _ _ => by omega⟩
      | succ other =>
          obtain ⟨values, lists, objects⟩ := ih other
          exact ⟨value_step lists objects, items_step values lists, members_step values objects⟩

/-- A document is read alike with every bound that covers its text. -/
theorem document_of_bound {bound : Nat} (enough : 2 * text.length + 1 ≤ bound) :
    document limits text =
      if text.head? = some (Char.ofNat 0xFEFF) then .error (.flawed .byteOrderMark text)
      else (do
        let (result, rest) ← value limits bound limits.depth (skipSpace text)
        match skipSpace rest with
        | [] => .ok result
        | rest => .error (.flawed .extraText rest)) := by
  have shorter := length_skipSpace_le text
  have same : value limits (2 * text.length + 2) limits.depth (skipSpace text) =
      value limits bound limits.depth (skipSpace text) :=
    ((value_settles _ bound).1 _ _ (by omega) (by omega)).same
  exact same ▸ rfl

end ModelViews.Json
