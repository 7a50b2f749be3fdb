import Mathlib.Data.List.DropRight
import ModelViews.Json.Reader
import ModelViews.Json.Writer

namespace ModelViews

open Number

def AreDigits (text : List Char) : Prop :=
  ∀ c ∈ text, c.isDigit = true

/-- The digits before a point: a zero alone, or digits that do not begin with zero. -/
def IsWhole (text : List Char) : Prop :=
  AreDigits text ∧ (text = ['0'] ∨ ∃ c rest, text = c :: rest ∧ c ≠ '0')

def Stops (rest : List Char) : Prop :=
  ∀ c ∈ rest.head?, c.isDigit = false ∧ c ≠ '.' ∧ c ≠ 'e' ∧ c ≠ 'E'

variable {digits fraction power rest text : List Char} {limits : Json.Limits}

theorem AreDigits.append (first : AreDigits digits) (second : AreDigits fraction) :
    AreDigits (digits ++ fraction) := by
  intro c member
  exact (List.mem_append.mp member).elim (first c) (second c)

theorem AreDigits.replicate (count : Nat) : AreDigits (List.replicate count '0') := by
  intro c member
  rw [List.eq_of_mem_replicate member]
  rfl

private theorem AreDigits.of_sublist (all : AreDigits digits) (part : text.Sublist digits) :
    AreDigits text :=
  fun c member => all c (part.subset member)

theorem AreDigits.takeWhile (all : AreDigits digits) (ends : ∀ c ∈ rest.head?, c.isDigit = false) :
    (digits ++ rest).takeWhile Char.isDigit = digits ∧
      (digits ++ rest).dropWhile Char.isDigit = rest := by
  rw [List.takeWhile_append_of_pos all, List.dropWhile_append_of_pos all]
  cases rest with
  | nil => simp
  | cons c rest =>
      have other : c.isDigit = false := ends c rfl
      simp [other]

/-! Digits of natural numbers. -/

theorem areDigits_toDigits (n : Nat) : AreDigits (Nat.toDigits 10 n) :=
  fun _ member => Nat.isDigit_of_mem_toDigits (by omega) (by omega) member

theorem isWhole_toDigits (n : Nat) : IsWhole (Nat.toDigits 10 n) := by
  refine ⟨areDigits_toDigits n, ?_⟩
  induction n using Nat.strongRecOn with
  | ind n ih =>
      by_cases small : n < 10
      · rw [Nat.toDigits_of_lt_base small]
        by_cases zero : n = 0
        · left
          rw [zero]
          rfl
        · exact .inr ⟨_, [], rfl, fun same => zero (Nat.digitChar_eq_zero.mp same)⟩
      · right
        have large : 10 ≤ n := by omega
        rw [Nat.toDigits_of_base_le (by omega) large]
        have positive : n / 10 ≠ 0 := by omega
        obtain zero | ⟨c, more, same, nonzero⟩ := ih (n / 10) (by omega)
        · have value := @Nat.ofDigitChars_toDigits 10 (n / 10) (by omega) (by omega)
          rw [zero] at value
          exact absurd value.symm positive
        · exact ⟨c, more ++ [(n % 10).digitChar], by rw [same]; rfl, nonzero⟩

private theorem Json.digitsValue_toDigits (n : Nat) : Json.digitsValue (Nat.toDigits 10 n) = n := by
  have value := @Nat.ofDigitChars_toDigits 10 n (by omega) (by omega)
  rw [Nat.ofDigitChars] at value
  rw [digitsValue]
  conv_rhs => rw [← value]
  congr 1
  funext value c
  rw [Nat.mul_comm]
  rfl

/-! Reading digits. -/

namespace Json

private theorem wholeDigits?_append (digits : IsWhole text)
    (ends : ∀ c ∈ rest.head?, c.isDigit = false) :
    wholeDigits? (text ++ rest) = some (text, rest) := by
  obtain ⟨all, rfl | ⟨c, more, rfl, nonzero⟩⟩ := digits
  · rfl
  · have first : c.isDigit = true := all c (by simp)
    obtain ⟨taken, left⟩ := all.takeWhile ends
    rw [List.cons_append] at taken left ⊢
    rw [wholeDigits?.eq_def]
    split
    · rename_i same
      cases same
      exact absurd rfl nonzero
    · rename_i same
      cases same
      rw [if_pos first, taken, left]
    · contradiction

private theorem fractionDigits_append (all : AreDigits fraction) (present : fraction ≠ [])
    (ends : ∀ c ∈ rest.head?, c.isDigit = false) :
    fractionDigits ('.' :: (fraction ++ rest)) = (fraction, rest) := by
  obtain ⟨c, more, rfl⟩ := List.exists_cons_of_ne_nil present
  have first : c.isDigit = true := all c (by simp)
  obtain ⟨taken, left⟩ := all.takeWhile ends
  rw [List.cons_append] at taken left ⊢
  rw [fractionDigits, if_pos first, taken, left]

private theorem fractionDigits_none (other : ∀ c ∈ rest.head?, c ≠ '.') :
    fractionDigits rest = ([], rest) := by
  rw [fractionDigits.eq_def]
  split
  · exact absurd rfl (other '.' rfl)
  · rfl

private theorem fractionDigits_optional (all : AreDigits fraction)
    (ends : ∀ c ∈ rest.head?, c.isDigit = false ∧ c ≠ '.') :
    fractionDigits ((if fraction.isEmpty then [] else '.' :: fraction) ++ rest) =
      (fraction, rest) := by
  by_cases none : fraction = []
  · rw [none]
    exact fractionDigits_none fun c next => (ends c next).2
  · have full : fraction.isEmpty = false := by simpa using none
    rw [full]
    exact fractionDigits_append all none fun c next => (ends c next).1

private theorem exponent?_append {sign : Char} (signed : sign = '-' ∨ sign = '+')
    (all : AreDigits power)
    (present : power ≠ []) (ends : ∀ c ∈ rest.head?, c.isDigit = false) :
    exponent? ('e' :: sign :: (power ++ rest)) =
      some (if sign = '-' then -(digitsValue power : Int) else digitsValue power, rest) := by
  obtain ⟨taken, left⟩ := all.takeWhile ends
  have full : power.isEmpty = false := by simpa using present
  obtain rfl | rfl := signed <;> simp [exponent?, taken, left, full]

private theorem exponent?_none (other : ∀ c ∈ rest.head?, c ≠ 'e' ∧ c ≠ 'E') :
    exponent? rest = none := by
  cases rest with
  | nil => rfl
  | cons c rest =>
      obtain ⟨small, capital⟩ := other c rfl
      simp [exponent?, small, capital]

private theorem unsignedNumber?_digits (negative : Bool) (n : Nat) (stops : Stops rest) :
    unsignedNumber? .unbounded negative (Nat.toDigits 10 n ++ rest) =
      some (.ok (.int (if negative then -(n : Int) else n), rest)) := by
  have before := wholeDigits?_append (isWhole_toDigits n) fun c next => (stops c next).1
  have point := fractionDigits_none fun c next => (stops c next).2.1
  have exponent := exponent?_none fun c next => (stops c next).2.2
  simp only [unsignedNumber?, before, point, exponent, whole, digitsValue_toDigits]
  rfl

end Json

/-- The text of a fractional number without its sign: with a fraction alone, or with an exponent. -/
inductive IsFractional : List Char → Prop where
  | plain {digits fraction : List Char} (before : IsWhole digits) (after : AreDigits fraction)
      (present : fraction ≠ []) : IsFractional (digits ++ '.' :: fraction)
  | scaled {digits fraction power : List Char} {sign : Char} (before : IsWhole digits)
      (after : AreDigits fraction) (signed : sign = '-' ∨ sign = '+') (all : AreDigits power)
      (present : power ≠ []) :
      IsFractional
        (digits ++ (if fraction.isEmpty then [] else '.' :: fraction) ++ 'e' :: sign :: power)

namespace Json

private theorem unsignedNumber?_fractional (limits : Limits) (negative : Bool)
    (shape : IsFractional text) :
    ∃ value, ∀ rest, Stops rest →
      unsignedNumber? limits negative (text ++ rest) = some (.ok (.float value, rest)) := by
  cases shape with
  | @plain digits fraction before after present =>
      refine ⟨Binary64.ofDecimal negative (digitsValue (digits ++ fraction)) (0 - fraction.length), ?_⟩
      intro rest stops
      have whole : wholeDigits? (digits ++ '.' :: (fraction ++ rest)) =
          some (digits, '.' :: (fraction ++ rest)) := wholeDigits?_append before (by simp)
      have point := fractionDigits_append after present fun c next => (stops c next).1
      have exponent := exponent?_none fun c next => (stops c next).2.2
      have full : fraction.isEmpty = false := by simpa using present
      rw [List.append_assoc, List.cons_append]
      simp only [unsignedNumber?, whole, point, exponent, full, fractional]
      rfl
  | @scaled digits fraction power sign before after signed all present =>
      let scale : Int := if sign = '-' then -(digitsValue power : Int) else digitsValue power
      refine ⟨Binary64.ofDecimal negative (digitsValue (digits ++ fraction)) (scale - fraction.length), ?_⟩
      intro rest stops
      let tail := 'e' :: sign :: (power ++ rest)
      let optional := if fraction.isEmpty then [] else '.' :: fraction
      have start : ∀ c ∈ (optional ++ tail).head?, c.isDigit = false := by
        by_cases none : fraction = [] <;> simp [optional, tail, none]
      have whole : wholeDigits? (digits ++ (optional ++ tail)) = some (digits, optional ++ tail) :=
        wholeDigits?_append before start
      have point : fractionDigits (optional ++ tail) = (fraction, tail) :=
        fractionDigits_optional after (by simp [tail])
      have exponent : exponent? tail = some (scale, rest) :=
        exponent?_append signed all present fun c next => (stops c next).1
      have split : digits ++ optional ++ 'e' :: sign :: power ++ rest =
          digits ++ (optional ++ tail) := by
        simp [tail, List.append_assoc]
      change unsignedNumber? limits negative (digits ++ optional ++ 'e' :: sign :: power ++ rest) = _
      rw [split]
      simp only [unsignedNumber?, whole, point, exponent, fractional]

end Json

/-! The layout of fractional numbers. -/

namespace Number

private theorem withoutTrailingZeros_cons {c : Char} (nonzero : c ≠ '0') (rest : List Char) :
    ∃ kept, withoutTrailingZeros (c :: rest) = c :: kept ∧ kept.Sublist rest := by
  have start : withoutTrailingZeros (c :: rest) <+: c :: rest := List.rdropWhile_prefix _ _
  have present : withoutTrailingZeros (c :: rest) ≠ [] := by
    intro none
    have zeros := List.rdropWhile_eq_nil_iff.mp none c (by simp)
    simp [nonzero] at zeros
  obtain ⟨first, kept, same⟩ := List.exists_cons_of_ne_nil present
  rw [same] at start ⊢
  obtain ⟨rfl, part⟩ := List.cons_prefix_cons.mp start
  exact ⟨kept, rfl, part.sublist⟩

private theorem exponent_shape (layout : Layout) (power : Int) :
    ∃ sign digits, layout.exponent power = sign :: digits ∧ (sign = '-' ∨ sign = '+') ∧
      AreDigits digits ∧ digits ≠ [] := by
  refine ⟨_, _, rfl, ?_, ?_, ?_⟩
  · by_cases negative : power < 0 <;> simp [negative]
  · exact (AreDigits.replicate _).append (areDigits_toDigits _)
  · simp [Nat.toDigits_ne_nil]

private theorem isFractional_digits (layout : Layout) {decimal : Decimal}
    (positive : 0 < decimal.digits) :
    IsFractional (layout.digits decimal) := by
  obtain ⟨all, zero | ⟨c, more, same, nonzero⟩⟩ := isWhole_toDigits decimal.digits
  · have value := Json.digitsValue_toDigits decimal.digits
    rw [zero] at value
    have none : Json.digitsValue ['0'] = 0 := rfl
    omega
  obtain ⟨kept, trimmed, part⟩ := withoutTrailingZeros_cons nonzero more
  rw [same] at all
  have digits : AreDigits (c :: kept) := all.of_sublist (part.cons_cons c)
  simp only [Layout.digits, same, trimmed]
  -- the first digit is not zero: it stands before the point, or after a zero and a point
  generalize ((c :: more).length : Int) + decimal.point = point
  by_cases near : layout.leastPlain ≤ point ∧ point ≤ layout.greatestPlain
  · rw [if_pos near]
    by_cases small : point ≤ 0
    · rw [if_pos small]
      have zero : IsWhole ['0'] := ⟨by simp [AreDigits], .inl rfl⟩
      exact .plain zero ((AreDigits.replicate _).append digits) (by simp)
    · rw [if_neg small]
      obtain ⟨count, places⟩ : ∃ count, point.toNat = count + 1 := ⟨point.toNat - 1, by omega⟩
      rw [places]
      refine .plain ⟨?_, .inr ⟨c, _, rfl, nonzero⟩⟩ ?_ ?_
      · exact (digits.of_sublist (List.take_sublist _ _)).append (.replicate _)
      · split
        · simp [AreDigits]
        · exact digits.of_sublist (List.drop_sublist _ _)
      · split <;> simp_all
  · rw [if_neg near]
    obtain ⟨sign, power, written, signed, all, present⟩ := exponent_shape layout (point - 1)
    rw [written]
    refine .scaled ⟨?_, .inr ⟨c, [], rfl, nonzero⟩⟩ ?_ signed all present
    · exact digits.of_sublist (List.take_sublist _ _)
    · exact digits.of_sublist (List.drop_sublist _ _)

private theorem low_pos {mantissa : Nat} (nonzero : mantissa ≠ 0) (exponent : Int) :
    0 < (neighbourhood mantissa exponent).low := by
  have up : 0 < if 0 ≤ exponent then Nat.pow 2 exponent.toNat else 1 := by
    split
    · exact Nat.pow_pos (by omega)
    · omega
  apply Nat.mul_pos _ up
  split <;> omega

private theorem pos_of_holds {n : Neighbourhood} (positive : 0 < n.low) {candidate : Nat}
    {grid : Int}
    (holds : n.holds candidate grid = true) : 0 < candidate := by
  unfold Neighbourhood.holds at holds
  extract_lets up down left at holds
  have scale : 0 < down := by
    change 0 < if 0 ≤ grid then 1 else Nat.pow 10 (-grid).toNat
    split
    · omega
    · exact Nat.pow_pos (by omega)
  have least : 0 < n.low * down := Nat.mul_pos positive scale
  have nothing : candidate = 0 → left = 0 := by
    rintro rfl
    simp [left]
  clear_value left down
  by_contra none
  have zero : left = 0 := nothing (by omega)
  split at holds <;> simp only [Bool.and_eq_true, decide_eq_true_eq] at holds <;> omega

private theorem onGrid?_pos {n : Neighbourhood} (positive : 0 < n.low) {point : Int}
    {count digits : Nat}
    (found : n.onGrid? point count = some digits) : 0 < digits := by
  unfold Neighbourhood.onGrid? at found
  extract_lets grid up down num den below rest at found
  split at found
  · rename_i holds _
    have least : 0 < below := pos_of_holds positive holds
    split at found
    · exact Option.some.inj found ▸ least
    · exact Option.some.inj found ▸ Nat.succ_pos below
  · rename_i holds _
    exact Option.some.inj found ▸ pos_of_holds positive holds
  · exact Option.some.inj found ▸ Nat.succ_pos below
  · cases found

private theorem search_pos {n : Neighbourhood} (positive : 0 < n.low) (point : Int)
    (tries count : Nat) :
    0 < (n.search point tries count).digits := by
  induction tries generalizing count with
  | zero => exact Nat.one_pos
  | succ tries ih =>
      rw [Neighbourhood.search]
      cases found : n.onGrid? point count with
      | some digits => exact onGrid?_pos positive found
      | none => exact ih (count + 1)

private theorem shortest_pos {mantissa : Nat} (nonzero : mantissa ≠ 0) (exponent : Int) :
    0 < (shortest mantissa exponent).digits :=
  search_pos (low_pos nonzero exponent) _ _ _

end Number

/-! Signed numbers as values. -/

namespace Json

def StartsWithDigit (text : List Char) : Prop :=
  ∃ c rest, text = c :: rest ∧ c.isDigit = true

theorem startsWithDigit_whole (whole : IsWhole text) (rest : List Char) :
    StartsWithDigit (text ++ rest) := by
  obtain ⟨all, rfl | ⟨c, more, rfl, _⟩⟩ := whole
  · exact ⟨'0', rest, rfl, rfl⟩
  · exact ⟨c, more ++ rest, rfl, all c (by simp)⟩

theorem startsWithDigit_fractional (shape : IsFractional text) : StartsWithDigit text := by
  cases shape with
  | plain before _ _ => exact startsWithDigit_whole before _
  | scaled before _ _ _ _ =>
      rw [List.append_assoc]
      exact startsWithDigit_whole before _

def signed (negative : Bool) (text : List Char) : List Char :=
  (if negative then ['-'] else []) ++ text

private theorem scalar_signed (limits : Limits) (negative : Bool) (starts : StartsWithDigit text)
    {reading : Reading Wire} (read : unsignedNumber? limits negative text = some reading) :
    scalar limits (signed negative text) = reading := by
  obtain ⟨c, rest, rfl, digit⟩ := starts
  have other (letter : Char) (isLetter : letter.isDigit = false) : letter ≠ c := by
    rintro rfl
    rw [digit] at isLetter
    cases isLetter
  have noWord : word? (signed negative (c :: rest)) = none := by
    cases negative <;>
      simp [word?, words, signed, List.isPrefixOf, other 'n' rfl, other 't' rfl, other 'f' rfl,
        other 'N' rfl, other 'I' rfl, other '-' rfl]
  have number : number? limits (signed negative (c :: rest)) = some reading := by
    cases negative with
    | true => exact read
    | false =>
        change number? limits (c :: rest) = _
        rw [number?.eq_def]
        split
        · rename_i same
          cases same
          exact absurd rfl (other '-' rfl)
        · exact read
  rw [scalar, noWord, number]
  rfl

theorem scalar_intText (value : Int) (stops : Stops rest) :
    scalar .unbounded (intText value ++ rest) = .ok (.int value, rest) := by
  have starts := startsWithDigit_whole (isWhole_toDigits value.natAbs) rest
  have read := unsignedNumber?_digits (decide (value < 0)) value.natAbs stops
  have same : (if decide (value < 0) = true then -(value.natAbs : Int) else value.natAbs) = value := by
    split
    · rename_i negative
      have less : value < 0 := of_decide_eq_true negative
      omega
    · rename_i natural
      have least : ¬ value < 0 := fun negative => natural (decide_eq_true negative)
      omega
  rw [same] at read
  have written : intText value ++ rest =
      signed (decide (value < 0)) (Nat.toDigits 10 value.natAbs ++ rest) := by
    simp [intText, signed]
  rw [written]
  exact scalar_signed .unbounded _ starts read

/-- A number that is finite is written by a sign and the text of a fractional number. -/
theorem text_finite (layout : Layout) (negative : Bool) (mantissa : Nat) (exponent : Int) :
    ∃ shown, IsFractional shown ∧
      (layout.text (.finite negative mantissa exponent)).toList = signed negative shown := by
  have sign : (if negative then "-" else "").toList = if negative then ['-'] else [] := by
    cases negative <;> rfl
  by_cases zero : mantissa = 0
  · have whole : IsWhole ['0'] := ⟨by simp [AreDigits], .inl rfl⟩
    refine ⟨_, @IsFractional.plain ['0'] ['0'] whole (by simp [AreDigits]) (by simp), ?_⟩
    rw [Layout.text, if_pos zero, String.toList_append, sign]
    rfl
  · refine ⟨_, isFractional_digits layout (shortest_pos zero exponent), ?_⟩
    rw [Layout.text, if_neg zero, String.toList_append, sign, String.toList_ofList]
    rfl

theorem scalar_floatText (limits : Limits) (value : Binary64) :
    ∃ reread, ∀ rest, Stops rest →
      scalar limits ((numberLayout.text value).toList ++ rest) = .ok (.float reread, rest) := by
  cases value with
  | undefined => exact ⟨.undefined, fun rest _ => rfl⟩
  | infinite negative =>
      refine ⟨.infinite negative, fun rest _ => ?_⟩
      cases negative <;> rfl
  | finite negative mantissa exponent =>
      obtain ⟨shown, shape, same⟩ := text_finite numberLayout negative mantissa exponent
      obtain ⟨reread, read⟩ := unsignedNumber?_fractional limits negative shape
      refine ⟨reread, fun rest stops => ?_⟩
      obtain ⟨c, more, first, digit⟩ := startsWithDigit_fractional shape
      have starts : StartsWithDigit (shown ++ rest) := ⟨c, more ++ rest, by rw [first]; rfl, digit⟩
      have written : signed negative shown ++ rest = signed negative (shown ++ rest) := by
        rw [signed, signed, List.append_assoc]
      rw [same, written]
      exact scalar_signed limits negative starts (read rest stops)

end Json

end ModelViews
