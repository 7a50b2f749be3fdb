import Mathlib.Data.List.Chain
import ModelViews.Json.Reader
import ModelViews.Json.Writer
/-!
The text of strings. Each code point is written as itself or as an escape, and either way the reader
takes it back as that one code point, unless two halves are written that make a pair. A string is settled
if none of its halves do; then what is written for it reads back as the string, and what the reader makes
of any text is settled.
-/
namespace ModelViews
namespace Json

variable {c : Char} {unit : Nat} {opening rest : List Char}

/-! Code units. -/

private theorem hexValue?_hexDigit : ∀ n < 16, hexValue? (hexDigit n) = some n := by
  decide

private theorem codeUnit?_hexDigits (small : unit < 0x10000) :
    codeUnit? (hexDigit (unit / 4096 % 16)) (hexDigit (unit / 256 % 16)) (hexDigit (unit / 16 % 16))
      (hexDigit (unit % 16)) = some unit := by
  have digit (n : Nat) : hexValue? (hexDigit (n % 16)) = some (n % 16) :=
    hexValue?_hexDigit _ (Nat.mod_lt _ (by omega))
  simp only [codeUnit?, digit, Option.some.injEq]
  omega

private theorem basic_not_surrogate (basic : c.toNat < 0x10000) :
    isHighSurrogate c.toNat = false ∧ isLowSurrogate c.toNat = false := by
  have valid : c.toNat < 0xD800 ∨ 0xDFFF < c.toNat ∧ c.toNat < 0x110000 := c.valid
  simp only [isHighSurrogate, isLowSurrogate, Bool.and_eq_false_iff, decide_eq_false_iff_not]
  omega

private theorem singleUnit_basic (basic : c.toNat < 0x10000) : singleUnit c.toNat = .char c := by
  obtain ⟨high, low⟩ := basic_not_surrogate basic
  have whole : ¬ (0xD800 ≤ c.toNat ∧ c.toNat < 0xE000) := by
    simp only [isHighSurrogate, isLowSurrogate, Bool.and_eq_false_iff, decide_eq_false_iff_not] at high low
    omega
  rw [singleUnit, dif_neg whole, Char.ofNat_toNat]

private theorem singleUnit_half (place : Fin 0x800) :
    singleUnit (CodePoint.unit place) = .half place := by
  have half : 0xD800 ≤ CodePoint.unit place ∧ CodePoint.unit place < 0xE000 := by
    rw [CodePoint.unit]
    omega
  rw [singleUnit, dif_pos half]
  simp [CodePoint.unit]

private theorem isHigh_singleUnit (unit : Nat) :
    (singleUnit unit).isHigh = isHighSurrogate unit := by
  rw [Bool.eq_iff_iff, singleUnit, isHighSurrogate, Bool.and_eq_true, decide_eq_true_eq,
    decide_eq_true_eq]
  split
  · next half =>
      simp only [CodePoint.isHigh, decide_eq_true_eq]
      omega
  · next whole =>
      simp only [CodePoint.isHigh, Bool.false_eq_true, false_iff]
      omega

private theorem isLow_singleUnit (unit : Nat) : (singleUnit unit).isLow = isLowSurrogate unit := by
  rw [Bool.eq_iff_iff, singleUnit, isLowSurrogate, Bool.and_eq_true, decide_eq_true_eq,
    decide_eq_true_eq]
  split
  · next half =>
      simp only [CodePoint.isLow, decide_eq_true_eq]
      omega
  · next whole =>
      simp only [CodePoint.isLow, Bool.false_eq_true, false_iff]
      omega

private theorem pairedUnits_wide (wide : 0x10000 ≤ c.toNat) :
    let offset := c.toNat - 0x10000
    isHighSurrogate (0xD800 + offset / 0x400) = true ∧
      isLowSurrogate (0xDC00 + offset % 0x400) = true ∧
      pairedUnits (0xD800 + offset / 0x400) (0xDC00 + offset % 0x400) = c := by
  intro offset
  have valid : c.toNat < 0xD800 ∨ 0xDFFF < c.toNat ∧ c.toNat < 0x110000 := c.valid
  have total : 0x10000 + (0xD800 + offset / 0x400 - 0xD800) * 0x400 +
      (0xDC00 + offset % 0x400 - 0xDC00) = c.toNat := by omega
  refine ⟨?_, ?_, ?_⟩
  · simp only [isHighSurrogate, Bool.and_eq_true, decide_eq_true_eq]
    omega
  · simp only [isLowSurrogate, Bool.and_eq_true, decide_eq_true_eq]
    omega
  · rw [pairedUnits, total, Char.ofNat_toNat]

/-! Escapes. -/

def BeginsUnit (unit : Nat) (text : List Char) : Prop :=
  ∃ a b c d next rest, text = '\\' :: 'u' :: a :: b :: c :: d :: next :: rest ∧
    codeUnit? a b c d = some unit

private theorem beginsUnit_inj {other : Nat} {text : List Char} (one : BeginsUnit unit text)
    (two : BeginsUnit other text) : unit = other := by
  obtain ⟨a, b, c, d, next, rest, rfl, read⟩ := one
  obtain ⟨_, _, _, _, _, _, same, again⟩ := two
  cases same
  exact Option.some.inj (read.symm.trans again)

def KeepsApart (text : List Char) : Prop :=
  ∀ a b c d next rest, text = '\\' :: 'u' :: a :: b :: c :: d :: next :: rest →
    ∃ unit, codeUnit? a b c d = some unit ∧ isLowSurrogate unit = false

private theorem escape_letter {letter : Char} (short : shortEscape? letter = some c) :
    escape opening ('\\' :: letter :: rest) = .ok (.char c, rest) := by
  have other : letter ≠ 'u' := by
    rintro rfl
    cases short
  rw [escape.eq_def]
  simp only [List.drop_succ_cons, List.drop_zero]
  split <;> simp_all

private theorem escape_unit (opening : List Char) (next : Char) (rest : List Char)
    (small : unit < 0x10000)
    (single : isHighSurrogate unit = false) :
    escape opening (unitEscape unit ++ next :: rest) = .ok (singleUnit unit, next :: rest) := by
  simp [escape, unitEscape, codeUnit?_hexDigits small, single]

private theorem escape_pair {high low : Nat} {next : Char} (first : isHighSurrogate high = true)
    (second : isLowSurrogate low = true) :
    escape opening (unitEscape high ++ unitEscape low ++ next :: rest) =
      .ok (.char (pairedUnits high low), next :: rest) := by
  have small : high < 0x10000 ∧ low < 0x10000 := by
    simp only [isHighSurrogate, isLowSurrogate, Bool.and_eq_true, decide_eq_true_eq] at first second
    omega
  simp [escape, unitEscape, codeUnit?_hexDigits small.1, codeUnit?_hexDigits small.2, first, second]

private theorem escape_high (opening : List Char) {next : Char} (small : unit < 0x10000)
    (high : isHighSurrogate unit = true)
    (apart : KeepsApart (next :: rest)) :
    escape opening (unitEscape unit ++ next :: rest) = .ok (singleUnit unit, next :: rest) := by
  simp only [escape, unitEscape, List.cons_append, List.nil_append, List.drop_succ_cons, List.drop_zero,
    codeUnit?_hexDigits small, high, ↓reduceIte]
  split
  · next e f g h next' rest' same =>
      obtain ⟨low, read, single⟩ := apart e f g h next' rest' same
      simp only [read, single, Bool.false_eq_true, ↓reduceIte]
  · rfl

def IsShown (c : Char) : Prop :=
  0x20 ≤ c.toNat ∧ c.toNat < 0x7F

instance : Decidable (IsShown c) :=
  inferInstanceAs (Decidable (_ ∧ _))

private theorem escaped_cases (c : Char) :
    (c ≠ '"' ∧ c ≠ '\\' ∧ IsShown c ∧ escaped c = [c]) ∨
    (∃ letter, shortEscape? letter = some c ∧ IsShown letter ∧ escaped c = ['\\', letter]) ∨
    (c.toNat < 0x10000 ∧ escaped c = unitEscape c.toNat) ∨
    (0x10000 ≤ c.toNat ∧ escaped c = unitEscape (0xD800 + (c.toNat - 0x10000) / 0x400) ++
      unitEscape (0xDC00 + (c.toNat - 0x10000) % 0x400)) := by
  have letter (code : Nat) (same : c.toNat = code) : c = Char.ofNat code := by
    rw [← same, Char.ofNat_toNat]
  rw [escaped]
  split
  · rename_i same
    exact .inr (.inl ⟨'"', by rw [same]; rfl, by decide, rfl⟩)
  split
  · rename_i same
    exact .inr (.inl ⟨'\\', by rw [same]; rfl, by decide, rfl⟩)
  split
  · rename_i same
    exact .inr (.inl ⟨'n', by rw [same]; rfl, by decide, rfl⟩)
  split
  · rename_i same
    exact .inr (.inl ⟨'r', by rw [same]; rfl, by decide, rfl⟩)
  split
  · rename_i same
    exact .inr (.inl ⟨'t', by rw [same]; rfl, by decide, rfl⟩)
  split
  · rename_i same
    exact .inr (.inl ⟨'b', by rw [letter 8 same]; rfl, by decide, rfl⟩)
  split
  · rename_i same
    exact .inr (.inl ⟨'f', by rw [letter 12 same]; rfl, by decide, rfl⟩)
  split
  · rename_i quote backslash _ _ _ _ _ shown
    exact .inl ⟨quote, backslash, shown, rfl⟩
  split
  · rename_i basic
    exact .inr (.inr (.inl ⟨basic, rfl⟩))
  · exact .inr (.inr (.inr ⟨by omega, rfl⟩))

private theorem stringBody_escape {bound : Nat} {text : List Char} {point : CodePoint}
    (escapes : escape opening ('\\' :: text) = .ok (point, rest)) :
    stringBody (bound + 1) opening ('\\' :: text) =
      (stringBody bound opening rest).map fun read => (point :: read.1, read.2) := by
  rw [stringBody, if_neg (by decide), if_pos rfl, escapes]
  change (stringBody bound opening rest >>= _) = _
  cases stringBody bound opening rest <;> rfl

private theorem stringBody_escaped (bound : Nat) (present : rest ≠ []) :
    stringBody (bound + 1) opening (escaped c ++ rest) =
      (stringBody bound opening rest).map fun read => (.char c :: read.1, read.2) := by
  obtain ⟨next, rest, rfl⟩ := List.exists_cons_of_ne_nil present
  obtain ⟨quote, backslash, shown, same⟩ | ⟨letter, short, _, same⟩ | ⟨basic, same⟩ | ⟨wide, same⟩ :=
    escaped_cases c
  · have control : ¬ c.toNat < 0x20 := by
      obtain ⟨least, _⟩ := shown
      omega
    rw [same]
    simp only [List.singleton_append, stringBody, if_neg quote, if_neg backslash, if_neg control]
    cases stringBody bound opening (next :: rest) <;> rfl
  · rw [same]
    exact stringBody_escape (escape_letter short)
  · rw [same]
    apply stringBody_escape
    exact (escape_unit _ _ _ basic (basic_not_surrogate basic).1).trans
      (by rw [singleUnit_basic basic])
  · obtain ⟨first, second, paired⟩ := pairedUnits_wide wide
    rw [same]
    apply stringBody_escape
    exact (escape_pair first second).trans (by rw [paired])

private theorem unit_lt (place : Fin 0x800) : CodePoint.unit place < 0x10000 := by
  rw [CodePoint.unit]
  omega

private theorem stringBody_codePoint (bound : Nat) (point : CodePoint) (present : rest ≠ [])
    (apart : point.isHigh = true → KeepsApart rest) :
    stringBody (bound + 1) opening (codePointText point ++ rest) =
      (stringBody bound opening rest).map fun read => (point :: read.1, read.2) := by
  cases point with
  | char c => exact stringBody_escaped bound present
  | half place =>
      obtain ⟨next, rest, rfl⟩ := List.exists_cons_of_ne_nil present
      apply stringBody_escape
      have high := isHigh_singleUnit (CodePoint.unit place)
      rw [singleUnit_half] at high
      cases first : isHighSurrogate (CodePoint.unit place) with
      | true =>
          have read := escape_high opening (unit_lt place) first (apart (high.trans first))
          rwa [singleUnit_half] at read
      | false =>
          have read := escape_unit opening next rest (unit_lt place) first
          rwa [singleUnit_half] at read

private theorem keepsApart_unitEscape (small : unit < 0x10000)
    (single : isLowSurrogate unit = false) :
    KeepsApart (unitEscape unit ++ rest) := by
  rintro a b c d next rest' same
  cases same
  exact ⟨unit, codeUnit?_hexDigits small, single⟩

private theorem keepsApart_codePoint (point : CodePoint) (single : point.isLow = false) :
    KeepsApart (codePointText point ++ rest) := by
  cases point with
  | half place =>
      have low := isLow_singleUnit (CodePoint.unit place)
      rw [singleUnit_half, single] at low
      exact keepsApart_unitEscape (unit_lt place) low.symm
  | char c =>
      rw [codePointText]
      obtain ⟨_, backslash, _, same⟩ | ⟨letter, short, _, same⟩ | ⟨basic, same⟩ | ⟨wide, same⟩ :=
        escaped_cases c
      · rw [same]
        rintro _ _ _ _ _ _ ⟨⟩
        exact absurd rfl backslash
      · rw [same]
        rintro _ _ _ _ _ _ ⟨⟩
        cases short
      · rw [same]
        exact keepsApart_unitEscape basic (basic_not_surrogate basic).2
      · obtain ⟨high, _, _⟩ := pairedUnits_wide wide
        rw [same, List.append_assoc]
        simp only [isHighSurrogate, Bool.and_eq_true, decide_eq_true_eq] at high
        apply keepsApart_unitEscape
        · omega
        · simp only [isLowSurrogate, Bool.and_eq_false_iff, decide_eq_false_iff_not]
          omega

end Json

namespace CodeText

open Json

/-- A text as it is read back from what is written for it: a high half and a low one after it are
one character. -/
def joined : CodeText → CodeText
  | [] => []
  | [point] => [point]
  | first :: second :: rest =>
    if first.isHigh = true ∧ second.isLow = true then
      .char (pairedUnits first.value second.value) :: joined rest
    else first :: joined (second :: rest)

def IsSettled (text : CodeText) : Prop :=
  text.IsChain fun first second => ¬ (first.isHigh = true ∧ second.isLow = true)

theorem joined_of_settled {text : CodeText} (settled : text.IsSettled) : text.joined = text := by
  induction text using joined.induct with
  | case1 => rfl
  | case2 point => rfl
  | case3 first second rest pair ih => exact absurd pair (List.isChain_cons_cons.mp settled).1
  | case4 first second rest apart ih => rw [joined, if_neg apart, ih settled.of_cons]

end CodeText

namespace Json

private theorem high_value {point : CodePoint} (high : point.isHigh = true) :
    codePointText point = unitEscape point.value ∧ isHighSurrogate point.value = true := by
  cases point with
  | char c => cases high
  | half place =>
      rw [← singleUnit_half place, isHigh_singleUnit] at high
      exact ⟨rfl, high⟩

private theorem low_value {point : CodePoint} (low : point.isLow = true) :
    codePointText point = unitEscape point.value ∧ isLowSurrogate point.value = true := by
  cases point with
  | char c => cases low
  | half place =>
      rw [← singleUnit_half place, isLow_singleUnit] at low
      exact ⟨rfl, low⟩

private theorem stringBody_pair {first second : CodePoint} (bound : Nat) (present : rest ≠ [])
    (high : first.isHigh = true) (low : second.isLow = true) :
    stringBody (bound + 1) opening (codePointText first ++ (codePointText second ++ rest)) =
      (stringBody bound opening rest).map fun read =>
        (.char (pairedUnits first.value second.value) :: read.1, read.2) := by
  obtain ⟨next, rest, rfl⟩ := List.exists_cons_of_ne_nil present
  obtain ⟨written, high⟩ := high_value high
  obtain ⟨writtenNext, low⟩ := low_value low
  rw [written, writtenNext, ← List.append_assoc]
  exact stringBody_escape (escape_pair high low)

private theorem stringBody_flatMap (text : CodeText) (bound : Nat) (enough : text.length < bound) :
    stringBody bound opening (text.flatMap codePointText ++ '"' :: rest) =
      .ok (text.joined, rest) := by
  obtain _ | bound := bound
  · cases enough
  induction text using CodeText.joined.induct generalizing bound with
  | case1 => rfl
  | case2 point =>
      obtain ⟨bound, rfl⟩ : ∃ less, bound = less + 1 := ⟨bound - 1, by simp at enough; omega⟩
      have apart : point.isHigh = true → KeepsApart ('"' :: rest) := by
        rintro _ _ _ _ _ _ _ ⟨⟩
      rw [List.flatMap_singleton, stringBody_codePoint (bound + 1) point (by simp) apart]
      rfl
  | case3 first second text pair ih =>
      obtain ⟨bound, rfl⟩ : ∃ less, bound = less + 1 := ⟨bound - 1, by simp at enough; omega⟩
      rw [CodeText.joined, if_pos pair, List.flatMap_cons, List.flatMap_cons, List.append_assoc,
        List.append_assoc, stringBody_pair (bound + 1) (by simp) pair.1 pair.2,
        ih bound (by simp at enough; omega)]
      rfl
  | case4 first second text apart ih =>
      obtain ⟨bound, rfl⟩ : ∃ less, bound = less + 1 := ⟨bound - 1, by simp at enough; omega⟩
      have keeps : first.isHigh = true →
          KeepsApart ((second :: text).flatMap codePointText ++ '"' :: rest) := by
        intro high
        rw [List.flatMap_cons, List.append_assoc]
        exact keepsApart_codePoint second (Bool.eq_false_iff.mpr fun low => apart ⟨high, low⟩)
      rw [CodeText.joined, if_neg apart, List.flatMap_cons, List.append_assoc,
        stringBody_codePoint (bound + 1) first (by simp) keeps, ih bound (by simpa using enough)]
      rfl

private theorem length_le_flatMap (text : CodeText) :
    text.length ≤ (text.flatMap codePointText).length := by
  have some (point : CodePoint) : 0 < (codePointText point).length := by
    cases point with
    | half place => simp [codePointText, unitEscape]
    | char c =>
        obtain ⟨_, _, _, same⟩ | ⟨_, _, _, same⟩ | ⟨_, same⟩ | ⟨_, same⟩ := escaped_cases c <;>
          simp [codePointText, same, unitEscape]
  induction text with
  | nil => simp
  | cons point text ih =>
      have first := some point
      rw [List.flatMap_cons, List.length_append, List.length_cons]
      omega

/-- The text of a string reads back as the string, with its halves joined. -/
theorem string_stringText (text : CodeText) (rest : List Char) :
    string (stringText text ++ rest) = .ok (text.joined, rest) := by
  have least := length_le_flatMap text
  have body : (stringText text ++ rest).drop 1 = text.flatMap codePointText ++ '"' :: rest := by
    simp [stringText]
  rw [string, body]
  apply stringBody_flatMap
  simp only [stringText, List.length_append, List.length_cons]
  omega

/-! What is read from any text is settled. -/

private theorem escape_half {text : List Char} {place : Fin 0x800}
    (read : escape opening ('\\' :: text) = .ok (.half place, rest)) :
    ∃ unit, BeginsUnit unit ('\\' :: text) ∧ singleUnit unit = .half place ∧
      (isHighSurrogate unit = true → ∀ low, BeginsUnit low rest → isLowSurrogate low = false) := by
  simp only [escape, List.drop_succ_cons, List.drop_zero] at read
  split at read
  · cases read
  · next a b c d next tail =>
      split at read
      · cases read
      · next unit found =>
          have begins : BeginsUnit unit ('\\' :: 'u' :: a :: b :: c :: d :: next :: tail) :=
            ⟨a, b, c, d, next, tail, rfl, found⟩
          split at read
          · split at read
            · next e f g h next' rest' same =>
                split at read
                · cases read
                · next second found' =>
                    split at read
                    · cases read
                    · next single =>
                        obtain ⟨same', rfl⟩ := Prod.mk.inj (Except.ok.inj read)
                        refine ⟨unit, begins, same', fun _ low begun => ?_⟩
                        rw [same] at begun
                        rw [beginsUnit_inj begun ⟨e, f, g, h, next', rest', rfl, found'⟩]
                        simpa using single
            · next other =>
                obtain ⟨same', rfl⟩ := Prod.mk.inj (Except.ok.inj read)
                refine ⟨unit, begins, same', ?_⟩
                rintro _ low ⟨e, f, g, h, next', rest', same, _⟩
                exact absurd same (other e f g h next' rest')
          · next single =>
              obtain ⟨same', rfl⟩ := Prod.mk.inj (Except.ok.inj read)
              exact ⟨unit, begins, same', fun high => absurd high single⟩
  · cases read
  · split at read
    · cases read
    · cases read

private theorem stringBody_cons {bound : Nat} {text : List Char} {point : CodePoint}
    {points : CodeText}
    (read : stringBody bound opening text = .ok (point :: points, rest)) :
    ∃ less after, stringBody less opening after = .ok (points, rest) ∧
      ∀ place, point = .half place → ∃ tail, text = '\\' :: tail ∧
        escape opening text = .ok (.half place, after) := by
  obtain _ | less := bound
  · cases read
  cases text with
  | nil => cases read
  | cons c tail =>
      rw [stringBody] at read
      split at read
      · cases read
      split at read
      · next backslash =>
          subst backslash
          cases escaped : escape opening ('\\' :: tail) with
          | error fault =>
              rw [escaped] at read
              cases read
          | ok first =>
              obtain ⟨other, after⟩ := first
              simp only [escaped, bind, Except.bind] at read
              cases others : stringBody less opening after with
              | error fault =>
                  rw [others] at read
                  cases read
              | ok found =>
                  rw [others] at read
                  cases read
                  exact ⟨less, after, others, fun place half => ⟨tail, rfl, by rw [half]⟩⟩
      split at read
      · cases read
      · cases others : stringBody less opening tail with
        | error fault =>
            rw [others] at read
            cases read
        | ok found =>
            rw [others] at read
            cases read
            exact ⟨less, tail, others, nofun⟩

private theorem isSettled_of_stringBody {bound : Nat} {text : List Char} {points : CodeText}
    (read : stringBody bound opening text = .ok (points, rest)) : points.IsSettled := by
  induction points generalizing bound text with
  | nil => exact List.isChain_nil
  | cons first others ih =>
      obtain ⟨_, after, later, firstRead⟩ := stringBody_cons read
      cases others with
      | nil => exact List.isChain_singleton first
      | cons second more =>
          refine List.isChain_cons_cons.mpr ⟨?_, ih later⟩
          rintro ⟨high, low⟩
          obtain ⟨_, _, _, secondRead⟩ := stringBody_cons later
          cases first with
          | char c => cases high
          | half one =>
              cases second with
              | char c => cases low
              | half two =>
                  obtain ⟨_, rfl, escaped⟩ := firstRead one rfl
                  obtain ⟨unit, _, same, apart⟩ := escape_half escaped
                  obtain ⟨_, rfl, escapedNext⟩ := secondRead two rfl
                  obtain ⟨next, begins, sameNext, _⟩ := escape_half escapedNext
                  rw [← same, isHigh_singleUnit] at high
                  rw [← sameNext, isLow_singleUnit, apart high next begins] at low
                  cases low

theorem isSettled_of_string {text : List Char} {points : CodeText}
    (read : string text = .ok (points, rest)) : points.IsSettled :=
  isSettled_of_stringBody read

theorem isShown_stringText (text : CodeText) : ∀ c ∈ stringText text, IsShown c := by
  have digit (n : Nat) : IsShown (hexDigit (n % 16)) := by
    have all : ∀ digit < 16, IsShown (hexDigit digit) := by decide
    exact all _ (Nat.mod_lt _ (by omega))
  have unit (n : Nat) : ∀ c ∈ unitEscape n, IsShown c := by
    simp only [unitEscape, List.forall_mem_cons, digit, true_and]
    exact ⟨by decide, by decide, by simp⟩
  have character (c : Char) : ∀ shown ∈ escaped c, IsShown shown := by
    obtain ⟨_, _, shown, same⟩ | ⟨letter, _, shown, same⟩ | ⟨_, same⟩ | ⟨_, same⟩ := escaped_cases c
    · rw [same]
      simpa using shown
    · rw [same]
      simpa [shown] using (by decide : IsShown '\\')
    · rw [same]
      exact unit _
    · rw [same]
      intro shown member
      exact (List.mem_append.mp member).elim (unit _ shown) (unit _ shown)
  have each (point : CodePoint) : ∀ shown ∈ codePointText point, IsShown shown := by
    cases point with
    | char c => exact character c
    | half place => exact unit _
  intro c member
  simp only [stringText, List.mem_cons, List.mem_append, List.mem_flatMap, List.not_mem_nil,
    or_false] at member
  obtain (rfl | ⟨source, _, part⟩) | rfl := member
  · decide
  · exact each source c part
  · decide

end Json
end ModelViews
