import ModelViews.Proofs.Precedence

namespace ModelViews

namespace Text

structure IsRow (text : List Char) : Prop where
  nonempty : text ≠ []
  digits : ∀ c ∈ text, c.isDigit = true

def IsInteger (text : List Char) : Prop :=
  ∃ sign whole, text = sign ++ whole ∧ (sign = [] ∨ sign = ['-']) ∧ IsRow whole

/-- A decimal literal: an integer literal, and a point with more digits at will. -/
def IsDecimal (text : List Char) : Prop :=
  ∃ integer fraction, text = integer ++ fraction ∧ IsInteger integer ∧
    (fraction = [] ∨ ∃ places, fraction = '.' :: places ∧ IsRow places)

def IsAscii (text : List Char) : Prop :=
  ∀ c ∈ text, c.toNat < 128

instance (text : List Char) : Decidable (IsAscii text) :=
  List.decidableBAll (fun c : Char => c.toNat < 128) text

variable {text first second : List Char} {c : Char}

private theorem isAscii_append : IsAscii (first ++ second) ↔ IsAscii first ∧ IsAscii second :=
  List.forall_mem_append

private theorem isDigit_toNat : c.isDigit = true ↔ 48 ≤ c.toNat ∧ c.toNat ≤ 57 := by
  rw [Char.isDigit, Bool.and_eq_true, decide_eq_true_eq, decide_eq_true_eq]
  exact Iff.rfl

private theorem isDigit_ascii : c.isDigit = true ↔ isDigit c = true ∧ c.toNat < 128 := by
  have scripts : ∀ first ∈ zeros, first = 48 ∨ 128 ≤ first := by decide
  rw [isDigit_toNat, isDigit, List.any_eq_true]
  constructor
  · intro digit
    refine ⟨⟨48, by decide, ?_⟩, by omega⟩
    simp only [Bool.and_eq_true, decide_eq_true_eq]
    omega
  · intro ascii
    obtain ⟨⟨first, script, range⟩, below⟩ := ascii
    simp only [Bool.and_eq_true, decide_eq_true_eq] at range
    rcases scripts first script with latin | foreign
    · omega
    · omega

private theorem isRow_iff : IsRow text ↔ IsDigits text ∧ IsAscii text := by
  constructor
  · intro row
    have each : ∀ c ∈ text, isDigit c = true ∧ c.toNat < 128 :=
      fun c member => isDigit_ascii.mp (row.digits c member)
    exact ⟨⟨row.nonempty, fun c member => (each c member).1⟩, fun c member => (each c member).2⟩
  · intro both
    refine ⟨both.1.nonempty, ?_⟩
    intro c member
    exact isDigit_ascii.mpr ⟨both.1.digits c member, both.2 c member⟩

private theorem isDecimal_iff : IsDecimal text ↔ IsNumeral text ∧ IsAscii text := by
  constructor
  · intro decimal
    obtain ⟨_, fraction, rfl, ⟨sign, whole, rfl, signs, row⟩, places⟩ := decimal
    have digits := isRow_iff.mp row
    have signAscii : IsAscii sign := by
      rcases signs with rfl | rfl
      · exact nofun
      · decide
    have ending : (fraction = [] ∨ ∃ places, fraction = '.' :: places ∧ IsDigits places) ∧
        IsAscii fraction := by
      rcases places with rfl | ⟨places, rfl, row⟩
      · exact ⟨.inl rfl, nofun⟩
      · have more := isRow_iff.mp row
        exact ⟨.inr ⟨places, rfl, more.1⟩, List.forall_mem_cons.mpr ⟨by decide, more.2⟩⟩
    refine ⟨⟨sign, whole ++ fraction, List.append_assoc .., signs, whole, fraction, rfl, digits.1,
      ending.1⟩, ?_⟩
    exact isAscii_append.mpr ⟨isAscii_append.mpr ⟨signAscii, digits.2⟩, ending.2⟩
  · intro both
    obtain ⟨⟨sign, _, rfl, signs, whole, fraction, rfl, digits, ending⟩, ascii⟩ := both
    have parts := isAscii_append.mp ascii
    have row : IsRow whole := isRow_iff.mpr ⟨digits, (isAscii_append.mp parts.2).1⟩
    refine ⟨sign ++ whole, fraction, (List.append_assoc ..).symm, ⟨sign, whole, rfl, signs, row⟩, ?_⟩
    rcases ending with rfl | ⟨places, rfl, more⟩
    · exact .inl rfl
    · have tail := List.forall_mem_cons.mp (isAscii_append.mp parts.2).2
      exact .inr ⟨places, rfl, isRow_iff.mpr ⟨more, tail.2⟩⟩

private theorem isInteger_iff : IsInteger text ↔ IsDecimal text ∧ '.' ∉ text := by
  constructor
  · intro integer
    refine ⟨⟨text, [], (List.append_nil text).symm, integer, .inl rfl⟩, ?_⟩
    obtain ⟨sign, whole, rfl, signs, row⟩ := integer
    intro member
    rcases List.mem_append.mp member with inSign | inWhole
    · rcases signs with rfl | rfl
      · cases inSign
      · exact absurd inSign (by decide)
    · exact absurd (row.digits '.' inWhole) (by decide)
  · intro both
    obtain ⟨⟨integer, fraction, rfl, isInteger, places⟩, free⟩ := both
    rcases places with rfl | ⟨places, rfl, _⟩
    · rw [List.append_nil]
      exact isInteger
    · exact absurd (List.mem_append_right integer List.mem_cons_self) free

end Text

def Definition.Term.limits : Definition.Term → List String
  | name _ => []
  | literal _ => []
  | list item => item.limits
  | range lower base upper =>
    lower.toList.map Limit.value ++ base.limits ++ upper.toList.map Limit.value
  | union first second => first.limits ++ second.limits

namespace Scalar

open Definition (IsTerm unquote?)
open Refinement (IsBad Sets segments)
open Text (IsAscii IsDecimal IsInteger IsNumeral)

/-- A limit that the values of a scalar are compared with: a decimal literal, and for big integers an
integer literal that ends in `n`. -/
def IsLiteral (scalar : Scalar) (limit : String) : Prop :=
  if scalar = bigInt then ∃ integer, limit.toList = integer ++ ['n'] ∧ IsInteger integer
  else IsDecimal limit.toList

/-- A limit that annotations give: a numeral that one of their segments sets, in the spelling of the
scalar. Big integers have no fractions. -/
def IsGiven (scalar : Scalar) (annotations : List Annotation) (limit : String) : Prop :=
  ∃ bound : Limit, limit = scalar.numeral bound ∧ IsNumeral bound.value.toList ∧
    (scalar = bigInt → '.' ∉ bound.value.toList) ∧
    ∃ part ∈ segments annotations, ∃ key, Sets part.2 key bound.value

/-- Only literals come through: all limits of the type are literals, and a segment that sets something
other than a decimal literal is an error. -/
def LimitsDecimal (scalar : Scalar) (annotations : List Annotation) : Prop :=
  (∀ type, scalar.type annotations = .ok type →
    ∃ definition term, unquote? type = some definition ∧ IsTerm definition term ∧
      ∀ limit ∈ term.limits, scalar.IsLiteral limit) ∧
  ∀ part ∈ segments annotations, ∀ key value, Sets part.2 key value → ¬ IsDecimal value.toList →
    ∃ error, scalar.type annotations = .error error

variable {scalar : Scalar} {lower upper : Option Limit} {limit : Limit}
  {annotations : List Annotation} {type : String}

private theorem isLiteral_numeral_iff (isNumeral : IsNumeral limit.value.toList)
    (whole : scalar = bigInt → '.' ∉ limit.value.toList) :
    scalar.IsLiteral (scalar.numeral limit) ↔ IsAscii limit.value.toList := by
  have decimal : IsDecimal limit.value.toList ↔ IsAscii limit.value.toList := by
    rw [Text.isDecimal_iff]
    exact and_iff_right isNumeral
  rw [IsLiteral, Scalar.numeral]
  by_cases big : scalar = bigInt
  · have spelled : (limit.value ++ "n").toList = limit.value.toList ++ ['n'] :=
      String.toList_append
    rw [if_pos big, if_pos big, spelled, ← decimal]
    constructor
    · intro literal
      obtain ⟨integer, same, isInteger⟩ := literal
      rw [List.append_cancel_right same]
      exact (Text.isInteger_iff.mp isInteger).1
    · intro isDecimal
      exact ⟨limit.value.toList, rfl, Text.isInteger_iff.mpr ⟨isDecimal, whole big⟩⟩
  · rw [if_neg big, if_neg big]
    exact decimal

private theorem limits_between (lower upper : Option Limit) (word : String) :
    (Definition.Term.between lower (.name word) upper).limits =
      lower.toList.map Limit.value ++ upper.toList.map Limit.value := by
  cases lower <;> cases upper <;> rfl

private theorem limits_of_type (gave : scalar.type annotations = .ok type) :
    ∃ definition term, unquote? type = some definition ∧ IsTerm definition term ∧
      ∀ limit ∈ term.limits, scalar.IsGiven annotations limit := by
  obtain ⟨definition, refined, rfl⟩ := map_eq_ok.mp gave
  obtain ⟨sound, lower, upper, below, above, whole, rfl⟩ := refined_eq_ok.mp refined
  have shows := shows_bounded scalar (below.isNumeral sound) (above.isNumeral sound)
  have side {keys : List (LimitKey × Bool)} {side : Option Limit}
      (isLimit : IsLimit (segments annotations) keys side)
      (unbroken : ∀ value, ¬ scalar.IsFractional side value) :
      ∀ limit ∈ (side.map scalar.shown).toList.map Limit.value, scalar.IsGiven annotations limit := by
    intro limit member
    cases side with
    | none => cases member
    | some bound =>
        refine ⟨bound, List.mem_singleton.mp member, isLimit.isNumeral sound bound rfl, ?_,
          isLimit.sets bound rfl⟩
        intro big point
        exact unbroken bound.value ⟨big, point, rfl⟩
  refine ⟨_, _, Definition.unquote_quote _, shows.isTerm, ?_⟩
  intro limit member
  rw [limits_between, List.mem_append] at member
  rcases member with inLower | inUpper
  · exact side below (fun value => (whole value).1) limit inLower
  · exact side above (fun value => (whole value).2) limit inUpper

private theorem numerals_of_type (gave : scalar.type annotations = .ok type) :
    ∀ part ∈ segments annotations, ∀ key value, Sets part.2 key value → IsNumeral value.toList := by
  obtain ⟨definition, refined, rfl⟩ := map_eq_ok.mp gave
  intro part member key value sets
  by_contra other
  exact (refined_eq_ok.mp refined).1 part member ⟨key, value, sets, other⟩

private theorem failed_of_type {P : Prop} (never : ∀ type, scalar.type annotations = .ok type → ¬ P)
    (holds : P) : ∃ error, scalar.type annotations = .error error := by
  cases gave : scalar.type annotations with
  | error error => exact ⟨error, rfl⟩
  | ok type => exact absurd holds (never type gave)

/-- The limits of a type are numerals that segments set, with an `n` behind those of big integers; a
segment that sets no numeral is an error. The numerals may have the digits of any script: only literals
come through exactly if, where there is a type, all that the segments set is in ASCII. -/
theorem limits_decimal_iff (scalar : Scalar) (annotations : List Annotation) :
    ((∀ type, scalar.type annotations = .ok type →
      ∃ definition term, unquote? type = some definition ∧ IsTerm definition term ∧
        ∀ limit ∈ term.limits, scalar.IsGiven annotations limit) ∧
      ∀ part ∈ segments annotations, ∀ key value, Sets part.2 key value →
        ¬ IsNumeral value.toList → ∃ error, scalar.type annotations = .error error) ∧
    (scalar.LimitsDecimal annotations ↔
      ∀ type, scalar.type annotations = .ok type →
        ∀ part ∈ segments annotations, ∀ key value, Sets part.2 key value →
          IsAscii value.toList) := by
  refine ⟨⟨fun type gave => limits_of_type gave, ?_⟩, ?_⟩
  · intro part member key value sets
    exact failed_of_type fun type gave other =>
      other (numerals_of_type gave part member key value sets)
  · constructor
    · intro decimal type gave part member key value sets
      by_contra foreign
      have noLiteral : ¬ IsDecimal value.toList := by
        intro literal
        exact foreign (Text.isDecimal_iff.mp literal).2
      obtain ⟨error, failed⟩ := decimal.2 part member key value sets noLiteral
      rw [gave] at failed
      cases failed
    · intro ascii
      constructor
      · intro type gave
        obtain ⟨definition, term, unquoted, isTerm, limits⟩ := limits_of_type gave
        refine ⟨definition, term, unquoted, isTerm, ?_⟩
        intro limit member
        obtain ⟨bound, rfl, isNumeral, whole, part, inParts, key, sets⟩ := limits limit member
        have latin := ascii type gave part inParts key bound.value sets
        exact (isLiteral_numeral_iff isNumeral whole).mpr latin
      · intro part member key value sets
        refine failed_of_type fun type gave noLiteral => noLiteral ?_
        have isNumeral := numerals_of_type gave part member key value sets
        have latin := ascii type gave part member key value sets
        exact Text.isDecimal_iff.mpr ⟨isNumeral, latin⟩

private theorem ascii_of_sets {segment value : String} {key : LimitKey}
    (sets : Sets segment key value)
    (ascii : IsAscii segment.toList) : IsAscii value.toList := by
  obtain ⟨before, behind, split, _, _, trims⟩ := sets
  obtain ⟨left, right, around, _, _⟩ := trims.between
  intro c member
  apply ascii
  rw [split, around]
  simp [member]

theorem bigInt_limits_decimal :
    bigInt.type [⟨.options, some "minimum: -5, exclusiveMaximum: 10"⟩] =
        .ok "\"-5n <= bigint < 10n\"" ∧
      bigInt.LimitsDecimal [⟨.options, some "minimum: -5, exclusiveMaximum: 10"⟩] := by
  have ascii : ∀ part ∈ segments [⟨.options, some "minimum: -5, exclusiveMaximum: 10"⟩],
      IsAscii part.2.toList := by
    decide +kernel
  refine ⟨by decide +kernel, (limits_decimal_iff bigInt _).2.mpr ?_⟩
  intro _ _ part member key value sets
  exact ascii_of_sets sets (ascii part member)

/-- A digit of another script comes through. -/
theorem foreign_digit_passes :
    int.type [⟨.options, some "minimum: \u0663"⟩] = .ok "\"\u0663 <= number.integer\"" ∧
      ¬ int.LimitsDecimal [⟨.options, some "minimum: \u0663"⟩] := by
  have gave : int.type [⟨.options, some "minimum: \u0663"⟩] =
      .ok "\"\u0663 <= number.integer\"" := by
    decide +kernel
  have member : ("minimum: \u0663", "minimum: \u0663") ∈
      segments [⟨.options, some "minimum: \u0663"⟩] := by
    decide +kernel
  have sets : Sets "minimum: \u0663" .minimum "\u0663" :=
    Refinement.ofSegment_eq_some.mp (by decide +kernel)
  have noLiteral : ¬ IsDecimal "\u0663".toList := by
    rw [Text.isDecimal_iff]
    intro both
    exact absurd both.2 (by decide)
  refine ⟨gave, ?_⟩
  intro decimal
  obtain ⟨error, failed⟩ := decimal.2 _ member .minimum "\u0663" sets noLiteral
  rw [gave] at failed
  cases failed

end Scalar
end ModelViews
