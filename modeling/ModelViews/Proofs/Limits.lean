import ModelViews.Definition.Scalar
import ModelViews.Proofs.TextParts

namespace ModelViews

open Text (Trims)

namespace Text

structure IsDigits (text : List Char) : Prop where
  nonempty : text ≠ []
  digits : ∀ c ∈ text, isDigit c = true

def IsUnsigned (text : List Char) : Prop :=
  ∃ whole fraction, text = whole ++ fraction ∧ IsDigits whole ∧
    (fraction = [] ∨ ∃ places, fraction = '.' :: places ∧ IsDigits places)

/-- A numeral: a minus sign at will, digits, and a point with more digits at will. -/
def IsNumeral (text : List Char) : Prop :=
  ∃ sign unsigned, text = sign ++ unsigned ∧ (sign = [] ∨ sign = ['-']) ∧ IsUnsigned unsigned

variable {text : List Char}

theorem IsNumeral.character (numeral : IsNumeral text) {c : Char} (member : c ∈ text) :
    c = '-' ∨ c = '.' ∨ isDigit c = true := by
  obtain ⟨sign, _, split, signs, whole, fraction, rfl, digits, fractions⟩ := numeral
  rw [split, List.mem_append, List.mem_append] at member
  rcases member with inSign | inWhole | inFraction
  · rcases signs with rfl | rfl
    · cases inSign
    · exact .inl (List.mem_singleton.mp inSign)
  · exact .inr (.inr (digits.digits c inWhole))
  · rcases fractions with rfl | ⟨places, rfl, more⟩
    · cases inFraction
    · rcases List.mem_cons.mp inFraction with point | later
      · exact .inr (.inl point)
      · exact .inr (.inr (more.digits c later))

theorem IsUnsigned.head (unsigned : IsUnsigned text) :
    ∃ c rest, text = c :: rest ∧ isDigit c = true := by
  obtain ⟨whole, fraction, rfl, digits, _⟩ := unsigned
  obtain ⟨c, rest, rfl⟩ := List.exists_cons_of_ne_nil digits.nonempty
  exact ⟨c, rest ++ fraction, rfl, digits.digits c List.mem_cons_self⟩

end Text

namespace Refinement

variable {text : List Char}

private theorem isUnsignedNumeral_iff : isUnsignedNumeral text = true ↔ Text.IsUnsigned text := by
  constructor
  · intro numeral
    rw [isUnsignedNumeral, Bool.and_eq_true] at numeral
    have whole : Text.IsDigits (text.takeWhile Text.isDigit) :=
      ⟨by simpa using numeral.1, fun c member => List.mem_takeWhile_imp member⟩
    refine ⟨_, _, List.takeWhile_append_dropWhile.symm, whole, ?_⟩
    cases rest : text.dropWhile Text.isDigit with
    | nil => exact .inl rfl
    | cons point places =>
        simp only [rest, Bool.and_eq_true, beq_iff_eq, Bool.not_eq_true', List.isEmpty_eq_false_iff,
          List.all_eq_true] at numeral
        exact .inr ⟨places, by rw [numeral.2.1.1], numeral.2.1.2, numeral.2.2⟩
  · rintro ⟨whole, fraction, rfl, row, ending⟩
    have stops : ∀ c, fraction.head? = some c → Text.isDigit c = false := by
      rcases ending with rfl | ⟨places, rfl, _⟩
      · simp
      · intro c head
        cases head
        decide
    have rest : (whole ++ fraction).dropWhile Text.isDigit = fraction := by
      rw [List.dropWhile_append_of_pos row.digits, Text.dropWhile_of_head stops]
    have taken : (whole ++ fraction).takeWhile Text.isDigit ≠ [] := by
      rw [List.takeWhile_append_of_pos row.digits]
      simp [row.nonempty]
    rw [isUnsignedNumeral, rest, Bool.and_eq_true]
    refine ⟨by simpa using taken, ?_⟩
    rcases ending with rfl | ⟨places, rfl, more⟩
    · rfl
    · simpa [more.nonempty] using more.digits

theorem isNumeral_iff : isNumeral text = true ↔ Text.IsNumeral text := by
  have minus : Text.isDigit '-' = false := by decide
  constructor
  · intro numeral
    unfold isNumeral at numeral
    split at numeral
    · next rest => exact ⟨['-'], rest, rfl, .inr rfl, isUnsignedNumeral_iff.mp numeral⟩
    · exact ⟨[], text, rfl, .inl rfl, isUnsignedNumeral_iff.mp numeral⟩
  · rintro ⟨sign, unsigned, rfl, rfl | rfl, positive⟩
    · obtain ⟨c, rest, rfl, digit⟩ := positive.head
      have plain : c ≠ '-' := by
        rintro rfl
        rw [minus] at digit
        cases digit
      rw [List.nil_append, isNumeral, isUnsignedNumeral_iff]
      · exact positive
      · intro other same
        exact plain (List.cons.inj same).1
    · exact isUnsignedNumeral_iff.mpr positive

/-- The segments between the commas of all options, in order, each with the payload it stands in. -/
def segments (annotations : List Annotation) : List (String × String) :=
  let payloads := Annotation.optionPayloads annotations
  payloads.flatMap fun payload => (Text.pieces ',' payload).map (payload, ·)

/-- A segment sets a limit: one of the keys stands before its first colon, and the value behind it,
both between blanks. -/
def Sets (segment : String) (key : LimitKey) (value : String) : Prop :=
  ∃ before behind, segment.toList = before ++ ':' :: behind ∧ ':' ∉ before ∧
    Trims before key.name.toList ∧ Trims behind value.toList

def IsBad (segment : String) : Prop :=
  ∃ key value, Sets segment key value ∧ ¬ Text.IsNumeral value.toList

def LastSets (parts : List (String × String)) (key : LimitKey) (value : String) : Prop :=
  ∃ before payload segment after, parts = before ++ (payload, segment) :: after ∧
    Sets segment key value ∧ ∀ later ∈ after, ∀ other, ¬ Sets later.2 key other

end Refinement

private theorem LimitKey.ofName_eq_some {name : String} {key : LimitKey} :
    LimitKey.ofName? name = some key ↔ name = key.name := by
  constructor
  · intro found
    simpa [eq_comm] using List.find?_some found
  · rintro rfl
    cases key <;> decide +kernel

namespace Refinement

variable {segment : String} {key : LimitKey} {value : String}

theorem ofSegment_eq_some : ofSegment? segment = some ⟨key, value⟩ ↔ Sets segment key value := by
  rw [ofSegment?, Sets]
  cases cut : Text.cutAt? ':' segment.toList with
  | none =>
      simp only [reduceCtorEq, false_iff]
      rintro ⟨before, behind, split, free, _⟩
      rw [Text.cutAt_eq_some.mpr ⟨split, free⟩] at cut
      cases cut
  | some parts =>
      obtain ⟨before, behind⟩ := parts
      simp only [Option.map_eq_some_iff, LimitKey.ofName_eq_some, Refinement.mk.injEq,
        Text.trims_iff]
      constructor
      · rintro ⟨found, named, rfl, rfl⟩
        obtain ⟨split, free⟩ := Text.cutAt_eq_some.mp cut
        exact ⟨before, behind, split, free, by rw [← named, String.toList_ofList],
          String.toList_ofList⟩
      · rintro ⟨front, back, split, free, named, valued⟩
        rw [Text.cutAt_eq_some.mpr ⟨split, free⟩] at cut
        cases cut
        exact ⟨key, by rw [← named, String.ofList_toList], rfl, by rw [← valued, String.ofList_toList]⟩

private theorem written_segments (annotations : List Annotation) :
    written annotations = (segments annotations).filterMap fun part =>
      (ofSegment? part.2).map (part.1, ·) := by
  simp only [written, segments, List.filterMap_flatMap, List.filterMap_map]
  rfl

def fault? (part : String × String) : Option AnnotationError :=
  (ofSegment? part.2).bind fun refinement =>
    if isNumeral refinement.value.toList then none else some (.badLimit part.1)

private theorem fault_eq_some {part : String × String} {error : AnnotationError} :
    fault? part = some error ↔ IsBad part.2 ∧ error = .badLimit part.1 := by
  rw [fault?, Option.bind_eq_some_iff]
  constructor
  · rintro ⟨⟨key, value⟩, sets, failed⟩
    by_cases numeral : isNumeral value.toList = true
    · rw [if_pos numeral] at failed
      cases failed
    · rw [if_neg numeral, Option.some.injEq] at failed
      rw [isNumeral_iff] at numeral
      exact ⟨⟨key, value, ofSegment_eq_some.mp sets, numeral⟩, failed.symm⟩
  · rintro ⟨⟨key, value, sets, numeral⟩, rfl⟩
    rw [← isNumeral_iff] at numeral
    exact ⟨⟨key, value⟩, ofSegment_eq_some.mpr sets, if_neg numeral⟩

private theorem fault_eq_none {part : String × String} : fault? part = none ↔ ¬ IsBad part.2 := by
  rw [Option.eq_none_iff_forall_ne_some]
  simp only [ne_eq, fault_eq_some, not_and]
  exact ⟨fun sound bad => sound _ bad rfl, fun sound _ bad => absurd bad sound⟩

private theorem check_fault (parts : List (String × String)) :
    errorOf? (check (parts.filterMap fun part => (ofSegment? part.2).map (part.1, ·))) =
      parts.findSome? fault? := by
  induction parts with
  | nil => rfl
  | cons part rest ih =>
      rw [List.filterMap_cons, List.findSome?_cons, ← ih, fault?]
      cases ofSegment? part.2 with
      | none => rfl
      | some refinement =>
          simp only [Option.map_some, check, Option.bind_some]
          by_cases numeral : isNumeral refinement.value.toList = true
          · rw [if_pos numeral, if_pos numeral]
            cases check (rest.filterMap fun part => (ofSegment? part.2).map (part.1, ·)) <;> rfl
          · rw [if_neg numeral, if_neg numeral]
            rfl

private theorem check_values {entries : List (String × Refinement)} {refinements : List Refinement}
    (gave : check entries = .ok refinements) : refinements = entries.map Prod.snd := by
  induction entries generalizing refinements with
  | nil =>
      cases gave
      rfl
  | cons entry rest ih =>
      rw [check] at gave
      split at gave
      · split at gave
        · cases gave
        · next others checked =>
            cases gave
            rw [ih checked, List.map_cons]
      · cases gave

def recognised (parts : List (String × String)) : List Refinement :=
  parts.filterMap fun part => ofSegment? part.2

variable {annotations : List Annotation}

/-- The first bad segment is the error, whatever it is for. -/
theorem check_eq_error {error : AnnotationError} :
    check (written annotations) = .error error ↔
      ∃ before payload segment after, segments annotations = before ++ (payload, segment) :: after ∧
        IsBad segment ∧ (∀ earlier ∈ before, ¬ IsBad earlier.2) ∧ error = .badLimit payload := by
  rw [← errorOf_eq_some, written_segments, check_fault, List.findSome?_eq_some_iff]
  simp only [fault_eq_some, fault_eq_none, Prod.exists]
  constructor
  · rintro ⟨before, payload, segment, after, split, ⟨bad, same⟩, sound⟩
    exact ⟨before, payload, segment, after, split, bad, sound, same⟩
  · rintro ⟨before, payload, segment, after, split, bad, sound, same⟩
    exact ⟨before, payload, segment, after, split, ⟨bad, same⟩, sound⟩

private theorem check_eq_ok {refinements : List Refinement} :
    check (written annotations) = .ok refinements ↔
      (∀ part ∈ segments annotations, ¬ IsBad part.2) ∧
        refinements = recognised (segments annotations) := by
  have values {found : List Refinement} (gave : check (written annotations) = .ok found) :
      found = recognised (segments annotations) := by
    rw [check_values gave, written_segments, List.map_filterMap, recognised]
    congr 1
    funext part
    cases ofSegment? part.2 <;> rfl
  have sound : (∃ found, check (written annotations) = .ok found) ↔
      ∀ part ∈ segments annotations, ¬ IsBad part.2 := by
    rw [← errorOf_eq_none, written_segments, check_fault, List.findSome?_eq_none_iff]
    simp only [fault_eq_none]
  constructor
  · exact fun gave => ⟨sound.mp ⟨_, gave⟩, values gave⟩
  · rintro ⟨all, rfl⟩
    obtain ⟨found, gave⟩ := sound.mpr all
    rw [gave, values gave]

private theorem any_key_iff {part : String × String} :
    (ofSegment? part.2).any (fun refinement => refinement.key = key) = true ↔
      ∃ value, Sets part.2 key value := by
  simp only [Option.any_eq_true, decide_eq_true_eq]
  constructor
  · rintro ⟨⟨_, value⟩, sets, rfl⟩
    exact ⟨value, ofSegment_eq_some.mp sets⟩
  · rintro ⟨value, sets⟩
    exact ⟨⟨key, value⟩, ofSegment_eq_some.mpr sets, rfl⟩

/-- The last segment under a key decides. -/
theorem last_eq_some {parts : List (String × String)} :
    last? key (recognised parts) = some value ↔ LastSets parts key value := by
  rw [last?, recognised, ← List.filterMap_reverse, List.find?_filterMap, Option.map_eq_some_iff]
  simp only [Option.bind_eq_some_iff, List.find?_eq_some_iff_append, any_key_iff,
    Bool.not_eq_true', ← Bool.not_eq_true, not_exists]
  constructor
  · rintro ⟨⟨found, _⟩, ⟨part, ⟨⟨other, sets⟩, after, before, split, none⟩, same⟩, rfl⟩
    obtain ⟨rfl, _⟩ : key = found ∧ _ := by
      rw [ofSegment_eq_some.mpr sets, Option.some.injEq, Refinement.mk.injEq] at same
      exact same
    have turned := congrArg List.reverse split
    rw [List.reverse_reverse, List.reverse_append, List.reverse_cons, List.append_assoc] at turned
    refine ⟨before.reverse, part.1, part.2, after.reverse, turned, ofSegment_eq_some.mp same, ?_⟩
    intro later member
    exact none later (List.mem_reverse.mp member)
  · rintro ⟨before, payload, segment, after, rfl, sets, none⟩
    refine ⟨⟨key, value⟩, ⟨(payload, segment), ⟨⟨value, sets⟩, after.reverse, before.reverse, ?_, ?_⟩,
      ofSegment_eq_some.mpr sets⟩, rfl⟩
    · simp
    · intro later member
      exact none later (List.mem_reverse.mp member)

end Refinement

namespace Scalar

open Refinement (IsBad LastSets last? recognised segments)

/-- The keys that limit a scalar from below, each with whether it excludes the limit itself. The first
of them that is set decides. -/
def lowerKeys : Scalar → List (LimitKey × Bool)
  | string => [(.minLength, false)]
  | int | bigInt | float | decimal => [(.exclusiveMinimum, true), (.minimum, false)]
  | boolean | dateTime | bytes | json => []

def upperKeys : Scalar → List (LimitKey × Bool)
  | string => [(.maxLength, false)]
  | int | bigInt | float | decimal => [(.exclusiveMaximum, true), (.maximum, false)]
  | boolean | dateTime | bytes | json => []

/-- The limit at a side with the given keys. -/
inductive IsLimit (parts : List (String × String)) : List (LimitKey × Bool) → Option Limit → Prop
  | none : IsLimit parts [] none
  | here {key : LimitKey} {strict : Bool} {keys : List (LimitKey × Bool)} {value : String}
      (sets : LastSets parts key value) : IsLimit parts ((key, strict) :: keys) (some ⟨strict, value⟩)
  | there {key : LimitKey} {strict : Bool} {keys : List (LimitKey × Bool)} {limit : Option Limit}
      (unset : ∀ value, ¬ LastSets parts key value) (later : IsLimit parts keys limit) :
      IsLimit parts ((key, strict) :: keys) limit

def firstLimit? (refinements : List Refinement) : List (LimitKey × Bool) → Option Limit
  | [] => none
  | (key, strict) :: keys =>
    match last? key refinements with
    | some value => some ⟨strict, value⟩
    | none => firstLimit? refinements keys

private theorem isLimit_iff {parts : List (String × String)} {keys : List (LimitKey × Bool)}
    {limit : Option Limit} :
    IsLimit parts keys limit ↔ limit = firstLimit? (recognised parts) keys := by
  constructor
  · intro isLimit
    induction isLimit with
    | none => rfl
    | here sets => rw [firstLimit?, Refinement.last_eq_some.mpr sets]
    | @there key _ _ _ unset _ ih =>
        have nowhere : last? key (recognised parts) = none := by
          rw [Option.eq_none_iff_forall_ne_some]
          exact fun value found => unset value (Refinement.last_eq_some.mp found)
        rw [firstLimit?, nowhere, ih]
  · rintro rfl
    induction keys with
    | nil => exact .none
    | cons entry keys ih =>
        obtain ⟨key, strict⟩ := entry
        rw [firstLimit?]
        cases found : last? key (recognised parts) with
        | some value => exact .here (Refinement.last_eq_some.mp found)
        | none =>
            refine .there ?_ ih
            intro value sets
            rw [Refinement.last_eq_some.mpr sets] at found
            cases found

private theorem limit_eq_first (exclusive? : Option LimitKey) (inclusive : LimitKey)
    (refinements : List Refinement) :
    limit? exclusive? inclusive refinements =
      firstLimit? refinements (exclusive?.toList.map (·, true) ++ [(inclusive, false)]) := by
  cases exclusive? with
  | none =>
      simp only [limit?, Option.bind_none, Option.toList_none, List.map_nil, List.nil_append,
        firstLimit?]
      cases last? inclusive refinements <;> rfl
  | some exclusive =>
      simp only [limit?, Option.bind_some, Option.toList_some, List.map_cons, List.map_nil,
        List.cons_append, List.nil_append, firstLimit?]
      cases last? exclusive refinements with
      | some value => rfl
      | none => cases last? inclusive refinements <;> rfl

private theorem lower_eq (scalar : Scalar) (refinements : List Refinement) :
    scalar.lower? refinements = firstLimit? refinements scalar.lowerKeys := by
  cases scalar <;> simp [lower?, isNumeric, limit_eq_first, lowerKeys, firstLimit?]

private theorem upper_eq (scalar : Scalar) (refinements : List Refinement) :
    scalar.upper? refinements = firstLimit? refinements scalar.upperKeys := by
  cases scalar <;> simp [upper?, isNumeric, limit_eq_first, upperKeys, firstLimit?]

def IsFractional (scalar : Scalar) (limit : Option Limit) (value : String) : Prop :=
  scalar = bigInt ∧ '.' ∈ value.toList ∧ limit.map Limit.value = some value

def numeral (scalar : Scalar) (limit : Limit) : String :=
  if scalar = bigInt then limit.value ++ "n" else limit.value

def lowerText (scalar : Scalar) : Option Limit → String
  | none => ""
  | some limit => scalar.numeral limit ++ " " ++ limit.comparator ++ " "

def upperText (scalar : Scalar) : Option Limit → String
  | none => ""
  | some limit => " " ++ limit.comparator ++ " " ++ scalar.numeral limit

variable {scalar : Scalar} {limit spelled : Option Limit} {error : AnnotationError}

private theorem spell_eq_error :
    scalar.spell limit = .error error ↔
      ∃ value, scalar.IsFractional limit value ∧ error = .fractionalLimit value := by
  cases limit with
  | none => simp [spell, IsFractional]
  | some limit =>
      rw [spell]
      by_cases big : scalar = bigInt
      · by_cases point : '.' ∈ limit.value.toList
        · simp [IsFractional, big, point, eq_comm]
        · simp [IsFractional, big, point]
      · simp [IsFractional, big]

private theorem spell_eq_ok :
    scalar.spell limit = .ok spelled ↔ (∀ value, ¬ scalar.IsFractional limit value) ∧
      spelled = limit.map fun limit => { limit with value := scalar.numeral limit } := by
  cases limit with
  | none => simp [spell, IsFractional, eq_comm]
  | some limit =>
      rw [spell]
      by_cases big : scalar = bigInt
      · rw [if_pos big]
        by_cases point : '.' ∈ limit.value.toList
        · have fractional : scalar.IsFractional (some limit) limit.value := ⟨big, point, rfl⟩
          rw [if_pos (List.contains_iff_mem.mpr point)]
          exact ⟨nofun, fun ⟨whole, _⟩ => absurd fractional (whole _)⟩
        · have whole : ∀ value, ¬ scalar.IsFractional (some limit) value := by
            rintro _ ⟨_, inside, same⟩
            cases same
            exact point inside
          rw [if_neg (point ∘ List.contains_iff_mem.mp), Except.ok.injEq, Option.map_some, numeral,
            if_pos big]
          exact ⟨fun same => ⟨whole, same.symm⟩, fun ⟨_, same⟩ => same.symm⟩
      · simp [IsFractional, big, numeral, eq_comm]

private theorem bounded_spelled (scalar : Scalar) (definition : String)
    (lower upper : Option Limit) :
    bounded definition (lower.map fun limit => { limit with value := scalar.numeral limit })
        (upper.map fun limit => { limit with value := scalar.numeral limit }) =
      scalar.lowerText lower ++ definition ++ scalar.upperText upper := by
  cases lower <;> cases upper <;> rfl

def IsPlain (text : String) : Prop :=
  ∀ c ∈ text.toList, c ≠ '\\' ∧ c ≠ '"'

-- By the characters of the text: a search over all characters would never end.
instance (text : String) : Decidable (IsPlain text) :=
  List.decidableBAll (fun c => c ≠ '\\' ∧ c ≠ '"') text.toList

theorem IsPlain.append {first second : String} (begins : IsPlain first) (ends : IsPlain second) :
    IsPlain (first ++ second) := by
  intro c member
  rw [String.toList_append, List.mem_append] at member
  exact member.elim (begins c) (ends c)

private theorem quote_of_plain {text : String} (plain : IsPlain text) :
    Definition.quote text = "\"" ++ text ++ "\"" := by
  have escapeless : text.toList.flatMap Definition.escaped = text.toList := by
    have bare : ∀ c ∈ text.toList, Definition.escaped c = [c] := by
      intro c member
      obtain ⟨backslash, mark⟩ := plain c member
      rw [Definition.escaped, if_neg (not_or.mpr ⟨backslash, mark⟩)]
    rw [List.flatMap_congr bare, List.flatMap_singleton']
  rw [Definition.quote, escapeless, ← String.toList_inj, String.toList_ofList]
  simp

private theorem isPlain_of_isNumeral {text : String} (numeral : Text.IsNumeral text.toList) :
    IsPlain text := by
  intro c member
  rcases numeral.character member with rfl | rfl | digit
  · decide
  · decide
  · constructor <;> rintro rfl <;> revert digit <;> decide

private theorem isPlain_definition (scalar : Scalar) : IsPlain scalar.definition := by
  cases scalar <;> decide

private theorem isPlain_comparator (limit : Limit) : IsPlain limit.comparator := by
  rw [Limit.comparator]
  split <;> decide

private theorem isPlain_numeral {limit : Limit} (numeral : Text.IsNumeral limit.value.toList) :
    IsPlain (scalar.numeral limit) := by
  rw [Scalar.numeral]
  split
  · exact (isPlain_of_isNumeral numeral).append (by decide)
  · exact isPlain_of_isNumeral numeral

theorem IsLimit.sets {parts : List (String × String)} {keys : List (LimitKey × Bool)}
    {limit : Option Limit} (isLimit : IsLimit parts keys limit) :
    ∀ bound ∈ limit, ∃ part ∈ parts, ∃ key, Refinement.Sets part.2 key bound.value := by
  induction isLimit with
  | none => exact nofun
  | @here key _ _ value sets =>
      intro bound given
      cases given
      obtain ⟨before, payload, segment, after, split, sets, _⟩ := sets
      exact ⟨(payload, segment), by simp [split], key, sets⟩
  | there _ _ ih => exact ih

theorem IsLimit.isNumeral {parts : List (String × String)} {keys : List (LimitKey × Bool)}
    {limit : Option Limit} (isLimit : IsLimit parts keys limit)
    (sound : ∀ part ∈ parts, ¬ IsBad part.2) :
    ∀ bound ∈ limit, Text.IsNumeral bound.value.toList := by
  intro bound given
  obtain ⟨part, inParts, key, sets⟩ := isLimit.sets bound given
  by_contra other
  exact sound part inParts ⟨key, bound.value, sets, other⟩

private theorem isPlain_lowerText (numerals : ∀ bound ∈ limit, Text.IsNumeral bound.value.toList) :
    IsPlain (scalar.lowerText limit) := by
  cases limit with
  | none => exact nofun
  | some limit =>
      exact (((isPlain_numeral (numerals limit rfl)).append (by decide)).append
        (isPlain_comparator limit)).append (by decide)

private theorem isPlain_upperText (numerals : ∀ bound ∈ limit, Text.IsNumeral bound.value.toList) :
    IsPlain (scalar.upperText limit) := by
  cases limit with
  | none => exact nofun
  | some limit =>
      exact (((show IsPlain " " by decide).append (isPlain_comparator limit)).append
        (by decide)).append (isPlain_numeral (numerals limit rfl))

variable {annotations : List Annotation}

private theorem refined_eq_error :
    scalar.refined annotations = .error error ↔
      Refinement.check (Refinement.written annotations) = .error error ∨
        (∀ part ∈ segments annotations, ¬ IsBad part.2) ∧ ∃ lower upper value,
          IsLimit (segments annotations) scalar.lowerKeys lower ∧
          IsLimit (segments annotations) scalar.upperKeys upper ∧
          (scalar.IsFractional lower value ∨
            (∀ other, ¬ scalar.IsFractional lower other) ∧ scalar.IsFractional upper value) ∧
          error = .fractionalLimit value := by
  rw [refined, bind_eq_error]
  apply or_congr_right
  simp only [Refinement.check_eq_ok, bind_eq_error, spell_eq_error, spell_eq_ok, isLimit_iff,
    lower_eq, upper_eq]
  constructor
  · rintro ⟨_, ⟨sound, rfl⟩, ⟨value, fractional, rfl⟩ | ⟨_, ⟨whole, rfl⟩, rest⟩⟩
    · exact ⟨sound, _, _, value, rfl, rfl, .inl fractional, rfl⟩
    · rcases rest with ⟨value, fractional, rfl⟩ | ⟨_, _, impossible⟩
      · exact ⟨sound, _, _, value, rfl, rfl, .inr ⟨whole, fractional⟩, rfl⟩
      · cases impossible
  · rintro ⟨sound, _, _, value, rfl, rfl, fractional | ⟨whole, fractional⟩, rfl⟩
    · exact ⟨_, ⟨sound, rfl⟩, .inl ⟨value, fractional, rfl⟩⟩
    · exact ⟨_, ⟨sound, rfl⟩, .inr ⟨_, ⟨whole, rfl⟩, .inl ⟨value, fractional, rfl⟩⟩⟩

theorem refined_eq_ok {text : String} :
    scalar.refined annotations = .ok text ↔
      (∀ part ∈ segments annotations, ¬ IsBad part.2) ∧ ∃ lower upper,
        IsLimit (segments annotations) scalar.lowerKeys lower ∧
        IsLimit (segments annotations) scalar.upperKeys upper ∧
        (∀ value, ¬ scalar.IsFractional lower value ∧ ¬ scalar.IsFractional upper value) ∧
        text = scalar.lowerText lower ++ scalar.definition ++ scalar.upperText upper := by
  simp only [refined, bind_eq_ok, Refinement.check_eq_ok, spell_eq_ok, isLimit_iff, lower_eq,
    upper_eq, forall_and]
  constructor
  · rintro ⟨_, ⟨sound, rfl⟩, _, ⟨wholeLower, rfl⟩, _, ⟨wholeUpper, rfl⟩, gave⟩
    refine ⟨sound, _, _, rfl, rfl, ⟨wholeLower, wholeUpper⟩, ?_⟩
    rw [← bounded_spelled]
    exact (Except.ok.inj gave).symm
  · rintro ⟨sound, _, _, rfl, rfl, ⟨wholeLower, wholeUpper⟩, rfl⟩
    refine ⟨_, ⟨sound, rfl⟩, _, ⟨wholeLower, rfl⟩, _, ⟨wholeUpper, rfl⟩, ?_⟩
    rw [← bounded_spelled]
    rfl

/-- The type of a scalar by the segments of the options. Segments under no key are passed over. The
first segment that sets something other than a numeral is the error, whether or not its key limits the
scalar; after it, a fraction in a limit that is used of a big integer. Every other type is the
definition between double quotes, with the lower limit on its left and the upper limit on its right. -/
theorem type_by_segments (scalar : Scalar) (annotations : List Annotation) :
    let parts := segments annotations
    (∀ error, scalar.type annotations = .error error ↔
      (∃ front payload segment rest, parts = front ++ (payload, segment) :: rest ∧ IsBad segment ∧
        (∀ earlier ∈ front, ¬ IsBad earlier.2) ∧ error = .badLimit payload) ∨
      (∀ part ∈ parts, ¬ IsBad part.2) ∧ ∃ lower upper value,
        IsLimit parts scalar.lowerKeys lower ∧ IsLimit parts scalar.upperKeys upper ∧
        (scalar.IsFractional lower value ∨
          (∀ other, ¬ scalar.IsFractional lower other) ∧ scalar.IsFractional upper value) ∧
        error = .fractionalLimit value) ∧
    ∀ text, scalar.type annotations = .ok text ↔
      (∀ part ∈ parts, ¬ IsBad part.2) ∧ ∃ lower upper,
        IsLimit parts scalar.lowerKeys lower ∧ IsLimit parts scalar.upperKeys upper ∧
        (∀ value, ¬ scalar.IsFractional lower value ∧ ¬ scalar.IsFractional upper value) ∧
        text = "\"" ++ (scalar.lowerText lower ++ scalar.definition ++ scalar.upperText upper) ++
          "\"" := by
  intro parts
  have quoted {lower upper : Option Limit} (sound : ∀ part ∈ parts, ¬ IsBad part.2)
      (below : IsLimit parts scalar.lowerKeys lower) (above : IsLimit parts scalar.upperKeys upper) :
      Definition.quote (scalar.lowerText lower ++ scalar.definition ++ scalar.upperText upper) =
        "\"" ++ (scalar.lowerText lower ++ scalar.definition ++ scalar.upperText upper) ++ "\"" :=
    quote_of_plain (((isPlain_lowerText (below.isNumeral sound)).append
      (isPlain_definition scalar)).append (isPlain_upperText (above.isNumeral sound)))
  constructor
  · intro error
    rw [← Refinement.check_eq_error, ← refined_eq_error, type]
    cases scalar.refined annotations <;> simp [Except.map]
  · intro text
    constructor
    · intro gave
      obtain ⟨plain, refined, rfl⟩ := map_eq_ok.mp gave
      obtain ⟨sound, lower, upper, below, above, whole, rfl⟩ := refined_eq_ok.mp refined
      exact ⟨sound, lower, upper, below, above, whole, quoted sound below above⟩
    · rintro ⟨sound, lower, upper, below, above, whole, rfl⟩
      have refined := refined_eq_ok.mpr ⟨sound, lower, upper, below, above, whole, rfl⟩
      rw [type, refined, ← quoted sound below above]
      rfl

example :
    float.type [⟨.options, some "exclusiveMinimum: 0.5, minLength: 3"⟩,
        ⟨.options, some "minimum: 1"⟩] = .ok "\"0.5 < number\"" := by
  decide +kernel

end Scalar
end ModelViews
