import ModelViews.Proofs.DefinitionTerms
import ModelViews.Proofs.Limits
import ModelViews.Proofs.Quoting
import ModelViews.View.FieldType
/-!
What the list and null forms of a definition mean. Parentheses are written around a definition with an
operator in it, so that the brackets of a list take the whole definition for their operand; the bar
before null is the loosest operator, and what stands before it is one side of the union.
-/
namespace ModelViews

namespace Definition

def Shows (level : Level) (definition : String) (term : Term) : Prop :=
  ∃ spelled, Reads level spelled term ∧
    ∀ rest, StopsWord rest → tokens (definition.toList ++ rest) = spelled ++ tokens rest

section Wrapping

variable {definition : String} {term : Term}

private theorem stops_of_head {c : Char} (ends : endsWord c = true) (rest : List Char) :
    StopsWord (c :: rest) := by
  intro d head
  cases head
  exact ends

private theorem Shows.loosest (shows : Shows .operand definition term) :
    Shows .union definition term := by
  obtain ⟨spelled, reads, read⟩ := shows
  exact ⟨spelled, .branch reads.bare, read⟩

theorem Shows.isTerm (shows : Shows .union definition term) : IsTerm definition term := by
  obtain ⟨spelled, reads, read⟩ := shows
  apply isTerm_of_reads
  have whole := read [] nofun
  rw [List.append_nil, tokens_nil, List.append_nil] at whole
  rw [whole]
  exact reads

structure Means (definition : String) (term : Term) : Prop where
  whole : Shows .union definition term
  bare : needsGrouping definition = false → Shows .operand definition term

private theorem needsGrouping_append (first second : String) :
    needsGrouping (first ++ second) = (needsGrouping first || needsGrouping second) := by
  rw [needsGrouping, String.toList_append, List.any_append]
  rfl

theorem Means.listOf (means : Means definition term) :
    Means (listOf definition) (.list term) := by
  have operand : Shows .operand (Definition.listOf definition) (.list term) := by
    rw [Definition.listOf]
    by_cases grouped : needsGrouping definition = true
    · obtain ⟨spelled, reads, read⟩ := means.whole
      rw [if_pos grouped]
      refine ⟨.opening :: (spelled ++ [.closing]) ++ [.brackets], .list (.group reads), ?_⟩
      intro rest _
      have inner := read (')' :: '[' :: ']' :: rest) (stops_of_head (by decide) _)
      simp [inner]
    · obtain ⟨spelled, reads, read⟩ := means.bare (Bool.not_eq_true _ ▸ grouped)
      rw [if_neg grouped]
      refine ⟨spelled ++ [.brackets], .list reads, ?_⟩
      intro rest _
      have inner := read ('[' :: ']' :: rest) (stops_of_head (by decide) _)
      simp [inner]
  exact ⟨operand.loosest, fun _ => operand⟩

theorem Means.orNullOf (means : Means definition term) :
    Means (orNullOf definition) (.union term (.name "null")) := by
  constructor
  · obtain ⟨spelled, reads, read⟩ := means.whole
    have null : Reads .operand [.word "null"] (.name "null") := .name (by decide)
    refine ⟨spelled ++ .bar :: [.word "null"], .union reads null.bare, ?_⟩
    intro rest stops
    have word : tokens ("null".toList ++ rest) = .word (String.ofList "null".toList) :: tokens rest :=
      tokens_word (by decide) (plain_word (by decide)) stops
    have inner := read (' ' :: '|' :: ' ' :: ("null".toList ++ rest)) (stops_of_head (by decide) _)
    rw [tokens_space, tokens_bar, tokens_space, word] at inner
    simpa [Definition.orNullOf] using inner
  · intro bare
    have bar : needsGrouping " | null" = true := by decide
    rw [Definition.orNullOf, needsGrouping_append, bar, Bool.or_true] at bare
    cases bare

end Wrapping

end Definition

namespace Field

open Definition (Means Term quote)

def wrappedDefinition (field : Field) (nullable : Bool) : String → String :=
  field.wrapping nullable Definition.listOf Definition.orNullOf

/-- What a field with list and null forms holds: lists of its base, or null. -/
def wrappedTerm (field : Field) (nullable : Bool) : Term → Term :=
  field.wrapping nullable .list fun listed => .union listed (.name "null")

private theorem wrapped_quote (field : Field) (nullable : Bool) (definition : String) :
    field.wrapped nullable (quote definition) = quote (field.wrappedDefinition nullable definition) := by
  have lists {type definition : String} (same : type = quote definition) :
      Definition.arrayOf type = quote (Definition.listOf definition) := by
    rw [same, Definition.arrayOf_quote]
  have nulls {type definition : String} (same : type = quote definition) :
      Definition.orNull type = quote (Definition.orNullOf definition) := by
    rw [same, Definition.orNull_quote]
  rw [wrapped_eq, wrappedDefinition]
  exact wrapping_relates (R := fun type definition => type = quote definition) field nullable
    lists nulls rfl

private theorem means_wrapped (field : Field) (nullable : Bool) {definition : String} {base : Term}
    (means : Means definition base) :
    Means (field.wrappedDefinition nullable definition) (field.wrappedTerm nullable base) :=
  wrapping_relates field nullable Means.listOf Means.orNullOf means

end Field

namespace Scalar

open Definition (Means Reads Shows StopsWord Token endsWord isLimit needsGrouping_append tokens)

variable {scalar : Scalar} {lower upper : Option Limit} {limit : Limit} {rest : List Char}

private theorem endsWord_numeral {text : List Char} (numeral : Text.IsNumeral text) :
    ∀ c ∈ text, endsWord c = false := by
  intro c member
  rcases numeral.character member with rfl | rfl | digit
  · decide
  · decide
  · have noDigits : (Definition.wordEnds.any Text.isDigit) = false := by decide
    rw [← Bool.not_eq_true, endsWord, List.contains_iff_mem]
    intro special
    exact absurd digit (List.any_eq_false.mp noDigits c special)

private theorem numeral_nonempty {text : List Char} (numeral : Text.IsNumeral text) :
    text ≠ [] := by
  obtain ⟨sign, unsigned, split, _, positive⟩ := numeral
  obtain ⟨c, more, same, _⟩ := positive.head
  rw [split, same]
  exact List.append_ne_nil_of_right_ne_nil sign (List.cons_ne_nil c more)

def shown (scalar : Scalar) (limit : Limit) : Limit :=
  { limit with value := scalar.numeral limit }

private theorem isLimit_shown (scalar : Scalar) (numeral : Text.IsNumeral limit.value.toList) :
    isLimit (scalar.shown limit).value = true := by
  have accepted := Refinement.isNumeral_iff.mpr numeral
  change isLimit (scalar.numeral limit) = true
  rw [Scalar.numeral, isLimit]
  by_cases big : scalar = bigInt
  · rw [if_pos big, String.toList_append]
    change (_ || (limit.value.toList ++ ['n']).getLast? == some 'n' &&
      Refinement.isNumeral (limit.value.toList ++ ['n']).dropLast) = true
    rw [List.getLast?_concat, List.dropLast_concat, accepted]
    simp
  · rw [if_neg big, accepted, Bool.true_or]

private theorem tokens_numeral (scalar : Scalar) (numeral : Text.IsNumeral limit.value.toList)
    (stops : StopsWord rest) :
    tokens ((scalar.numeral limit).toList ++ rest) =
      .word (scalar.shown limit).value :: tokens rest := by
  have nonempty : (scalar.numeral limit).toList ≠ [] := by
    rw [Scalar.numeral]
    split
    · rw [String.toList_append]
      exact List.append_ne_nil_of_left_ne_nil (numeral_nonempty numeral) _
    · exact numeral_nonempty numeral
  have plain : ∀ c ∈ (scalar.numeral limit).toList, endsWord c = false := by
    rw [Scalar.numeral]
    split
    · intro c member
      rw [String.toList_append, List.mem_append] at member
      rcases member with inValue | last
      · exact endsWord_numeral numeral c inValue
      · rw [List.mem_singleton.mp last]
        decide
    · exact endsWord_numeral numeral
  rw [Definition.tokens_word nonempty plain stops, String.ofList_toList]
  rfl

private theorem tokens_comparator (limit : Limit) (rest : List Char) :
    tokens (limit.comparator.toList ++ ' ' :: rest) = .comparator limit.strict :: tokens rest := by
  rw [Limit.comparator]
  cases limit.strict with
  | true => exact (Definition.tokens_below).trans rfl
  | false =>
      change tokens ('<' :: '=' :: ' ' :: rest) = _
      rw [Definition.tokens_atMost, Definition.tokens_space]

private theorem tokens_lowerText (numerals : ∀ bound ∈ lower, Text.IsNumeral bound.value.toList)
    (rest : List Char) :
    tokens ((scalar.lowerText lower).toList ++ rest) =
      Definition.lowerTokens (lower.map scalar.shown) ++ tokens rest := by
  cases lower with
  | none => rfl
  | some limit =>
      have split : (scalar.lowerText (some limit)).toList ++ rest =
          (scalar.numeral limit).toList ++ ' ' :: (limit.comparator.toList ++ ' ' :: rest) := by
        simp [lowerText]
      have stops : StopsWord (' ' :: (limit.comparator.toList ++ ' ' :: rest)) :=
        Definition.stops_of_head (by decide) _
      rw [split, tokens_numeral scalar (numerals limit rfl) stops, Definition.tokens_space,
        tokens_comparator]
      rfl

private theorem upperText_append (scalar : Scalar) (limit : Limit) (rest : List Char) :
    (scalar.upperText (some limit)).toList ++ rest =
      ' ' :: (limit.comparator.toList ++ ' ' :: ((scalar.numeral limit).toList ++ rest)) := by
  simp [upperText]

private theorem tokens_upperText (numerals : ∀ bound ∈ upper, Text.IsNumeral bound.value.toList)
    (stops : StopsWord rest) :
    tokens ((scalar.upperText upper).toList ++ rest) =
      Definition.upperTokens (upper.map scalar.shown) ++ tokens rest := by
  cases upper with
  | none => rfl
  | some limit =>
      rw [upperText_append, Definition.tokens_space, tokens_comparator,
        tokens_numeral scalar (numerals limit rfl) stops]
      rfl

private theorem stops_upperText (stops : StopsWord rest) :
    StopsWord ((scalar.upperText upper).toList ++ rest) := by
  cases upper with
  | none => exact stops
  | some limit =>
      rw [upperText_append]
      exact Definition.stops_of_head (by decide) _

private theorem tokens_definition (scalar : Scalar) (stops : StopsWord rest) :
    tokens (scalar.definition.toList ++ rest) = .word scalar.definition :: tokens rest := by
  have nonempty : scalar.definition.toList ≠ [] := by
    cases scalar <;> decide
  have plain : ∀ c ∈ scalar.definition.toList, endsWord c = false := by
    apply Definition.plain_word
    cases scalar <;> decide
  rw [Definition.tokens_word nonempty plain stops, String.ofList_toList]

private theorem reads_definition (scalar : Scalar) :
    Reads .operand [.word scalar.definition] (.name scalar.definition) :=
  .name (by cases scalar <;> decide)

theorem shows_bounded (scalar : Scalar)
    (below : ∀ bound ∈ lower, Text.IsNumeral bound.value.toList)
    (above : ∀ bound ∈ upper, Text.IsNumeral bound.value.toList) :
    Shows .union (scalar.lowerText lower ++ scalar.definition ++ scalar.upperText upper)
      (.between (lower.map scalar.shown) (.name scalar.definition) (upper.map scalar.shown)) := by
  have limits : ∀ limit, limit ∈ lower.map scalar.shown ∨ limit ∈ upper.map scalar.shown →
      isLimit limit.value = true := by
    intro limit member
    rcases member with inLower | inUpper
    · obtain ⟨bound, given, rfl⟩ := Option.map_eq_some_iff.mp inLower
      exact isLimit_shown scalar (below bound given)
    · obtain ⟨bound, given, rfl⟩ := Option.map_eq_some_iff.mp inUpper
      exact isLimit_shown scalar (above bound given)
  refine ⟨_, .branch (.range limits (reads_definition scalar)), ?_⟩
  intro rest stops
  rw [String.toList_append, String.toList_append, List.append_assoc, List.append_assoc,
    tokens_lowerText below, tokens_definition scalar (stops_upperText stops),
    tokens_upperText above stops]
  simp

private theorem needsGrouping_comparator (limit : Limit) :
    Definition.needsGrouping limit.comparator = true := by
  rw [Limit.comparator]
  cases limit.strict <;> decide

private theorem unlimited_of_bare
    (bare : Definition.needsGrouping
      (scalar.lowerText lower ++ scalar.definition ++ scalar.upperText upper) = false) :
    lower = none ∧ upper = none := by
  rw [needsGrouping_append, needsGrouping_append, Bool.or_eq_false_iff, Bool.or_eq_false_iff] at bare
  constructor
  · cases lower with
    | none => rfl
    | some limit =>
        have operator := bare.1.1
        rw [lowerText, needsGrouping_append, needsGrouping_append, needsGrouping_comparator] at operator
        simp at operator
  · cases upper with
    | none => rfl
    | some limit =>
        have operator := bare.2
        rw [upperText, needsGrouping_append, needsGrouping_append, needsGrouping_append,
          needsGrouping_comparator] at operator
        simp at operator

private theorem means_bounded (scalar : Scalar)
    (below : ∀ bound ∈ lower, Text.IsNumeral bound.value.toList)
    (above : ∀ bound ∈ upper, Text.IsNumeral bound.value.toList) :
    Means (scalar.lowerText lower ++ scalar.definition ++ scalar.upperText upper)
      (.between (lower.map scalar.shown) (.name scalar.definition) (upper.map scalar.shown)) := by
  refine ⟨shows_bounded scalar below above, ?_⟩
  intro bare
  obtain ⟨rfl, rfl⟩ := unlimited_of_bare bare
  have alone : scalar.lowerText none ++ scalar.definition ++ scalar.upperText none =
      scalar.definition := by
    simp [lowerText, upperText]
  rw [alone]
  refine ⟨[.word scalar.definition], reads_definition scalar, ?_⟩
  intro rest stops
  exact tokens_definition scalar stops

private theorem means_refined {annotations : List Annotation} {definition : String}
    (refined : scalar.refined annotations = .ok definition) :
    ∃ lower upper, IsLimit (Refinement.segments annotations) scalar.lowerKeys lower ∧
      IsLimit (Refinement.segments annotations) scalar.upperKeys upper ∧
      Means definition
        (.between (lower.map scalar.shown) (.name scalar.definition) (upper.map scalar.shown)) := by
  obtain ⟨sound, lower, upper, below, above, _, rfl⟩ := refined_eq_ok.mp refined
  exact ⟨lower, upper, below, above,
    means_bounded scalar (below.isNumeral sound) (above.isNumeral sound)⟩

end Scalar

namespace CompiledEnum

open Definition (Enclosed Means Reads Term Token tokens)

def unionTerm (first : EnumValue) (others : List EnumValue) : Term :=
  others.foldl (fun union value => .union union (.literal value.name)) (.literal first.name)

theorem unionOf_toList (first : EnumValue) (others : List EnumValue) :
    (unionOf (first :: others)).toList =
      '\'' :: (first.name.toList ++ '\'' ::
        others.flatMap fun value => ' ' :: '|' :: ' ' :: '\'' :: (value.name.toList ++ ['\''])) := by
  induction others generalizing first with
  | nil => simp [unionOf, member]
  | cons other others ih =>
      have tail := ih other
      rw [unionOf, List.map_cons] at tail
      rw [unionOf, List.map_cons, List.map_cons, String.intercalate_cons_cons]
      simp only [String.toList_append, tail]
      simp [member]

private theorem tokens_others {others : List EnumValue}
    (enclosed : ∀ value ∈ others, Enclosed '\'' value.name.toList) (rest : List Char) :
    tokens (others.flatMap (fun value => ' ' :: '|' :: ' ' :: '\'' :: (value.name.toList ++ ['\''])) ++
        rest) =
      others.flatMap (fun value => [.bar, .literal value.name]) ++ tokens rest := by
  induction others with
  | nil => rfl
  | cons other others ih =>
      have first := enclosed other List.mem_cons_self
      have tail := ih fun value member => enclosed value (List.mem_cons_of_mem other member)
      rw [List.flatMap_cons, List.flatMap_cons]
      simp only [List.cons_append, List.append_assoc, List.nil_append, Definition.tokens_space,
        Definition.tokens_bar, Definition.tokens_literal first, tail, String.ofList_toList]

private theorem reads_others {spelled : List Token} {term : Term}
    (begun : Reads .union spelled term)
    (others : List EnumValue) :
    Reads .union (spelled ++ others.flatMap fun value => [.bar, .literal value.name])
      (others.foldl (fun union value => .union union (.literal value.name)) term) := by
  induction others generalizing spelled term with
  | nil =>
      rw [List.flatMap_nil, List.append_nil]
      exact begun
  | cons other others ih =>
      have more := ih (.union begun (.bare (.literal other.name)))
      rw [List.append_assoc] at more
      exact more

/-- The union of an enum, read: each name is a literal, whatever characters it has. -/
theorem means_unionOf {first : EnumValue} {others : List EnumValue}
    (enclosed : ∀ value ∈ first :: others, Enclosed '\'' value.name.toList) :
    Means (unionOf (first :: others)) (unionTerm first others) := by
  have head := enclosed first List.mem_cons_self
  have tail := fun value member => enclosed value (List.mem_cons_of_mem first member)
  have spells (rest : List Char) : tokens ((unionOf (first :: others)).toList ++ rest) =
      .literal first.name :: others.flatMap (fun value => [.bar, .literal value.name]) ++
        tokens rest := by
    rw [unionOf_toList]
    simp only [List.cons_append, List.append_assoc, Definition.tokens_literal head,
      tokens_others tail, String.ofList_toList]
  constructor
  · have begun : Reads .union [.literal first.name] (.literal first.name) :=
      .branch (.bare (.literal first.name))
    exact ⟨_, reads_others begun others, fun rest _ => spells rest⟩
  · intro bare
    cases others with
    | nil => exact ⟨[.literal first.name], .literal first.name, fun rest _ => spells rest⟩
    | cons other others =>
        rw [Definition.needsGrouping, unionOf_toList] at bare
        simp at bare

end CompiledEnum

namespace Field

open Definition (IsTerm Means Term quote unquote?)

/-- A type says what a base is, and its list and null forms say the same of the whole base. -/
def WrapsWhole (field : Field) (nullable : Bool) (type : String) (base : Term) : Prop :=
  ∃ definition wrapped, unquote? type = some definition ∧ IsTerm definition base ∧
    unquote? (field.wrapped nullable type) = some wrapped ∧
    IsTerm wrapped (field.wrappedTerm nullable base)

private theorem wrapsWhole_of_means {definition : String} {base : Term} (field : Field)
    (nullable : Bool)
    (means : Means definition base) : field.WrapsWhole nullable (quote definition) base := by
  refine ⟨definition, field.wrappedDefinition nullable definition,
    Definition.unquote_quote definition, means.whole.isTerm, ?_,
    (means_wrapped field nullable means).whole.isTerm⟩
  rw [wrapped_quote, Definition.unquote_quote]

/-- The list form of a scalar with limits and of a union of names is a list of all that the definition
says, and the null form has all of it on one side: neither takes the last name or a limit alone. -/
theorem wrapping_binds_whole (field : Field) (nullable : Bool) :
    (∀ (scalar : Scalar) (annotations : List Annotation) (type : String),
      scalar.type annotations = .ok type →
        ∃ lower upper, Scalar.IsLimit (Refinement.segments annotations) scalar.lowerKeys lower ∧
          Scalar.IsLimit (Refinement.segments annotations) scalar.upperKeys upper ∧
          field.WrapsWhole nullable type
            (.between (lower.map scalar.shown) (.name scalar.definition)
              (upper.map scalar.shown))) ∧
    ∀ (enum : EnumType) (first : EnumValue) (others : List EnumValue),
      enum.values = first :: others →
      (∀ value ∈ enum.values, ∀ c ∈ value.name.toList, c ≠ '\\' ∧ c ≠ '\'') →
        field.WrapsWhole nullable (quote (CompiledEnum.ofEnum enum).union)
          (CompiledEnum.unionTerm first others) := by
  constructor
  · intro scalar annotations type gave
    obtain ⟨definition, refined, rfl⟩ := map_eq_ok.mp gave
    obtain ⟨lower, upper, below, above, means⟩ := Scalar.means_refined refined
    exact ⟨lower, upper, below, above, wrapsWhole_of_means field nullable means⟩
  · intro enum first others values plain
    rw [values] at plain
    have enclosed : ∀ value ∈ first :: others, Definition.Enclosed '\'' value.name.toList := by
      intro value member
      exact Definition.enclosed_of_plain (plain value member)
    rw [CompiledEnum.ofEnum, values]
    exact wrapsWhole_of_means field nullable (CompiledEnum.means_unionOf enclosed)

def scores : Field where
  name := "scores"
  kind := .scalar
  type := "Int"
  isList := true
  isRequired := false

def answers : EnumType where
  name := "Answer"
  values := [⟨"yes|no", none⟩, ⟨"(a & b)[]", none⟩]

theorem scores_wrap_whole :
    (Scalar.int.type [⟨.options, some "minimum: 0, exclusiveMaximum: 10"⟩] =
        .ok "\"0 <= number.integer < 10\"" ∧
      ∃ base, scores.WrapsWhole true "\"0 <= number.integer < 10\"" base) ∧
    scores.WrapsWhole true (quote (CompiledEnum.ofEnum answers).union)
      (.union (.literal "yes|no") (.literal "(a & b)[]")) := by
  have ranges : Scalar.int.type [⟨.options, some "minimum: 0, exclusiveMaximum: 10"⟩] =
      .ok "\"0 <= number.integer < 10\"" := by
    decide +kernel
  have all : (answers.values.all fun value =>
      value.name.toList.all fun c => c != '\\' && c != '\'') = true := by
    decide
  have plain : ∀ value ∈ answers.values, ∀ c ∈ value.name.toList, c ≠ '\\' ∧ c ≠ '\'' := by
    intro value member
    exact Definition.plain_of_all (List.all_eq_true.mp all value member)
  obtain ⟨_, _, _, _, wraps⟩ := (wrapping_binds_whole scores true).1 _ _ _ ranges
  exact ⟨⟨ranges, _, wraps⟩, (wrapping_binds_whole scores true).2 answers _ _ rfl plain⟩

example :
    scores.wrapped true (quote "0 <= number.integer < 10") =
        "\"(0 <= number.integer < 10)[] | null\"" ∧
      Definition.read? "(0 <= number.integer < 10)[] | null" =
        some (.union
          (.list (.range (some ⟨false, "0"⟩) (.name "number.integer") (some ⟨true, "10"⟩)))
          (.name "null")) := by
  decide +kernel

end Field
end ModelViews
