import ModelViews.Proofs.Literals
import ModelViews.Text.Pattern

namespace ModelViews

namespace Pattern

def atEnd (progress : Progress) : Option Progress :=
  if progress.rest.isEmpty then some progress else none

def matchesWhole (pattern : Pattern) (text : List Char) : Bool :=
  (pattern.matcher (text.length + 1) (Progress.start text) atEnd).isSome

def Progress.next (progress : Progress) (c : Char) (rest : List Char) : Progress :=
  { progress with before := some c, reached := progress.reached + 1, rest }

variable {bound : Nat} {progress : Progress} {more : Progress → Option Progress}

private theorem matcher_append (first second : Pattern) :
    (first ++ second).matcher bound progress more =
      first.matcher bound progress fun next => second.matcher bound next more :=
  rfl

private theorem matcher_orElse (first second : Pattern) :
    ((first <|> second).matcher bound progress more).isSome =
      ((first.matcher bound progress more).isSome || (second.matcher bound progress more).isSome) := by
  change ((either first second).matcher bound progress more).isSome = _
  simp only [matcher]
  cases first.matcher bound progress more <;> rfl

private theorem matcher_one_nil {accepts : Char → Bool} (empty : progress.rest = []) :
    (one accepts).matcher bound progress more = none := by
  change (progress.step? accepts).bind more = none
  rw [Progress.step?, empty]
  rfl

private theorem matcher_one_cons {accepts : Char → Bool} {c : Char} {rest : List Char}
    (split : progress.rest = c :: rest) :
    (one accepts).matcher bound progress more =
      if accepts c then more (progress.next c rest) else none := by
  change (progress.step? accepts).bind more = _
  rw [Progress.step?, split]
  by_cases accepted : accepts c = true
  · simp only [if_pos accepted]
    rfl
  · simp only [if_neg accepted]
    rfl

private theorem repeatMatch_succ (body : Matcher) (most : Nat) :
    (repeatMatch body (most + 1) progress more).isSome =
      ((body progress fun next =>
        if progress.reached < next.reached then repeatMatch body most next more else none).isSome ||
        (more progress).isSome) := by
  rw [repeatMatch]
  cases body progress fun next =>
    if progress.reached < next.reached then repeatMatch body most next more else none <;> rfl

end Pattern

namespace Definition

open Pattern (Progress)

def insidePattern (mark : Char) : Pattern :=
  .one (fun c => c != mark && c != '\\') <|> .char '\\' ++ .one fun _ => true

def betweenPattern (mark : Char) : Pattern :=
  .char mark ++ (.repeated none (insidePattern mark) ++ .char mark)

def literalPattern : Pattern :=
  betweenPattern '"' <|> betweenPattern '\''

inductive Scan where
  | begun
  | inside (mark : Char)
  | escaping (mark : Char)
  | ended
  | refused
  deriving DecidableEq, Repr

def Scan.step : Scan → Char → Scan
  | begun, c => if c = '"' ∨ c = '\'' then inside c else refused
  | inside mark, c => if c = mark then ended else if c = '\\' then escaping mark else inside mark
  | escaping mark, _ => inside mark
  | ended, _ => refused
  | refused, _ => refused

/-- Whether a scanner is at the end of a literal when it has seen the whole text. -/
def scans (text : String) : Bool :=
  text.toList.foldl Scan.step .begun = .ended

section Matching

variable {mark : Char} {bound : Nat} {progress : Progress} {more : Progress → Option Progress}

private theorem inside_isSome (noEscape : mark ≠ '\\') :
    ((insidePattern mark).matcher bound progress more).isSome =
      match progress.rest with
      | [] => false
      | c :: rest =>
        if c = '\\' then
          match rest with
          | [] => false
          | d :: rest => (more ((progress.next c (d :: rest)).next d rest)).isSome
        else if c = mark then false else (more (progress.next c rest)).isSome := by
  rw [insidePattern, Pattern.matcher_orElse, Pattern.matcher_append, Pattern.char]
  cases split : progress.rest with
  | nil =>
      rw [Pattern.matcher_one_nil split, Pattern.matcher_one_nil split]
      rfl
  | cons c rest =>
      rw [Pattern.matcher_one_cons split, Pattern.matcher_one_cons split]
      by_cases escape : c = '\\'
      · subst c
        cases rest with
        | nil =>
            have empty : (progress.next '\\' []).rest = [] := rfl
            simp [Pattern.matcher_one_nil empty]
        | cons d rest =>
            have pair : (progress.next '\\' (d :: rest)).rest = d :: rest := rfl
            simp [Pattern.matcher_one_cons pair]
      · by_cases ends : c = mark
        · simp [ends, noEscape]
        · simp [ends, escape]

private theorem closing_isSome :
    ((Pattern.char mark).matcher bound progress Pattern.atEnd).isSome =
      decide (progress.rest = [mark]) := by
  rw [Pattern.char]
  cases split : progress.rest with
  | nil => simp [Pattern.matcher_one_nil split]
  | cons c rest =>
      rw [Pattern.matcher_one_cons split, Pattern.atEnd]
      by_cases here : c = mark
      · cases rest <;> simp [here, Progress.next]
      · simp [here]

private theorem closes_cons (c : Char) (rest : List Char) :
    closes mark (c :: rest) =
      if c = '\\' then
        match rest with
        | [] => false
        | _ :: rest => closes mark rest
      else if c = mark then rest.isEmpty else closes mark rest := by
  by_cases escape : c = '\\'
  · subst c
    cases rest <;> rfl
  · rw [if_neg escape, closes]
    exact escape

private theorem repeated_isSome (noEscape : mark ≠ '\\') (most : Nat)
    (enough : progress.rest.length ≤ most) :
    (Pattern.repeatMatch ((insidePattern mark).matcher bound) most progress fun next =>
      (Pattern.char mark).matcher bound next Pattern.atEnd).isSome = closes mark progress.rest := by
  induction most generalizing progress with
  | zero =>
      have empty : progress.rest = [] := List.eq_nil_of_length_eq_zero (Nat.le_zero.mp enough)
      rw [Pattern.repeatMatch, closing_isSome, empty]
      rfl
  | succ most ih =>
      rw [Pattern.repeatMatch_succ, closing_isSome, inside_isSome noEscape]
      cases split : progress.rest with
      | nil => rfl
      | cons c rest =>
          rw [split, List.length_cons] at enough
          rw [closes_cons]
          by_cases escape : c = '\\'
          · have other : c :: rest ≠ [mark] := by
              intro same
              exact noEscape ((List.cons.inj same).1.symm.trans escape)
            cases rest with
            | nil => simp [escape, Ne.symm noEscape]
            | cons d rest =>
                have farther : progress.reached < ((progress.next c (d :: rest)).next d rest).reached :=
                  Nat.lt_trans (Nat.lt_succ_self _) (Nat.lt_succ_self _)
                have shorter : rest.length ≤ most := by
                  rw [List.length_cons] at enough
                  omega
                simp only [if_pos escape, if_pos farther, decide_eq_false other, Bool.or_false]
                exact ih shorter
          · by_cases here : c = mark
            · cases rest <;> simp [here, noEscape]
            · have farther : progress.reached < (progress.next c rest).reached := Nat.lt_succ_self _
              have shorter : rest.length ≤ most := by omega
              have other : c :: rest ≠ [mark] := fun same => here (List.cons.inj same).1
              simp only [if_neg escape, if_neg here, if_pos farther, decide_eq_false other,
                Bool.or_false]
              exact ih shorter

private theorem between_isSome (noEscape : mark ≠ '\\') (c : Char) (rest : List Char) :
    ((betweenPattern mark).matcher ((c :: rest).length + 1) (Progress.start (c :: rest))
      Pattern.atEnd).isSome = if c = mark then closes mark rest else false := by
  have split : (Progress.start (c :: rest)).rest = c :: rest := rfl
  rw [betweenPattern, Pattern.matcher_append, Pattern.char, Pattern.matcher_one_cons split]
  by_cases here : c = mark
  · have enough :
        ((Progress.start (c :: rest)).next c rest).rest.length ≤ (c :: rest).length + 1 := by
      change rest.length ≤ rest.length + 1 + 1
      omega
    rw [if_pos (beq_iff_eq.mpr here), if_pos here]
    exact repeated_isSome noEscape _ enough
  · rw [if_neg (by simpa using here), if_neg here]
    rfl

end Matching

private theorem isLiteralText_cons (c : Char) (rest : List Char) :
    isLiteralText (c :: rest) =
      if c = '"' then closes '"' rest else if c = '\'' then closes '\'' rest else false := by
  by_cases double : c = '"'
  · subst c
    rfl
  · by_cases single : c = '\''
    · subst c
      rfl
    · rw [if_neg double, if_neg single, isLiteralText]
      · intro other same
        exact double (List.cons.inj same).1
      · intro other same
        exact single (List.cons.inj same).1

/-- The pattern of literals matches just the literals. -/
theorem literalPattern_matches (text : String) :
    literalPattern.matchesWhole text.toList = isLiteral text := by
  rw [Pattern.matchesWhole, literalPattern, Pattern.matcher_orElse, isLiteral]
  cases text.toList with
  | nil => rfl
  | cons c rest =>
      rw [between_isSome (by decide), between_isSome (by decide), isLiteralText_cons]
      by_cases double : c = '"'
      · have single : c ≠ '\'' := by
          rw [double]
          decide
        rw [if_pos double, if_pos double, if_neg single, Bool.or_false]
      · rw [if_neg double, if_neg double, Bool.false_or]

private theorem scan_refused (text : List Char) : text.foldl Scan.step .refused = .refused := by
  induction text with
  | nil => rfl
  | cons c text ih => exact ih

private theorem scan_ended (text : List Char) :
    text.foldl Scan.step .ended = .ended ↔ text.isEmpty = true := by
  cases text with
  | nil => exact ⟨fun _ => rfl, fun _ => rfl⟩
  | cons c text =>
      rw [List.foldl_cons, Scan.step, scan_refused]
      simp

private theorem scan_inside {mark : Char} (noEscape : mark ≠ '\\') (text : List Char) :
    text.foldl Scan.step (.inside mark) = .ended ↔ closes mark text = true := by
  fun_induction closes mark text with
  | case1 => simp
  | case2 =>
      have step : Scan.step (.inside mark) '\\' = .escaping mark := by
        rw [Scan.step, if_neg (Ne.symm noEscape), if_pos rfl]
      rw [List.foldl_cons, step]
      simp
  | case3 c text ih =>
      have step : Scan.step (.inside mark) '\\' = .escaping mark := by
        rw [Scan.step, if_neg (Ne.symm noEscape), if_pos rfl]
      rw [List.foldl_cons, List.foldl_cons, step]
      exact ih
  | case4 text _ =>
      rw [List.foldl_cons, Scan.step, if_pos rfl]
      exact scan_ended text
  | case5 c text plain different ih =>
      rw [List.foldl_cons, Scan.step, if_neg different, if_neg plain]
      exact ih

/-- The scanner accepts just the literals. -/
theorem scans_eq (text : String) : scans text = isLiteral text := by
  rw [Bool.eq_iff_iff, scans, isLiteral, decide_eq_true_eq]
  cases text.toList with
  | nil => simp [isLiteralText]
  | cons c rest =>
      rw [List.foldl_cons, Scan.step, isLiteralText_cons]
      by_cases double : c = '"'
      · rw [if_pos (.inl double), if_pos double, double]
        exact scan_inside (by decide) rest
      · by_cases single : c = '\''
        · rw [if_pos (.inr single), if_neg double, if_pos single, single]
          exact scan_inside (by decide) rest
        · have neither : ¬ (c = '"' ∨ c = '\'') := not_or.mpr ⟨double, single⟩
          rw [if_neg neither, if_neg double, if_neg single, scan_refused]
          simp

private theorem hasCall_append {ending : List Char} (calls : hasCall ending = true)
    (text : List Char) :
    hasCall (text ++ ending) = true := by
  induction text with
  | nil => exact calls
  | cons c text ih => rw [List.cons_append, hasCall, ih, Bool.or_true]

private theorem isExpression_of_call {ending : String} (calls : hasCall ending.toList = true)
    (closed : ending.toList.getLast? = some ')') (text : String) :
    isExpression (text ++ ending) = true := by
  have called : hasCall (text ++ ending).toList = true := by
    rw [String.toList_append]
    exact hasCall_append calls text.toList
  have noLiteral : isLiteral (text ++ ending) = false := by
    rw [← Bool.not_eq_true, isLiteral_iff]
    intro literal
    rcases literal with ⟨mark, body, isMark, _, same⟩
    have last : (text ++ ending).toList.getLast? = some mark := by
      rw [same, literal, String.toList_ofList, List.getLast?_concat]
    rw [String.toList_append, List.getLast?_append, closed, Option.some_or, Option.some.injEq] at last
    rcases isMark with rfl | rfl
    · exact absurd last (by decide)
    · exact absurd last (by decide)
  rw [isExpression, noLiteral, called]
  rfl

private theorem isExpression_arrayOf {type : String} (noLiteral : isLiteral type = false) :
    isExpression (arrayOf type) = true := by
  rw [arrayOf, noLiteral, if_neg Bool.false_ne_true]
  exact isExpression_of_call (by decide +kernel) (by decide) type

private theorem isExpression_orNull {type : String} (noLiteral : isLiteral type = false) :
    isExpression (orNull type) = true := by
  rw [orNull, noLiteral, if_neg Bool.false_ne_true]
  exact isExpression_of_call (by decide +kernel) (by decide) type

private theorem isExpression_iff {text : String} :
    isExpression text = true ↔ isLiteral text = false ∧ hasCall text.toList = true := by
  rw [isExpression, Bool.and_eq_true, Bool.not_eq_true']

end Definition

namespace Field

open Definition (isLiteral isExpression)

private theorem isExpression_wrapped (field : Field) (nullable : Bool) {type : String}
    (expression : isExpression type = true) :
    isExpression (field.wrapped nullable type) = true := by
  have listed {type : String} (expression : isExpression type = true) :
      isExpression (Definition.arrayOf type) = true :=
    Definition.isExpression_arrayOf (Definition.isExpression_iff.mp expression).1
  have orNull {type : String} (expression : isExpression type = true) :
      isExpression (Definition.orNull type) = true :=
    Definition.isExpression_orNull (Definition.isExpression_iff.mp expression).1
  rw [wrapped_eq]
  exact wrapping_keeps (P := fun text => isExpression text = true) field nullable listed orNull
    expression

private theorem form_of_baseType {field : Field} {doc : Documentation} {enums : List CompiledEnum}
    {type : String} (known : field.baseType doc enums = .ok (.known type)) :
    isLiteral type = true ∨ isExpression type = true := by
  by_cases calls : ∃ text, doc.typeOverwrite? = some text ∧ isExpression text = true
  · obtain ⟨text, overwritten, expression⟩ := calls
    have verbatim : Definition.overwriteType text = text := by
      rw [Definition.overwriteType, expression, Bool.or_true, if_pos rfl]
    rw [baseType, overwritten] at known
    cases known
    rw [verbatim]
    exact .inr expression
  · refine .inl (isLiteral_baseType known ?_)
    intro text overwritten
    rw [← Bool.not_eq_true]
    intro expression
    exact calls ⟨text, overwritten, expression⟩

end Field

namespace Definition

/-- Being a literal is being matched by the pattern as a whole and being accepted by the scanner. A
literal stays one between the same marks, with its body wrapped; any other text becomes an expression.
So a type of a field and its list and null forms are all literals or all expressions. -/
theorem form_kept (text : String) :
    (literalPattern.matchesWhole text.toList = scans text ∧ isLiteral text = scans text) ∧
    (scans text = true → ∃ mark body, IsMark mark ∧ text = literal mark body ∧
      (scans (arrayOf text) = true ∧ arrayOf text = literal mark (listOf body)) ∧
      scans (orNull text) = true ∧ orNull text = literal mark (orNullOf body)) ∧
    (scans text = false →
      (scans (arrayOf text) = false ∧ hasCall (arrayOf text).toList = true) ∧
      scans (orNull text) = false ∧ hasCall (orNull text).toList = true) ∧
    ∀ (field wrapping : Field) (doc : Documentation) (enums : List CompiledEnum) (nullable : Bool),
      field.baseType doc enums = .ok (.known text) →
        (isLiteral text = true ∧ isLiteral (wrapping.wrapped nullable text) = true) ∨
        (isExpression text = true ∧ isExpression (wrapping.wrapped nullable text) = true) := by
  refine ⟨⟨(literalPattern_matches text).trans (scans_eq text).symm, (scans_eq text).symm⟩, ?_, ?_, ?_⟩
  · simp only [scans_eq]
    intro isOne
    obtain ⟨mark, body, isMark, _, same⟩ := isLiteral_iff.mp isOne
    have listed : arrayOf text = literal mark (listOf body) := by
      rw [arrayOf, if_pos isOne, same, insideLiteral_literal]
    have nullable : orNull text = literal mark (orNullOf body) := by
      rw [orNull, if_pos isOne, same, insideLiteral_literal]
    exact ⟨mark, body, isMark, same, ⟨isLiteral_arrayOf isOne, listed⟩,
      isLiteral_orNull isOne, nullable⟩
  · simp only [scans_eq]
    intro other
    exact ⟨isExpression_iff.mp (isExpression_arrayOf other),
      isExpression_iff.mp (isExpression_orNull other)⟩
  · intro field wrapping doc enums nullable known
    rcases Field.form_of_baseType known with isOne | expression
    · exact .inl ⟨isOne, wrapping.isLiteral_wrapped nullable isOne⟩
    · exact .inr ⟨expression, wrapping.isExpression_wrapped nullable expression⟩

def addresses : Field where
  name := "addresses"
  kind := .scalar
  type := "String"
  isList := true
  isRequired := false

/-- The list and null forms of a type that is called for are calls on it. -/
theorem addresses_form_kept :
    addresses.baseType ⟨[⟨.typeOverwrite, some "type(\"string.email\")"⟩], ""⟩ [] =
        .ok (.known "type(\"string.email\")") ∧
      isExpression (addresses.wrapped true "type(\"string.email\")") = true := by
  have verbatim : overwriteType "type(\"string.email\")" = "type(\"string.email\")" := by
    decide +kernel
  have known : addresses.baseType ⟨[⟨.typeOverwrite, some "type(\"string.email\")"⟩], ""⟩ [] =
      .ok (.known "type(\"string.email\")") :=
    congrArg (fun type => Except.ok (FieldType.known type)) verbatim
  have noLiteral : isLiteral "type(\"string.email\")" = false := by
    decide +kernel
  refine ⟨known, ?_⟩
  rcases (form_kept "type(\"string.email\")").2.2.2 addresses addresses _ [] true known with
    ⟨isOne, _⟩ | ⟨_, wrapped⟩
  · rw [noLiteral] at isOne
    cases isOne
  · exact wrapped

example : addresses.wrapped true "'string.email'" = "'string.email[] | null'" := by
  decide +kernel

end Definition
end ModelViews
