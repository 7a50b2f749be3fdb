import ModelViews.Definition.Scalar
import ModelViews.Proofs.ObjectText
import ModelViews.Proofs.TextParts

namespace ModelViews.Definition

inductive Token where
  | word (text : String)
  | literal (name : String)
  | comparator (strict : Bool)
  | bar
  | opening
  | closing
  | brackets
  | stray (c : Char)
  deriving DecidableEq, Repr

inductive Term where
  | name (word : String)
  | literal (name : String)
  | list (item : Term)
  | range (lower : Option Limit) (base : Term) (upper : Option Limit)
  | union (first second : Term)
  deriving DecidableEq, Repr

def wordEnds : List Char :=
  [' ', '\t', '\n', '\'', '"', '|', '&', '<', '>', '=', '(', ')', '[', ']']

def endsWord (c : Char) : Bool :=
  wordEnds.contains c

/-- The tokens of a text. A character that begins no token is a token of its own, which no term has. -/
def tokens : List Char → List Token
  | [] => []
  | ' ' :: text => tokens text
  | '\t' :: text => tokens text
  | '\n' :: text => tokens text
  | '|' :: text => .bar :: tokens text
  | '(' :: text => .opening :: tokens text
  | ')' :: text => .closing :: tokens text
  | '[' :: ']' :: text => .brackets :: tokens text
  | '<' :: '=' :: text => .comparator false :: tokens text
  | '<' :: text => .comparator true :: tokens text
  | '\'' :: text =>
    match _closed : ObjectText.upTo '\'' text with
    | some (name, rest) => .literal (String.ofList name) :: tokens rest
    | none => .stray '\'' :: tokens text
  | c :: text =>
    if endsWord c then .stray c :: tokens text
    else
      .word (String.ofList (c :: text.takeWhile (!endsWord ·))) ::
        tokens (text.dropWhile (!endsWord ·))
termination_by text => text.length
decreasing_by
  all_goals simp only [List.length_cons]
  all_goals try omega
  · rw [(ObjectText.upTo_sound _closed).1]
    simp only [List.length_append, List.length_cons]
    omega
  · have shorter := (List.dropWhile_suffix (!endsWord ·) (l := text)).length_le
    omega

def isLimit (word : String) : Bool :=
  Refinement.isNumeral word.toList ||
    word.toList.getLast? == some 'n' && Refinement.isNumeral word.toList.dropLast

inductive Level where
  | operand
  | range
  | union
  deriving DecidableEq, Repr

def lowerTokens : Option Limit → List Token
  | none => []
  | some limit => [.word limit.value, .comparator limit.strict]

def upperTokens : Option Limit → List Token
  | none => []
  | some limit => [.comparator limit.strict, .word limit.value]

def Term.between (lower : Option Limit) (base : Term) (upper : Option Limit) : Term :=
  if lower = none ∧ upper = none then base else .range lower base upper

/-- The grammar: operands are the tightest terms, unions the loosest, and of the branches of a union the
first ones are a union themselves. -/
inductive Reads : Level → List Token → Term → Prop where
  | name {word : String} (noLimit : isLimit word = false) : Reads .operand [.word word] (.name word)
  | literal (name : String) : Reads .operand [.literal name] (.literal name)
  | group {inside : List Token} {term : Term} (whole : Reads .union inside term) :
      Reads .operand (.opening :: (inside ++ [.closing])) term
  | list {first : List Token} {item : Term} (operand : Reads .operand first item) :
      Reads .operand (first ++ [.brackets]) (.list item)
  | range {lower upper : Option Limit} {middle : List Token} {base : Term}
      (limits : ∀ limit, limit ∈ lower ∨ limit ∈ upper → isLimit limit.value = true)
      (operand : Reads .operand middle base) :
      Reads .range (lowerTokens lower ++ middle ++ upperTokens upper) (.between lower base upper)
  | branch {only : List Token} {term : Term} (range : Reads .range only term) :
      Reads .union only term
  | union {first second : List Token} {left right : Term} (union : Reads .union first left)
      (range : Reads .range second right) :
      Reads .union (first ++ .bar :: second) (.union left right)

theorem Reads.bare {first : List Token} {term : Term} (operand : Reads .operand first term) :
    Reads .range first term := by
  have limits : ∀ limit : Limit, limit ∈ (none : Option Limit) ∨ limit ∈ (none : Option Limit) →
      isLimit limit.value = true := by
    intro limit member
    rcases member with given | given <;> cases given
  have unlimited := Reads.range limits operand
  rw [lowerTokens, upperTokens, List.nil_append, List.append_nil] at unlimited
  exact unlimited

inductive Branch where
  | begun (lower : Option Limit)
  | limit (value : String)
  | operand (lower : Option Limit) (term : Term)
  | comparing (lower : Option Limit) (term : Term) (strict : Bool)
  | ended (term : Term)
  deriving DecidableEq, Repr

namespace Branch

/-- The branch with one more token. A word is a limit or an operand by its spelling. -/
def step : Branch → Token → Option Branch
  | begun lower, .word word =>
    if isLimit word then if lower = none then some (limit word) else none
    else some (operand lower (.name word))
  | begun lower, .literal name => some (operand lower (.literal name))
  | limit value, .comparator strict => some (begun (some ⟨strict, value⟩))
  | operand lower term, .brackets => some (operand lower (.list term))
  | operand lower term, .comparator strict => some (comparing lower term strict)
  | comparing lower term strict, .word word =>
    if isLimit word then some (ended (.between lower term (some ⟨strict, word⟩))) else none
  | _, _ => none

def term? : Branch → Option Term
  | operand lower term => some (.between lower term none)
  | ended term => some term
  | _ => none

end Branch

/-- What is read within a parenthesis: the union of the branches so far, and the branch after it. -/
structure Group where
  before : Option Term
  branch : Branch
  deriving DecidableEq, Repr

namespace Group

def start : Group :=
  ⟨none, .begun none⟩

def term? (group : Group) : Option Term :=
  group.branch.term?.map fun term =>
    match group.before with
    | none => term
    | some before => .union before term

end Group

/-- The reader: the groups of the open parentheses, the innermost first, with one more token. -/
def step (token : Token) : List Group → Option (List Group)
  | [] => none
  | group :: outer =>
    match token with
    | .opening =>
      match group.branch with
      | .begun _ => some (.start :: group :: outer)
      | _ => none
    | .closing =>
      match group.term?, outer with
      | some term, ⟨before, .begun lower⟩ :: outer => some (⟨before, .operand lower term⟩ :: outer)
      | _, _ => none
    | .bar => group.term?.map fun term => ⟨some term, .begun none⟩ :: outer
    | token => (group.branch.step token).map fun branch => ⟨group.before, branch⟩ :: outer

def run : List Token → List Group → Option (List Group)
  | [], groups => some groups
  | token :: rest, groups => (step token groups).bind (run rest)

def read? (definition : String) : Option Term :=
  match run (tokens definition.toList) [.start] with
  | some [group] => group.term?
  | _ => none

section Tokens

variable {text rest word : List Char}

-- The equations of the tokenizer, for the short lemmas here; later proofs use these lemmas only.
attribute [local simp] tokens

@[simp] theorem tokens_nil : tokens [] = [] := by
  rw [tokens]

@[simp] theorem tokens_space : tokens (' ' :: text) = tokens text := by
  rw [tokens]

@[simp] theorem tokens_bar : tokens ('|' :: text) = .bar :: tokens text := by
  rw [tokens]

@[simp] theorem tokens_opening : tokens ('(' :: text) = .opening :: tokens text := by
  rw [tokens]

@[simp] theorem tokens_closing : tokens (')' :: text) = .closing :: tokens text := by
  rw [tokens]

@[simp] theorem tokens_brackets : tokens ('[' :: ']' :: text) = .brackets :: tokens text := by
  rw [tokens]

@[simp] theorem tokens_atMost : tokens ('<' :: '=' :: text) = .comparator false :: tokens text := by
  rw [tokens]

@[simp] theorem tokens_below : tokens ('<' :: ' ' :: text) = .comparator true :: tokens text := by
  rw [tokens, tokens_space]
  intro other same
  cases same

theorem tokens_literal {name : List Char} (enclosed : Enclosed '\'' name) (rest : List Char) :
    tokens ('\'' :: (name ++ '\'' :: rest)) = .literal (String.ofList name) :: tokens rest := by
  rw [tokens]
  split
  · next other behind closed =>
      rw [ObjectText.upTo_complete (by decide) enclosed] at closed
      cases closed
      rfl
  · next unclosed =>
      rw [ObjectText.upTo_complete (by decide) enclosed] at unclosed
      cases unclosed

def StopsWord (rest : List Char) : Prop :=
  ∀ c, rest.head? = some c → endsWord c = true

theorem plain_word (all : (word.all fun c => !endsWord c) = true) :
    ∀ c ∈ word, endsWord c = false := by
  simpa using all

theorem tokens_word (nonempty : word ≠ []) (plain : ∀ c ∈ word, endsWord c = false)
    (stops : StopsWord rest) : tokens (word ++ rest) = .word (String.ofList word) :: tokens rest := by
  obtain ⟨c, more, rfl⟩ := List.exists_cons_of_ne_nil nonempty
  have begins : endsWord c = false := plain c List.mem_cons_self
  have goesOn : ∀ d ∈ more, (!endsWord d) = true := by
    intro d member
    rw [plain d (List.mem_cons_of_mem c member)]
    rfl
  have holds : ∀ d, rest.head? = some d → (!endsWord d) = false := by
    intro d head
    rw [stops d head]
    rfl
  have left : (more ++ rest).dropWhile (!endsWord ·) = rest := by
    rw [List.dropWhile_append_of_pos goesOn, Text.dropWhile_of_head holds]
  have whole : (more ++ rest).takeWhile (!endsWord ·) ++ rest = more ++ rest :=
    calc
      (more ++ rest).takeWhile (!endsWord ·) ++ rest =
          (more ++ rest).takeWhile (!endsWord ·) ++ (more ++ rest).dropWhile (!endsWord ·) := by
        rw [left]
      _ = more ++ rest := List.takeWhile_append_dropWhile
  have taken : (more ++ rest).takeWhile (!endsWord ·) = more := List.append_cancel_right whole
  have different : ∀ special : Char, endsWord special = true → c ≠ special := by
    intro special ends same
    rw [same, ends] at begins
    cases begins
  rw [List.cons_append, tokens, if_neg (by rw [begins]; exact Bool.false_ne_true), taken, left]
  -- What is left is that the word begins with none of the characters that begin another token.
  all_goals try exact different _ (by decide)
  · exact fun _ same => absurd same (different '[' (by decide))
  · exact fun _ same => absurd same (different '<' (by decide))

end Tokens

section Reading

variable {first second : List Token} {term : Term}

theorem run_append (groups : List Group) :
    run (first ++ second) groups = (run first groups).bind (run second) := by
  induction first generalizing groups with
  | nil => rfl
  | cons token first ih =>
      rw [List.cons_append, run, run]
      cases step token groups with
      | none => rfl
      | some groups => exact ih groups

def Level.Runs (tokens : List Token) (term : Term) : Level → Prop
  | operand => ∀ lower before outer,
      run tokens (⟨before, .begun lower⟩ :: outer) = some (⟨before, .operand lower term⟩ :: outer)
  | range => ∀ before outer, ∃ branch, Branch.term? branch = some term ∧
      run tokens (⟨before, .begun none⟩ :: outer) = some (⟨before, branch⟩ :: outer)
  | union => ∀ outer, ∃ group, Group.term? group = some term ∧
      run tokens (.start :: outer) = some (group :: outer)

private theorem runs_range {lower upper : Option Limit} {base : Term}
    (limits : ∀ limit, limit ∈ lower ∨ limit ∈ upper → isLimit limit.value = true)
    (operand : Level.operand.Runs first base) :
    Level.range.Runs (lowerTokens lower ++ first ++ upperTokens upper)
      (.between lower base upper) := by
  intro before outer
  have below : run (lowerTokens lower) (⟨before, .begun none⟩ :: outer) =
      some (⟨before, .begun lower⟩ :: outer) := by
    cases lower with
    | none => rfl
    | some limit => simp [lowerTokens, run, step, Branch.step, limits limit (.inl rfl)]
  have middle : run (lowerTokens lower ++ first) (⟨before, .begun none⟩ :: outer) =
      some (⟨before, .operand lower base⟩ :: outer) := by
    rw [run_append, below]
    exact operand lower before outer
  rw [run_append, middle]
  cases upper with
  | none => exact ⟨.operand lower base, rfl, rfl⟩
  | some limit =>
      refine ⟨.ended (.between lower base (some limit)), rfl, ?_⟩
      simp [upperTokens, run, step, Branch.step, limits limit (.inr rfl)]

private theorem runs_of_reads {level : Level} (reads : Reads level first term) :
    level.Runs first term := by
  induction reads with
  | name noLimit =>
      intro lower before outer
      simp [run, step, Branch.step, noLimit]
  | literal name =>
      intro lower before outer
      rfl
  | @group inside term _ ih =>
      intro lower before outer
      obtain ⟨group, reached, within⟩ := ih (⟨before, .begun lower⟩ :: outer)
      rw [run, step]
      change (run (inside ++ [.closing]) (.start :: ⟨before, .begun lower⟩ :: outer)) = _
      rw [run_append, within]
      simp [run, step, reached]
  | list _ ih =>
      intro lower before outer
      rw [run_append, ih lower before outer]
      rfl
  | range limits _ ih => exact runs_range limits ih
  | branch _ ih =>
      intro outer
      obtain ⟨branch, reached, within⟩ := ih none outer
      exact ⟨⟨none, branch⟩, by rw [Group.term?, reached]; rfl, within⟩
  | @union _ _ left right _ _ union range =>
      intro outer
      obtain ⟨group, reached, within⟩ := union outer
      obtain ⟨branch, ended, after⟩ := range (some left) outer
      refine ⟨⟨some left, branch⟩, by rw [Group.term?, ended]; rfl, ?_⟩
      rw [run_append, within]
      simp [run, step, reached, after]

end Reading

/-- A definition has the term by the reader, and by the grammar this term and no other. -/
def IsTerm (definition : String) (term : Term) : Prop :=
  read? definition = some term ∧
    ∀ other, Reads .union (tokens definition.toList) other ↔ other = term

private theorem read_of_reads {definition : String} {term : Term}
    (reads : Reads .union (tokens definition.toList) term) : read? definition = some term := by
  obtain ⟨group, reached, within⟩ := runs_of_reads reads []
  rw [read?, within]
  exact reached

theorem isTerm_of_reads {definition : String} {term : Term}
    (reads : Reads .union (tokens definition.toList) term) : IsTerm definition term := by
  refine ⟨read_of_reads reads, fun other => ⟨?_, ?_⟩⟩
  · intro also
    exact Option.some.inj ((read_of_reads also).symm.trans (read_of_reads reads))
  · intro same
    rw [same]
    exact reads

example : read? "'A' | ('B' | 3 <= string < 20)[]" =
    some (.union (.literal "A")
      (.list (.union (.literal "B")
        (.range (some ⟨false, "3"⟩) (.name "string") (some ⟨true, "20"⟩))))) := by
  decide +kernel

end ModelViews.Definition
