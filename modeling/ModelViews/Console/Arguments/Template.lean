import ModelViews.Console.Arguments.Token
import ModelViews.Text.CharacterName

namespace ModelViews.Arguments

/-- What is known where a text is read: whether that is inside a template, and how an expression in
brackets is read. -/
structure Level where
  inTemplate : Bool
  expression : List Char → Except Flaw Unit

def Level.report (level : Level) (flaw : Flaw) : Flaw :=
  if level.inTemplate then .inTemplate flaw else flaw

def notedLength (c : Char) : Nat :=
  if c.toNat < 0x80 then 1 else 10

/-- The length of a text in the notation in which escapes are counted. A backslash stands for itself
if no character of an escape follows it. -/
def notedTextLength : List Char → Nat
  | [] => 0
  | ['\\'] => 6
  | '\\' :: c :: rest => (if c.toNat < 0x80 then 2 else 6 + notedLength c) + notedTextLength rest
  | c :: rest => notedLength c + notedTextLength rest

def digitsFlaw? (place count : Nat) (form : String) (rest : List Char) : Option Flaw :=
  let digits := (rest.take count).takeWhile isHexDigit
  if digits.length < count then
    some (.badEscape place (place + 1 + digits.length) (.truncated form))
  else if 0x10FFFF < rowValue 16 digits then some (.badEscape place (place + 1 + count) .tooGreat)
  else none

def nameFlaw? (place : Nat) : List Char → Option Flaw
  | '\x7b' :: rest =>
    let name := rest.takeWhile (· != '\x7d')
    if name.length = rest.length then
      some (.badEscape place (place + 2 + notedTextLength rest) .malformedName)
    else if name.isEmpty then some (.badEscape place (place + 2) .malformedName)
    else if Text.isCharacterName name then none
    else some (.badEscape place (place + 3 + notedTextLength name) .unknownName)
  | _ => some (.badEscape place (place + 1) .malformedName)

def escapeFlaw? (place : Nat) : List Char → Option Flaw
  | '\\' :: c :: rest =>
    let flaw? :=
      if c = 'x' then digitsFlaw? place 2 "xXX" rest
      else if c = 'u' then digitsFlaw? place 4 "uXXXX" rest
      else if c = 'U' then digitsFlaw? place 8 "UXXXXXXXX" rest
      else if c = 'N' then nameFlaw? place rest
      else none
    match flaw? with
    | some flaw => some flaw
    | none => escapeFlaw? (place + if c.toNat < 0x80 then 2 else 6 + notedLength c) rest
  | c :: rest => escapeFlaw? (place + notedLength c) rest
  | [] => none

def byteFlaw? (place : Nat) : List Char → Option Flaw
  | '\\' :: c :: rest =>
    if c = 'x' && ((rest.take 2).filter isHexDigit).length < 2 then some (.badByte place)
    else byteFlaw? (place + 2) rest
  | _ :: rest => byteFlaw? (place + 1) rest
  | [] => none

def bodyFlaw? (text : Quoted) : Option Flaw :=
  if text.isBytes then
    if text.body.any fun c => 0x80 ≤ c.toNat then some .wideBytes
    else if text.isRaw then none
    else byteFlaw? 0 text.body
  else if text.isRaw then none
  else escapeFlaw? 0 text.body

/-- Where the reading of the literal part of a template has come to: after a backslash, after the
letter of a name, or inside a name, in which braces do not count. -/
inductive Escaping where
  | none
  | backslash
  | letter
  | name
  deriving DecidableEq, Repr

structure LiteralPart where
  body : List Char
  rest : List Char
  isDoubled : Bool

def LiteralPart.push (c : Char) (part : LiteralPart) : LiteralPart :=
  { part with body := c :: part.body }

def literalPart (isRaw isInner : Bool) (escaping : Escaping) :
    List Char → Except TemplateFlaw LiteralPart
  | [] => .ok ⟨[], [], false⟩
  | c :: rest =>
    let goOn (escaping : Escaping) := do return (← literalPart isRaw isInner escaping rest).push c
    match escaping with
    | .name => goOn (if c = '\x7d' then .none else .name)
    | .letter => goOn (if c = '\x7b' then .name else .none)
    | _ =>
      if escaping = .backslash && c = 'N' then goOn .letter
      else if escaping = .none && !isRaw && c = '\\' && !rest.isEmpty then goOn .backslash
      else if c = '\x7b' || c = '\x7d' then
        if !isInner && rest.head? = some c then .ok ⟨[c], rest.drop 1, true⟩
        else if !isInner && c = '\x7d' then .error .strayBrace
        else .ok ⟨[], c :: rest, false⟩
      else goOn .none

/-- Where the reading of an expression in a template has come to: characters that are passed over,
the quote of an open text and whether there are three of it, and the open brackets. -/
structure Inside where
  skipped : Nat
  quote : Option (Char × Bool)
  opened : List Char
  deriving DecidableEq, Repr

def endMarks : List Char := ['!', ':', '\x7d', '=', '>', '<']

def expressionPart (inside : Inside) : List Char → Except TemplateFlaw (List Char × List Char)
  | [] =>
    match inside.quote, inside.opened with
    | some _, _ => .error .openText
    | none, opening :: _ => .error (.openBracket opening)
    | none, [] => .error .unfinished
  | c :: rest =>
    let goOn (inside : Inside) := do
      let (body, rest) ← expressionPart inside rest
      return (c :: body, rest)
    if 0 < inside.skipped then goOn { inside with skipped := inside.skipped - 1 }
    else if c = '\\' then .error .backslash
    else
      match inside.quote with
      | some (quote, isTriple) =>
        if c != quote then goOn inside
        else if !isTriple then goOn { inside with quote := none }
        else if [c, c].isPrefixOf rest then goOn { inside with quote := none, skipped := 2 }
        else goOn inside
      | none =>
        if isQuote c then
          if [c, c].isPrefixOf rest then goOn { inside with quote := some (c, true), skipped := 2 }
          else goOn { inside with quote := some (c, false) }
        else if ['(', '[', '\x7b'].contains c then
          if deepest ≤ inside.opened.length then .error .tooNested
          else goOn { inside with opened := c :: inside.opened }
        else if c = '#' then .error .comment
        else if inside.opened.isEmpty && endMarks.contains c then
          if rest.head? = some '=' && ['!', '=', '<', '>'].contains c then
            goOn { inside with skipped := 1 }
          else if c = '<' || c = '>' then goOn inside
          else .ok ([], c :: rest)
        else if [')', ']', '\x7d'].contains c then
          match inside.opened with
          | [] => .error (.unmatched c)
          | opening :: opened =>
            if opening = partner c then goOn { inside with opened }
            else .error (.mismatched c opening)
        else goOn inside

def isLeftOut (body : List Char) : Bool :=
  body.all fun c => c == ' ' || c == '\t' || c == '\n' || c == '\x0c'

def leftOut (rest : List Char) : TemplateFlaw :=
  match rest.head? with
  | some '!' => .emptyBefore '!'
  | some ':' => .emptyBefore ':'
  | some '=' => .emptyBefore '='
  | _ => .empty

def conversionEnd (rest : List Char) : Except TemplateFlaw (List Char) :=
  let rest := match rest with
    | '=' :: rest => rest.dropWhile fun c => c == ' ' || (9 ≤ c.toNat && c.toNat ≤ 13)
    | rest => rest
  match rest with
  | ['!'] => .error .unfinished
  | '!' :: c :: rest => if ['s', 'r', 'a'].contains c then .ok rest else .error .badConversion
  | rest => .ok rest

/-- What comes after a template, or after the part of one that says how an expression in it is
shown. The first argument bounds the number of steps. -/
def templateEnd (level : Level) (isRaw : Bool) : Nat → Nat → List Char → Except Flaw (List Char)
  | 0, _, rest => .ok rest
  | bound + 1, depth, text => do
    let part ← (literalPart isRaw (depth ≠ 0) .none text).mapError (level.report <| .template ·)
    if let some flaw := if isRaw then none else escapeFlaw? 0 part.body then
      .error (level.report flaw)
    else if part.isDoubled then templateEnd level isRaw bound depth part.rest
    else
      match part.rest with
      | '\x7b' :: rest =>
        if 2 ≤ depth then report .tooDeep
        else
          let (body, rest) ←
            (expressionPart ⟨0, none, []⟩ rest).mapError (level.report <| .template ·)
          if isLeftOut body then report (leftOut rest)
          else
            level.expression ('(' :: body ++ [')'])
            let rest ← (conversionEnd rest).mapError (level.report <| .template ·)
            let rest ← match rest with
              | [':'] => report .unfinished
              | ':' :: rest => templateEnd level isRaw bound (depth + 1) rest
              | rest => pure rest
            match rest with
            | '\x7d' :: rest => templateEnd level isRaw bound depth rest
            | _ => report .unfinished
      | [] => if depth = 0 then .ok [] else report .unfinished
      | rest => .ok rest
where
  report {α : Type} (flaw : TemplateFlaw) : Except Flaw α :=
    .error (level.report (.template flaw))

def checkTexts (level : Level) (before : Option Bool) : List Quoted → Except Flaw Unit
  | [] => .ok ()
  | text :: texts => do
    if !text.isTemplate then
      if let some flaw := bodyFlaw? text then throw (level.report flaw)
    if before.any (· != text.isBytes) then throw (level.report .mixedBytes)
    if text.isTemplate then
      discard <| templateEnd level text.isRaw (2 * text.body.length + 1) 0 text.body
    checkTexts level (some text.isBytes) texts

end ModelViews.Arguments
