import ModelViews.Console.Arguments.Numeral
import ModelViews.Text.NameChar

namespace ModelViews.Arguments

structure Quoted where
  isBytes : Bool
  isRaw : Bool
  isTemplate : Bool
  body : List Char
  deriving DecidableEq, Repr

inductive Token where
  | number (numeral : Numeral)
  | text (text : Quoted)
  | name (name : String)
  | word (word : String)
  | sign (sign : String)
  | lineEnd
  | indent
  | stop
  | broken (flaw : Flaw) (isFirm : Bool)
  deriving DecidableEq, Repr

structure Placed where
  token : Token
  line : Nat
  opened : List (Char × Nat)
  sawEnd : Bool
  deriving DecidableEq, Repr

def reserved : List String :=
  ["False", "None", "True", "and", "as", "assert", "async", "await", "break", "class", "continue",
   "def", "del", "elif", "else", "except", "finally", "for", "from", "global", "if", "import", "in",
   "is", "lambda", "nonlocal", "not", "or", "pass", "raise", "return", "try", "while", "with",
   "yield"]

def closeText (quote : Char) : List Char → Option (List Char × List Char)
  | [] => none
  | '\\' :: c :: rest => (closeText quote rest).map fun (body, rest) => ('\\' :: c :: body, rest)
  | c :: rest =>
    if c = quote then some ([], rest)
    else if c = '\n' then none
    else (closeText quote rest).map fun (body, rest) => (c :: body, rest)

def closeBlock (quote : Char) : List Char → Option (List Char × List Char)
  | [] => none
  | '\\' :: c :: rest => (closeBlock quote rest).map fun (body, rest) => ('\\' :: c :: body, rest)
  | c :: rest =>
    if c = quote && [quote, quote].isPrefixOf rest then some ([], rest.drop 2)
    else (closeBlock quote rest).map fun (body, rest) => (c :: body, rest)

def linesOfText : List Char → Nat
  | [] => 0
  | ['\\', _] => 0
  | '\\' :: '\n' :: rest => linesOfText rest + 1
  | '\\' :: _ :: rest => linesOfText rest
  | c :: rest => if c = '\n' then 0 else linesOfText rest

def quoted (line : Nat) (quote : Char) (rest : List Char) : Except Flaw (List Char × List Char) :=
  if [quote, quote].isPrefixOf rest then
    match closeBlock quote (rest.drop 2) with
    | some parts => .ok parts
    | none => .error (.unterminatedBlock (line + rest.dropLast.count '\n'))
  else
    match closeText quote rest with
    | some parts => .ok parts
    | none => .error (.unterminated (line + linesOfText rest))

def quoteMarks : List String :=
  ["", "b", "u", "r", "f", "br", "rb", "fr", "rf"]

def isQuote (c : Char) : Bool :=
  c == '\'' || c == '"'

def longSigns : List String :=
  ["...", "**=", "//=", ">>=", "<<=", "**", "//", ">>", "<<", "==", "!=", "<=", ">=", "<>", "->",
   ":=", "+=", "-=", "*=", "/=", "%=", "&=", "|=", "^=", "@="]

def firstSign (text : List Char) : String :=
  match longSigns.find? fun sign => sign.toList.isPrefixOf text with
  | some sign => sign
  | none => String.ofList (text.take 1)

def strayInName : List Char → Option Char
  | [] => none
  | c :: rest =>
    if c == '_' || Text.isNameHead c then rest.find? fun c => !Text.isNamePart c else some c

def nameToken (name : List Char) : Except Flaw Token :=
  match strayInName name with
  | some c => .error (.badCharacter c)
  | none =>
    let name := String.ofList name
    .ok (if reserved.contains name then .word name else .name name)

def firstToken (line : Nat) (text : List Char) : Except Flaw (Token × List Char) :=
  let name := text.takeWhile isNameChar
  let marks := name.map Char.toLower
  match text.dropWhile isNameChar with
  | quote :: rest =>
    if isQuote quote && quoteMarks.contains (String.ofList marks) then do
      let (body, rest) ← quoted line quote rest
      return (.text ⟨marks.contains 'b', marks.contains 'r', marks.contains 'f', body⟩, rest)
    else other name (quote :: rest)
  | [] => other name []
where
  /-- A token that is no quoted text. -/
  other (name rest : List Char) : Except Flaw (Token × List Char) :=
    match text with
    | [] => .ok (.stop, [])
    | c :: after =>
      if c.isDigit || (c == '.' && after.head?.any Char.isDigit) then do
        let (numeral, rest) ← firstNumeral text
        return (.number numeral, rest)
      else if !name.isEmpty then do return (← nameToken name, rest)
      else if Text.isPrintable c then
        .ok (.sign (firstSign text), text.drop (firstSign text).length)
      else .error (.badCharacter c)

structure Margin where
  column : Nat
  narrow : Nat
  deriving DecidableEq, Repr

/-- The margin of a line after some columns, and the line without it. Lines that go on after a
backslash have the margin that the first of them has before the backslash. -/
def margin (first : Option Margin) (here : Margin) :
    List Char → Except Flaw (Margin × List Char)
  | ' ' :: rest => margin first ⟨here.column + 1, here.narrow + 1⟩ rest
  | '\t' :: rest => margin first ⟨(here.column / 8 + 1) * 8, here.narrow + 1⟩ rest
  | '\x0c' :: rest => margin first ⟨0, 0⟩ rest
  | ['\\', '\n'] => .error .endless
  | '\\' :: '\n' :: rest =>
    margin (if first.isNone && here.column ≠ 0 then some ⟨here.column, here.column⟩ else first) here
      rest
  | '\\' :: _ => .error .strayBackslash
  | rest => .ok (first.getD here, rest)

/-- Where the reading of tokens has come to: the line, the open brackets, and the margins of the
lines, the innermost one first. -/
structure Position where
  line : Nat
  opened : List (Char × Nat)
  margins : List Margin
  deriving DecidableEq, Repr

namespace Position

def place (here : Position) (token : Token) : Placed :=
  ⟨token, here.line, here.opened, false⟩

def placeBefore (here : Position) (token : Token) (rest : List Char) : Placed :=
  let isClosed := match token with
    | .text text => !text.body.isEmpty
    | _ => false
  ⟨token, here.line, here.opened, rest.isEmpty && !isClosed⟩

def soft (here : Position) (flaw : Flaw) : List Placed :=
  [here.place (.broken flaw false)]

def firm (here : Position) (flaw : Flaw) : List Placed :=
  [here.place (.broken flaw true)]

def finish (here : Position) : List Placed :=
  match here.opened with
  | [] => [here.place .stop]
  | (opening, _) :: _ => here.soft (.neverClosed opening)

def pass (here : Position) (passed : List Char) : Position :=
  { here with line := here.line + passed.count '\n' }

def enter (here : Position) (margin : Margin) : Except Flaw (Position × List Placed) :=
  let current := here.margins.head?.getD ⟨0, 0⟩
  if margin.column = current.column then
    if margin.narrow = current.narrow then .ok (here, []) else .error .brokenIndent
  else if current.column < margin.column then
    if margin.narrow ≤ current.narrow then .error .brokenIndent
    else
      let here := { here with margins := margin :: here.margins }
      .ok (here, [here.place .indent])
  else
    let margins := here.margins.dropWhile fun outer => margin.column < outer.column
    if margin = margins.head?.getD ⟨0, 0⟩ then .ok ({ here with margins }, [])
    else .error .brokenIndent

end Position

def partner : Char → Char
  | ')' => '('
  | ']' => '['
  | _ => '\x7b'

def deepest : Nat := 200

def tokensFrom : Nat → Bool → Position → List Char → List Placed
  | 0, _, here, _ => here.finish
  | bound + 1, true, here, text =>
    match margin none ⟨0, 0⟩ text with
    | .error flaw => here.soft flaw
    | .ok (margin, rest) =>
      let here := here.pass (text.take (text.length - rest.length))
      if rest.head? = some '#' || rest.head? = some '\n' then
        match rest.dropWhile (· != '\n') with
        | [] => here.finish
        | _ :: rest => tokensFrom bound true { here with line := here.line + 1 } rest
      else
        match here.enter margin with
        | .error flaw => here.soft flaw
        | .ok (here, tokens) => tokens ++ tokensFrom bound false here rest
  | _ + 1, false, here, [] => here.finish
  | bound + 1, false, here, c :: rest =>
    if c = ' ' ∨ c = '\t' ∨ c = '\x0c' then tokensFrom bound false here rest
    else if c = '#' then tokensFrom bound false here (rest.dropWhile (· != '\n'))
    else if c = '\n' then
      let next := { here with line := here.line + 1 }
      if here.opened.isEmpty then here.place .lineEnd :: tokensFrom bound true next rest
      else tokensFrom bound false next rest
    else if c = '\\' then
      match rest with
      | ['\n'] => here.soft (match here.opened with
        | [] => .endless
        | (opening, _) :: _ => .neverClosed opening)
      | '\n' :: rest => tokensFrom bound false { here with line := here.line + 1 } rest
      | _ => here.soft .strayBackslash
    else if ['(', '[', '\x7b'].contains c then
      if deepest ≤ here.opened.length then here.firm .tooNested
      else
        let next := { here with opened := (c, here.line) :: here.opened }
        next.placeBefore (.sign c.toString) rest :: tokensFrom bound false next rest
    else if [')', ']', '\x7d'].contains c then
      match here.opened with
      | [] => here.firm (.unmatched c)
      | (opening, line) :: opened =>
        if opening = partner c then
          let next := { here with opened }
          next.placeBefore (.sign c.toString) rest :: tokensFrom bound false next rest
        else here.firm (.mismatched c opening (if line = here.line then none else some line))
    else
      match firstToken here.line (c :: rest) with
      | .error flaw => here.firm flaw
      | .ok (token, after) =>
        let next := match token with
          | .text text => here.pass text.body
          | _ => here
        here.placeBefore token after :: tokensFrom bound false next after

def plainLines : List Char → List Char
  | '\x0d' :: '\n' :: rest => '\n' :: plainLines rest
  | c :: rest => (if c = '\x0d' then '\n' else c) :: plainLines rest
  | [] => []

def tokens (text : List Char) : Array Placed :=
  (tokensFrom (2 * text.length + 1) true ⟨1, [], []⟩ (plainLines text)).toArray

end ModelViews.Arguments
