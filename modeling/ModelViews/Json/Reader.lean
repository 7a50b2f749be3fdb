import ModelViews.Json.Wire
import ModelViews.Number.Digits
/-!
Reading JSON text. Besides the standard's values, `NaN`, `Infinity` and `-Infinity` are numbers;
blanks are the space, the tab and the two line breaks. A reading function takes the text that is
left and returns a value and the text after it; a flaw is kept with the text from the faulty place
on, so that its position is the length that is missing in front of it. Whole numbers of too many
digits and values that lie too deep are not read; how many and how deep, the limits of a reader say.

The text itself holds characters only; a half of a pair comes from an escape alone. What is read keeps
it (`readWithin`), a document has the replacement character for it (`parseWithin`).
-/
namespace ModelViews.Json

open Number

inductive Flaw where
  | expectingValue
  | expectingName
  | expectingColon
  | expectingComma
  | unterminated
  | controlCharacter
  | badEscape
  | badUnicodeEscape
  | extraText
  | byteOrderMark
  deriving DecidableEq, Repr

def Flaw.message : Flaw → String
  | .expectingValue => "Expecting value"
  | .expectingName => "Expecting property name enclosed in double quotes"
  | .expectingColon => "Expecting ':' delimiter"
  | .expectingComma => "Expecting ',' delimiter"
  | .unterminated => "Unterminated string starting at"
  | .controlCharacter => "Invalid control character at"
  | .badEscape => "Invalid \\escape"
  | .badUnicodeEscape => "Invalid \\uXXXX escape"
  | .extraText => "Extra data"
  | .byteOrderMark => "Unexpected UTF-8 BOM (decode using utf-8-sig)"

inductive Container where
  | array
  | object
  deriving DecidableEq, Repr

def Container.name : Container → String
  | array => "array"
  | object => "object"

inductive Fault where
  | flawed (flaw : Flaw) (rest : List Char)
  | number (error : DigitsError)
  | tooDeep (container : Container)
  deriving DecidableEq, Repr

abbrev Reading (α : Type) := Except Fault (α × List Char)

structure Limits where
  digits : Option Nat
  depth : Option Nat
  deriving DecidableEq, Repr

/-- The limits where a reader is called from the outermost function. How deep it can read depends on
how deep it was called. -/
def Limits.standard : Limits := ⟨some mostDigits, some 985⟩

def Limits.unbounded : Limits := ⟨none, none⟩

def isSpace (c : Char) : Bool :=
  c == ' ' || c == '\t' || c == '\n' || c == '\r'

def skipSpace (text : List Char) : List Char :=
  text.dropWhile isSpace

def hexValue? (c : Char) : Option Nat :=
  let n := c.toNat
  if 48 ≤ n ∧ n ≤ 57 then some (n - 48)
  else if 97 ≤ n ∧ n ≤ 102 then some (n - 87)
  else if 65 ≤ n ∧ n ≤ 70 then some (n - 55)
  else none

def codeUnit? (a b c d : Char) : Option Nat :=
  match hexValue? a, hexValue? b, hexValue? c, hexValue? d with
  | some a, some b, some c, some d => some (((a * 16 + b) * 16 + c) * 16 + d)
  | _, _, _, _ => none

def isHighSurrogate (unit : Nat) : Bool := 0xD800 ≤ unit && unit < 0xDC00
def isLowSurrogate (unit : Nat) : Bool := 0xDC00 ≤ unit && unit < 0xE000

def pairedUnits (high low : Nat) : Char :=
  Char.ofNat (0x10000 + (high - 0xD800) * 0x400 + (low - 0xDC00))

def singleUnit (unit : Nat) : CodePoint :=
  if half : 0xD800 ≤ unit ∧ unit < 0xE000 then .half ⟨unit - 0xD800, by omega⟩
  else .char (Char.ofNat unit)

def shortEscape? : Char → Option Char
  | '"' => some '"'
  | '\\' => some '\\'
  | '/' => some '/'
  | 'b' => some (Char.ofNat 8)
  | 'f' => some (Char.ofNat 12)
  | 'n' => some '\n'
  | 'r' => some '\r'
  | 't' => some '\t'
  | _ => none

/-- What an escape stands for, from its backslash on. Four digits are an escape only if the text
goes on after them, and two of them form a pair under the same condition. -/
def escape (opening text : List Char) : Reading CodePoint :=
  match text.drop 1 with
  | [] => .error (.flawed .unterminated opening)
  | 'u' :: a :: b :: c :: d :: next :: rest =>
    match codeUnit? a b c d with
    | none => .error (.flawed .badUnicodeEscape (text.drop 1))
    | some unit =>
      if isHighSurrogate unit then
        match next :: rest with
        | '\\' :: 'u' :: e :: f :: g :: h :: next' :: rest' =>
          match codeUnit? e f g h with
          | none => .error (.flawed .badUnicodeEscape rest)
          | some low =>
            if isLowSurrogate low then .ok (.char (pairedUnits unit low), next' :: rest')
            else .ok (singleUnit unit, next :: rest)
        | _ => .ok (singleUnit unit, next :: rest)
      else .ok (singleUnit unit, next :: rest)
  | 'u' :: _ => .error (.flawed .badUnicodeEscape (text.drop 1))
  | c :: rest =>
    match shortEscape? c with
    | some character => .ok (.char character, rest)
    | none => .error (.flawed .badEscape text)

/-- The code points of a string, from the place after its opening quote. The first argument bounds
their number, the second is the text from the opening quote on. -/
def stringBody : Nat → List Char → List Char → Except Fault (CodeText × List Char)
  | 0, opening, _ => .error (.flawed .unterminated opening)
  | _, opening, [] => .error (.flawed .unterminated opening)
  | bound + 1, opening, c :: rest =>
    if c = '"' then .ok ([], rest)
    else if c = '\\' then do
      let (point, rest) ← escape opening (c :: rest)
      let (points, rest) ← stringBody bound opening rest
      .ok (point :: points, rest)
    else if c.toNat < 0x20 then .error (.flawed .controlCharacter (c :: rest))
    else do
      let (points, rest) ← stringBody bound opening rest
      .ok (.char c :: points, rest)

def string (text : List Char) : Except Fault (CodeText × List Char) :=
  stringBody text.length text (text.drop 1)

def digitsValue (digits : List Char) : Nat :=
  digits.foldl (fun value c => value * 10 + (c.toNat - 48)) 0

def wholeDigits? : List Char → Option (List Char × List Char)
  | '0' :: rest => some (['0'], rest)
  | c :: rest =>
    if c.isDigit then some ((c :: rest).takeWhile Char.isDigit, (c :: rest).dropWhile Char.isDigit)
    else none
  | [] => none

def fractionDigits : List Char → List Char × List Char
  | '.' :: c :: rest =>
    if c.isDigit then ((c :: rest).takeWhile Char.isDigit, (c :: rest).dropWhile Char.isDigit)
    else ([], '.' :: c :: rest)
  | text => ([], text)

def exponent? (text : List Char) : Option (Int × List Char) :=
  match text with
  | mark :: rest =>
    if mark = 'e' ∨ mark = 'E' then
      let (negative, unsigned) :=
        match rest with
        | '-' :: unsigned => (true, unsigned)
        | '+' :: unsigned => (false, unsigned)
        | unsigned => (false, unsigned)
      let digits := unsigned.takeWhile Char.isDigit
      if digits.isEmpty then none
      else
        let value : Int := digitsValue digits
        some (if negative then -value else value, unsigned.dropWhile Char.isDigit)
    else none
  | [] => none

section Values

variable (limits : Limits)

def whole (negative : Bool) (digits rest : List Char) : Reading Wire :=
  if limits.digits.any (· < digits.length) then .error (.number (.tooMany digits.length))
  else
    let magnitude : Int := digitsValue digits
    .ok (.int (if negative then -magnitude else magnitude), rest)

def fractional (negative : Bool) (digits fraction : List Char) (power : Int) (rest : List Char) :
    Reading Wire :=
  let scale := power - fraction.length
  .ok (.float (Binary64.ofDecimal negative (digitsValue (digits ++ fraction)) scale), rest)

def unsignedNumber? (negative : Bool) (text : List Char) : Option (Reading Wire) :=
  match wholeDigits? text with
  | none => none
  | some (digits, afterWhole) =>
    let (fraction, afterFraction) := fractionDigits afterWhole
    some <|
      match exponent? afterFraction with
      | some (power, rest) => fractional negative digits fraction power rest
      | none =>
        if fraction.isEmpty then whole limits negative digits afterFraction
        else fractional negative digits fraction 0 afterFraction

def number? : List Char → Option (Reading Wire)
  | '-' :: rest => unsignedNumber? limits true rest
  | text => unsignedNumber? limits false text

def words : List (List Char × Wire) :=
  [("null".toList, .null), ("true".toList, .bool true), ("false".toList, .bool false),
   ("NaN".toList, .float .undefined), ("Infinity".toList, .float (.infinite false)),
   ("-Infinity".toList, .float (.infinite true))]

def word? (text : List Char) : Option (List Char × Wire) :=
  words.find? fun (word, _) => word.isPrefixOf text

def scalar (text : List Char) : Reading Wire :=
  match word? text with
  | some (word, value) => .ok (value, text.drop word.length)
  | none => (number? limits text).getD (.error (.flawed .expectingValue text))

mutual

/-- A value. The first number bounds the depth of the reading; two for every character of the text
and one more are always enough, since a bracket opens both a value and a list of items. The second
says how many containers may lie around a scalar in the value. -/
def value : Nat → Option Nat → List Char → Except Fault (Wire × List Char)
  | 0, _, text => .error (.flawed .expectingValue text)
  | bound + 1, room, text =>
    match text with
    | '"' :: _ => do
      let (points, rest) ← string text
      .ok (.str points, rest)
    | '[' :: rest =>
      if room = some 0 then .error (.tooDeep .array)
      else
        match skipSpace rest with
        | ']' :: rest => .ok (.arr [], rest)
        | rest => do
          let (values, rest) ← items bound (room.map (· - 1)) rest
          .ok (.arr values, rest)
    | '{' :: rest =>
      if room = some 0 then .error (.tooDeep .object)
      else
        match skipSpace rest with
        | '}' :: rest => .ok (.obj [], rest)
        | rest => do
          let (pairs, rest) ← members bound (room.map (· - 1)) rest
          .ok (.obj (Keyed.ofPairs pairs), rest)
    | _ => scalar limits text

def items : Nat → Option Nat → List Char → Except Fault (List Wire × List Char)
  | 0, _, text => .error (.flawed .expectingValue text)
  | bound + 1, room, text => do
    let (first, rest) ← value bound room text
    match skipSpace rest with
    | ']' :: rest => .ok ([first], rest)
    | ',' :: rest => do
      let (others, rest) ← items bound room (skipSpace rest)
      .ok (first :: others, rest)
    | rest => .error (.flawed .expectingComma rest)

def members : Nat → Option Nat → List Char → Except Fault (List (CodeText × Wire) × List Char)
  | 0, _, text => .error (.flawed .expectingName text)
  | bound + 1, room, text =>
    match text with
    | '"' :: _ => do
      let (name, rest) ← string text
      match skipSpace rest with
      | ':' :: rest => do
        let (first, rest) ← value bound room (skipSpace rest)
        match skipSpace rest with
        | '}' :: rest => .ok ([(name, first)], rest)
        | ',' :: rest => do
          let (others, rest) ← members bound room (skipSpace rest)
          .ok ((name, first) :: others, rest)
        | rest => .error (.flawed .expectingComma rest)
      | rest => .error (.flawed .expectingColon rest)
    | _ => .error (.flawed .expectingName text)

end

def document (text : List Char) : Except Fault Wire :=
  if text.head? = some (Char.ofNat 0xFEFF) then .error (.flawed .byteOrderMark text)
  else do
    let (result, rest) ← value limits (2 * text.length + 2) limits.depth (skipSpace text)
    match skipSpace rest with
    | [] => .ok result
    | rest => .error (.flawed .extraText rest)

end Values

structure SyntaxError where
  flaw : Flaw
  position : Nat
  line : Nat
  column : Nat
  deriving DecidableEq, Repr

def SyntaxError.message (error : SyntaxError) : String :=
  error.flaw.message ++ ": line " ++ toString error.line ++ " column " ++ toString error.column ++
    " (char " ++ toString error.position ++ ")"

def Flaw.locate (flaw : Flaw) (text rest : List Char) : SyntaxError :=
  let position := text.length - rest.length
  let before := text.take position
  { flaw := flaw
    position := position
    line := before.count '\n' + 1
    column := (before.reverse.takeWhile (· ≠ '\n')).length + 1 }

inductive ReadError where
  | malformed (error : SyntaxError)
  | number (error : DigitsError)
  | tooDeep (container : Container)
  deriving DecidableEq, Repr

def ReadError.message : ReadError → String
  | malformed error => error.message
  | number error => error.message
  | tooDeep container =>
    "maximum recursion depth exceeded while decoding a JSON " ++ container.name ++
      " from a unicode string"

def Fault.inText (text : List Char) : Fault → ReadError
  | flawed flaw rest => .malformed (flaw.locate text rest)
  | number error => .number error
  | tooDeep container => .tooDeep container

def readWithin (limits : Limits) (text : String) : Except ReadError Wire :=
  (document limits text.toList).mapError (Fault.inText text.toList)

def parseWithin (limits : Limits) (text : String) : Except ReadError Json :=
  (readWithin limits text).map Wire.plain

def parse (text : String) : Except ReadError Json :=
  parseWithin .standard text

end ModelViews.Json
