import ModelViews.Console.Arguments.Flaw

namespace ModelViews.Arguments

/-- A number as far as its use depends on it. A whole number has the count of its decimal digits,
which is zero in another base. -/
inductive Numeral where
  | whole (value digits : Nat)
  | fraction
  | imaginary
  deriving DecidableEq, Repr

def isNameChar (c : Char) : Bool :=
  c.isAlphanum || c == '_' || 0x80 ≤ c.toNat

def mayFollowNumber (text : List Char) : Bool :=
  ["if", "in", "is"].any (·.toList.isPrefixOf text) ||
    ["and", "else", "for", "not", "or"].contains (String.ofList (text.takeWhile isNameChar))

def ended (form : String) (numeral : Numeral) (rest : List Char) :
    Except Flaw (Numeral × List Char) :=
  if rest.head?.any (fun c => c.isAlphanum || c == '_') && !mayFollowNumber rest then
    .error (.badNumber form)
  else .ok (numeral, rest)

def stuckDigit (form : String) : List Char → Flaw
  | c :: _ => if c.isDigit then .badDigit c form else .badNumber form
  | [] => .badNumber form

def digitRow (form : String) (isDigit : Char → Bool) : List Char → Except Flaw (List Char × List Char)
  | '_' :: c :: rest =>
    if isDigit c then do
      let (digits, rest) ← digitRow form isDigit rest
      return (c :: digits, rest)
    else .error (stuckDigit form (c :: rest))
  | ['_'] => .error (.badNumber form)
  | c :: rest =>
    if isDigit c then do
      let (digits, rest) ← digitRow form isDigit rest
      return (c :: digits, rest)
    else .ok ([], c :: rest)
  | [] => .ok ([], [])

def decimalRow : List Char → Except Flaw (List Char × List Char) :=
  digitRow "decimal" Char.isDigit

def fractionEnd : List Char → Except Flaw (Numeral × List Char)
  | 'j' :: rest | 'J' :: rest => ended "imaginary" .imaginary rest
  | rest => ended "decimal" .fraction rest

def powerEnd (numeral : Numeral) (rest : List Char) : Except Flaw (Numeral × List Char) :=
  match rest with
  | mark :: after =>
    if mark = 'e' ∨ mark = 'E' then
      let isSigned := after.head?.any ['+', '-'].contains
      let digits := if isSigned then after.drop 1 else after
      if digits.head?.any Char.isDigit then do fractionEnd (← decimalRow digits).2
      else if isSigned then .error (.badNumber "decimal")
      else ended "decimal" numeral rest
    else if mark = 'j' ∨ mark = 'J' then ended "imaginary" .imaginary after
    else ended "decimal" numeral rest
  | [] => .ok (numeral, [])

def afterPoint (rest : List Char) : Except Flaw (Numeral × List Char) :=
  if rest.head?.any Char.isDigit then do powerEnd .fraction (← decimalRow rest).2
  else powerEnd .fraction rest

def digitValue (c : Char) : Nat :=
  if c.isDigit then c.toNat - 48 else c.toLower.toNat - 87

def rowValue (base : Nat) (digits : List Char) : Nat :=
  digits.foldl (fun value c => base * value + digitValue c) 0

def based (form : String) (base : Nat) (isDigit : Char → Bool) (rest : List Char) :
    Except Flaw (Numeral × List Char) := do
  let (digits, rest) ← digitRow form isDigit rest
  if digits.isEmpty || rest.head?.any Char.isDigit then .error (stuckDigit form rest)
  else ended form (.whole (rowValue base digits) 0) rest

def isHexDigit (c : Char) : Bool :=
  c.isDigit || ('a' ≤ c && c ≤ 'f') || ('A' ≤ c && c ≤ 'F')

def isOctalDigit (c : Char) : Bool :=
  '0' ≤ c && c ≤ '7'

def isBinaryDigit (c : Char) : Bool :=
  c == '0' || c == '1'

def decimal (text : List Char) : Except Flaw (Numeral × List Char) := do
  let (digits, rest) ← decimalRow text
  let isPadded := digits.head? = some '0' && digits.any (· != '0')
  match rest with
  | '.' :: rest => afterPoint rest
  | rest =>
    if isPadded && !rest.head?.any ['e', 'E', 'j', 'J'].contains then .error .leadingZeros
    else powerEnd (.whole (rowValue 10 digits) digits.length) rest

def firstNumeral : List Char → Except Flaw (Numeral × List Char)
  | '.' :: rest => afterPoint rest
  | '0' :: mark :: rest =>
    if mark = 'x' ∨ mark = 'X' then based "hexadecimal" 16 isHexDigit rest
    else if mark = 'o' ∨ mark = 'O' then based "octal" 8 isOctalDigit rest
    else if mark = 'b' ∨ mark = 'B' then based "binary" 2 isBinaryDigit rest
    else decimal ('0' :: mark :: rest)
  | text => decimal text

end ModelViews.Arguments
