import ModelViews.Console.Arguments.Reading

namespace ModelViews.Arguments

/-- Why arguments have no value: what is in them is too deep or too tall to be looked at, or cannot
be where it is. -/
inductive ValueFlaw where
  | tooDeep
  | tooTall
  | changeable (kind : String)
  | notLiteral
  | unpacking
  | tooGreat
  deriving DecidableEq, Repr

def ValueFlaw.message : ValueFlaw → String
  | tooDeep => ""
  | tooTall => "maximum recursion depth exceeded during ast construction"
  | changeable kind => "unhashable type: '" ++ kind ++ "'"
  | notLiteral => "malformed node or string"
  | unpacking => "malformed node or string: None"
  | tooGreat => "int too large to convert to float"

inductive Value where
  | fixed
  | changeable (kind : String)
  deriving DecidableEq, Repr

def Value.fix : Value → Except ValueFlaw Unit
  | fixed => .ok ()
  | changeable kind => .error (.changeable kind)

def leastTooGreat : Nat := Nat.pow 2 1024 - Nat.pow 2 970

def numeralOf (node : Node) : Except ValueFlaw Numeral :=
  match node with
  | .number numeral => .ok numeral
  | _ => .error .notLiteral

def signedNumeralOf (node : Node) : Except ValueFlaw Numeral :=
  match node with
  | .signed sign operand =>
    if sign = "+" ∨ sign = "-" then numeralOf operand else .error .notLiteral
  | node => numeralOf node

def complexOf (left right : Node) : Except ValueFlaw Value := do
  match ← signedNumeralOf left, ← numeralOf right with
  | .imaginary, _ => .error .notLiteral
  | .whole value _, .imaginary => if leastTooGreat ≤ value then .error .tooGreat else .ok .fixed
  | _, .imaginary => .ok .fixed
  | _, _ => .error .notLiteral

mutual

def valueOf : Node → Except ValueFlaw Value
  | .text | .constant _ | .ellipsis => .ok .fixed
  | .tuple items => tupleValue items
  | .set items => do
    fixItems items
    return .changeable "set"
  | .table items => do
    fixKeys items
    return .changeable "dict"
  | .call (.name name) [] =>
    if Text.plainName name = "set" then .ok (.changeable "set") else .error .notLiteral
  | .operation sign left right =>
    if sign = "+" ∨ sign = "-" then complexOf left right else .error .notLiteral
  | node => do
    discard <| signedNumeralOf node
    return .fixed

def tupleValue : List Node → Except ValueFlaw Value
  | [] => .ok .fixed
  | item :: items => do
    let first ← valueOf item
    let rest ← tupleValue items
    return if first = .fixed then rest else first

def fixItems : List Node → Except ValueFlaw Unit
  | [] => .ok ()
  | item :: items => do
    (← valueOf item).fix
    fixItems items

def fixKeys : List Node → Except ValueFlaw Unit
  | [] => .ok ()
  | .pair key value :: items => do
    let key ← valueOf key
    discard <| valueOf value
    key.fix
    fixKeys items
  | _ :: _ => .error .unpacking

end

inductive Fault where
  | flaw (flaw : Flaw)
  | value (flaw : ValueFlaw)
  deriving DecidableEq, Repr

def tallest : Nat := 2942

def fault? (text : List Char) : Option Fault :=
  match read text with
  | .error .tooDeep => some (.value .tooDeep)
  | .error flaw => some (.flaw flaw)
  | .ok node =>
    if tallest < node.height then some (.value .tooTall)
    else
      match valueOf node with
      | .error flaw => some (.value flaw)
      | .ok _ => none

end ModelViews.Arguments
