import ModelViews.Console.Arguments.Numeral

namespace ModelViews.Arguments

/-- An expression, as far as its use depends on it, or a part of one: a pair or something unpacked in
a table, an argument that is named or unpacks a table, a row of arguments, or a loop. -/
inductive Node where
  | name (name : String)
  | number (numeral : Numeral)
  | text
  | template
  | constant (name : String)
  | ellipsis
  | tuple (items : List Node)
  | set (items : List Node)
  | table (items : List Node)
  | pair (key value : Node)
  | unpacked (value : Node)
  | call (function : Node) (arguments : List Node)
  | argument (name : Option String) (value : Node)
  | arguments (items : List Node)
  | member (owner : Node)
  | signed (sign : String) (operand : Node)
  | operation (sign : String) (left right : Node)
  | logical (operands : List Node)
  | comparison (sign : String) (left : Node) (operands : List Node)
  | conditional (parts : List Node)
  | lambda (body : Node)
  | generator (parts : List Node)
  | setOf (parts : List Node)
  | tableOf (parts : List Node)
  | loop (parts : List Node)
  | starred (value : Node)
  | assignment (value : Node)
  | yielded (values : List Node)
  | awaited (value : Node)

namespace Node

def kind : Node → String
  | .name _ => "name"
  | .number _ | .text => "literal"
  | .template => "f-string expression"
  | .constant word => word
  | .ellipsis => "ellipsis"
  | .tuple _ => "tuple"
  | .set _ => "set display"
  | .table _ | .pair .. | .unpacked _ => "dict literal"
  | .call .. | .argument .. | .arguments _ => "function call"
  | .member _ => "attribute"
  | .signed .. | .operation .. | .logical _ => "expression"
  | .comparison .. => "comparison"
  | .conditional _ => "conditional expression"
  | .lambda _ => "lambda"
  | .generator _ | .loop _ => "generator expression"
  | .setOf _ => "set comprehension"
  | .tableOf _ => "dict comprehension"
  | .starred _ => "starred"
  | .assignment _ => "named expression"
  | .yielded _ => "yield expression"
  | .awaited _ => "await expression"

mutual

def nonTarget? : Node → Option Node
  | .name _ | .member _ => none
  | .tuple items => firstNonTarget? items
  | .starred value => nonTarget? value
  | .comparison sign left _ => if sign = "in" then nonTarget? left else none
  | node => some node

def firstNonTarget? : List Node → Option Node
  | [] => none
  | item :: items =>
    match nonTarget? item with
    | some node => some node
    | none => firstNonTarget? items

end

mutual

def height : Node → Nat
  | .name _ | .number _ | .text | .template | .constant _ | .ellipsis => 1
  | .pair key value => max key.height value.height
  | .unpacked value => value.height
  | .arguments items => heightOfAll items
  | .tuple items | .set items | .table items | .logical items | .conditional items
  | .generator items | .setOf items | .tableOf items | .loop items | .yielded items =>
    heightOfAll items + 1
  | .call first items | .comparison _ first items => max first.height (heightOfAll items) + 1
  | .operation _ left right => max left.height right.height + 1
  | .argument _ value | .member value | .signed _ value | .lambda value | .starred value
  | .assignment value | .awaited value => value.height + 1

def heightOfAll : List Node → Nat
  | [] => 0
  | item :: items => max item.height (heightOfAll items)

end

def isArgument : Node → Bool
  | .argument .. => true
  | _ => false

def isUnpacking : Node → Bool
  | .argument none _ => true
  | _ => false

def items : Node → List Node
  | .arguments items => items
  | node => [node]

end Node
end ModelViews.Arguments
