import ModelViews.Keyed
import ModelViews.Number.Binary64

namespace ModelViews

open Number

inductive Json where
  | null
  | bool (value : Bool)
  | int (value : Int)
  | float (value : Binary64)
  | str (text : String)
  | arr (items : List Json)
  | obj (members : List (String × Json))
  deriving Repr, Inhabited

namespace Json

def member? (name : String) : Json → Option Json
  | obj members => members.lookup name
  | _ => none

def isVacant : Json → Bool
  | null => true
  | bool value => !value
  | int value => value = 0
  | float value => value.isZero
  | str text => text.isEmpty
  | arr items => items.isEmpty
  | obj members => members.isEmpty

def orEmpty (value : Json) : Json :=
  if value.isVacant then obj [] else value

def kindName : Json → String
  | null => "NoneType"
  | bool _ => "bool"
  | int _ => "int"
  | float _ => "float"
  | str _ => "str"
  | arr _ => "list"
  | obj _ => "dict"

end Json
end ModelViews
