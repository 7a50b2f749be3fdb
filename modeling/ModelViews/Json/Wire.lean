import ModelViews.Json.Basic
import ModelViews.Text.CodePoint
/-!
JSON values as a text writes them. Their texts may hold halves of pairs; the texts of a document do
not, and a half in what becomes a document is read as the replacement character.
-/
namespace ModelViews

open Number

inductive Wire where
  | null
  | bool (value : Bool)
  | int (value : Int)
  | float (value : Binary64)
  | str (text : CodeText)
  | arr (items : List Wire)
  | obj (members : List (CodeText × Wire))
  deriving Repr, Inhabited

namespace Wire

def member? (name : CodeText) : Wire → Option Wire
  | obj members => members.lookup name
  | _ => none

mutual

def plain : Wire → Json
  | null => .null
  | bool value => .bool value
  | int value => .int value
  | float value => .float value
  | str text => .str text.plain
  | arr items => .arr (plainItems items)
  | obj members => .obj (plainMembers members)

def plainItems : List Wire → List Json
  | [] => []
  | first :: rest => plain first :: plainItems rest

def plainMembers : List (CodeText × Wire) → List (String × Json)
  | [] => []
  | (name, first) :: rest => (name.plain, plain first) :: plainMembers rest

end

mutual

def ofJson : Json → Wire
  | .null => null
  | .bool value => bool value
  | .int value => int value
  | .float value => float value
  | .str text => str text
  | .arr items => arr (ofItems items)
  | .obj members => obj (ofMembers members)

def ofItems : List Json → List Wire
  | [] => []
  | first :: rest => ofJson first :: ofItems rest

def ofMembers : List (String × Json) → List (CodeText × Wire)
  | [] => []
  | (name, first) :: rest => ((name : CodeText), ofJson first) :: ofMembers rest

end

def orEmpty (value : Wire) : Wire :=
  if value.plain.isVacant then obj [] else value

end Wire
end ModelViews
