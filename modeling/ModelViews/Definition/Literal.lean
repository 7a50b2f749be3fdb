import ModelViews.Text.Blank
import ModelViews.Text.Word
/-!
Types in emitted code are either quoted definitions, that is string literals, or validator
expressions, that is code with a call in it. Here are the writing of a quoted definition and the
tests that tell the two forms apart.
-/
namespace ModelViews.Definition

def escaped (c : Char) : List Char :=
  if c = '\\' ∨ c = '"' then ['\\', c] else [c]

def quote (definition : String) : String :=
  String.ofList ('"' :: definition.toList.flatMap escaped ++ ['"'])

/-- Whether a text runs up to its first bare `mark` and ends there. A backslash takes the character
after it along. -/
def closes (mark : Char) : List Char → Bool
  | [] => false
  | '\\' :: rest =>
    match rest with
    | [] => false
    | _ :: rest => closes mark rest
  | c :: rest => if c = mark then rest.isEmpty else closes mark rest

def isLiteralText : List Char → Bool
  | '"' :: rest => closes '"' rest
  | '\'' :: rest => closes '\'' rest
  | _ => false

def isLiteral (text : String) : Bool :=
  isLiteralText text.toList

def startsName (c : Char) : Bool :=
  c.isAlpha || c == '_' || c == '$'

def continuesName (c : Char) : Bool :=
  Text.isWord c || c == '$'

def callsFirst : List Char → Bool
  | [] => false
  | c :: rest =>
    startsName c &&
      ((rest.dropWhile continuesName).dropWhile Text.isBlank).head? == some '('

def hasCall : List Char → Bool
  | [] => false
  | c :: rest => callsFirst (c :: rest) || hasCall rest

/-- A validator expression: no string literal, and a call somewhere. -/
def isExpression (text : String) : Bool :=
  !isLiteral text && hasCall text.toList

/-- Literals and expressions stand for themselves, any other text is a definition to be quoted. -/
def overwriteType (text : String) : String :=
  if isLiteral text || isExpression text then text else quote text

end ModelViews.Definition
