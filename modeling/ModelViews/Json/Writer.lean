import ModelViews.Json.Wire
import ModelViews.Number.Shortest

namespace ModelViews

namespace Json

open Number

def numberLayout : Layout :=
  { leastPlain := -3, greatestPlain := 16, exponentWidth := 2
    infinite := "Infinity", undefined := "NaN" }

def hexDigit (n : Nat) : Char :=
  if n < 10 then Char.ofNat (48 + n) else Char.ofNat (87 + n)

def unitEscape (unit : Nat) : List Char :=
  ['\\', 'u', hexDigit (unit / 4096 % 16), hexDigit (unit / 256 % 16), hexDigit (unit / 16 % 16),
    hexDigit (unit % 16)]

def escaped (c : Char) : List Char :=
  if c = '"' then ['\\', '"']
  else if c = '\\' then ['\\', '\\']
  else if c = '\n' then ['\\', 'n']
  else if c = '\r' then ['\\', 'r']
  else if c = '\t' then ['\\', 't']
  else if c.toNat = 8 then ['\\', 'b']
  else if c.toNat = 12 then ['\\', 'f']
  else if 0x20 ≤ c.toNat ∧ c.toNat < 0x7F then [c]
  else if c.toNat < 0x10000 then unitEscape c.toNat
  else
    let offset := c.toNat - 0x10000
    unitEscape (0xD800 + offset / 0x400) ++ unitEscape (0xDC00 + offset % 0x400)

def codePointText : CodePoint → List Char
  | .char c => escaped c
  | .half place => unitEscape (CodePoint.unit place)

def stringText (text : CodeText) : List Char :=
  '"' :: text.flatMap codePointText ++ ['"']

def intText (value : Int) : List Char :=
  (if value < 0 then ['-'] else []) ++ Nat.toDigits 10 value.natAbs

end Json

namespace Wire

mutual

def chars : Wire → List Char
  | null => "null".toList
  | bool true => "true".toList
  | bool false => "false".toList
  | int value => Json.intText value
  | float value => (Json.numberLayout.text value).toList
  | str text => Json.stringText text
  | arr items => '[' :: itemChars items ++ [']']
  | obj members => '{' :: memberChars members ++ ['}']

def itemChars : List Wire → List Char
  | [] => []
  | [last] => chars last
  | first :: rest => chars first ++ ", ".toList ++ itemChars rest

def memberChars : List (CodeText × Wire) → List Char
  | [] => []
  | [(name, last)] => Json.stringText name ++ ": ".toList ++ chars last
  | (name, first) :: rest =>
    Json.stringText name ++ ": ".toList ++ chars first ++ ", ".toList ++ memberChars rest

end

def render (value : Wire) : String :=
  String.ofList value.chars

end Wire

def Json.render (value : Json) : String :=
  (Wire.ofJson value).render

end ModelViews
