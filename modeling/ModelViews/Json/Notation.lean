import ModelViews.Json.Wire
import ModelViews.Number.Shortest
import ModelViews.Text.Printable

namespace ModelViews

namespace Json

open Number

def messageLayout : Layout :=
  { leastPlain := -3, greatestPlain := 16, exponentWidth := 2
    infinite := "inf", undefined := "nan" }

def paddedHex (width n : Nat) : List Char :=
  let digits := Nat.toDigits 16 n
  List.replicate (width - digits.length) '0' ++ digits

def shownIn (quote c : Char) : List Char :=
  if c = quote ∨ c = '\\' then ['\\', c]
  else if c = '\n' then ['\\', 'n']
  else if c = '\r' then ['\\', 'r']
  else if c = '\t' then ['\\', 't']
  else if Text.isPrintable c then [c]
  else if c.toNat < 0x100 then '\\' :: 'x' :: paddedHex 2 c.toNat
  else if c.toNat < 0x10000 then '\\' :: 'u' :: paddedHex 4 c.toNat
  else '\\' :: 'U' :: paddedHex 8 c.toNat

def codePointIn (quote : Char) : CodePoint → List Char
  | .char c => shownIn quote c
  | .half place => '\\' :: 'u' :: paddedHex 4 (CodePoint.unit place)

def quotedCode (text : CodeText) : List Char :=
  let quote := if text.contains (.char '\'') && !text.contains (.char '"') then '"' else '\''
  quote :: text.flatMap (codePointIn quote) ++ [quote]

def quotedText (text : String) : List Char :=
  quotedCode text

end Json

namespace Wire

mutual

def shown : Wire → List Char
  | null => "None".toList
  | bool true => "True".toList
  | bool false => "False".toList
  | int value => (toString value).toList
  | float value => (Json.messageLayout.text value).toList
  | str text => Json.quotedCode text
  | arr items => '[' :: shownItems items ++ [']']
  | obj members => '{' :: shownMembers members ++ ['}']

def shownItems : List Wire → List Char
  | [] => []
  | [last] => shown last
  | first :: rest => shown first ++ ", ".toList ++ shownItems rest

def shownMembers : List (CodeText × Wire) → List Char
  | [] => []
  | [(name, last)] => Json.quotedCode name ++ ": ".toList ++ shown last
  | (name, first) :: rest =>
    Json.quotedCode name ++ ": ".toList ++ shown first ++ ", ".toList ++ shownMembers rest

end

def message : Wire → CodeText
  | str text => text
  | value => String.ofList value.shown

end Wire
end ModelViews
