namespace ModelViews

inductive CodePoint where
  | char (c : Char)
  | half (place : Fin 0x800)
  deriving DecidableEq, Repr

namespace CodePoint

def isHigh : CodePoint → Bool
  | char _ => false
  | half place => place.val < 0x400

def isLow : CodePoint → Bool
  | char _ => false
  | half place => 0x400 ≤ place.val

def unit (place : Fin 0x800) : Nat :=
  0xD800 + place.val

def value : CodePoint → Nat
  | char c => c.toNat
  | half place => unit place

/-- The code point as a character. A half becomes the replacement character. -/
def replaced : CodePoint → Char
  | char c => c
  | half _ => Char.ofNat 0xFFFD

end CodePoint

abbrev CodeText := List CodePoint

namespace CodeText

def ofString (text : String) : CodeText :=
  text.toList.map .char

instance : Coe String CodeText := ⟨ofString⟩

def plain (text : CodeText) : String :=
  String.ofList (text.map CodePoint.replaced)

end CodeText
end ModelViews
