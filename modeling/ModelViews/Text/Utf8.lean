namespace ModelViews.Text.Utf8

def encode (text : String) : List UInt8 :=
  text.toUTF8.toList

inductive Flaw where
  | badStart
  | badContinuation
  | truncated
  deriving DecidableEq, Repr

def Flaw.message : Flaw → String
  | .badStart => "invalid start byte"
  | .badContinuation => "invalid continuation byte"
  | .truncated => "unexpected end of data"

structure Fault where
  flaw : Flaw
  lead : UInt8
  position : Nat
  width : Nat
  deriving DecidableEq, Repr

def hexDigit (n : Nat) : Char :=
  if n < 10 then Char.ofNat (48 + n) else Char.ofNat (87 + n)

def Fault.message (fault : Fault) : String :=
  let lead := String.ofList [hexDigit (fault.lead.toNat / 16), hexDigit (fault.lead.toNat % 16)]
  let place :=
    if fault.width = 1 then "byte 0x" ++ lead ++ " in position " ++ toString fault.position
    else "bytes in position " ++ toString fault.position ++ "-" ++
      toString (fault.position + fault.width - 1)
  "'utf-8' codec can't decode " ++ place ++ ": " ++ fault.flaw.message

def announced? (lead : Nat) : Option (Nat × Nat × Nat × Nat) :=
  if lead < 0xC2 then none
  else if lead < 0xE0 then some (1, 0x80, 0xBF, lead - 0xC0)
  else if lead = 0xE0 then some (2, 0xA0, 0xBF, 0)
  else if lead = 0xED then some (2, 0x80, 0x9F, 0xD)
  else if lead < 0xF0 then some (2, 0x80, 0xBF, lead - 0xE0)
  else if lead = 0xF0 then some (3, 0x90, 0xBF, 0)
  else if lead < 0xF4 then some (3, 0x80, 0xBF, lead - 0xF0)
  else if lead = 0xF4 then some (3, 0x80, 0x8F, 4)
  else none

/-- Where decoding stands before a byte: between characters, or inside the character that began
with `lead`, with `owed + 1` bytes to come and the next of them in a range. -/
inductive Stand where
  | between
  | inside (lead : UInt8) (width owed low high bits : Nat)

def decodeFrom : Nat → Stand → List UInt8 → Except Fault (List Char)
  | _, .between, [] => .ok []
  | position, .inside lead width _ _ _ _, [] => .error ⟨.truncated, lead, position - width, width⟩
  | position, .between, byte :: bytes =>
    if byte.toNat < 0x80 then
      (decodeFrom (position + 1) .between bytes).map (Char.ofNat byte.toNat :: ·)
    else
      match announced? byte.toNat with
      | none => .error ⟨.badStart, byte, position, 1⟩
      | some (follow, low, high, bits) =>
        decodeFrom (position + 1) (.inside byte 1 (follow - 1) low high bits) bytes
  | position, .inside lead width owed low high bits, byte :: bytes =>
    if low ≤ byte.toNat ∧ byte.toNat ≤ high then
      let bits := bits * 64 + (byte.toNat - 0x80)
      match owed with
      | 0 => (decodeFrom (position + 1) .between bytes).map (Char.ofNat bits :: ·)
      | owed + 1 => decodeFrom (position + 1) (.inside lead (width + 1) owed 0x80 0xBF bits) bytes
    else .error ⟨.badContinuation, lead, position - width, width⟩

def decode (bytes : List UInt8) : Except Fault String :=
  (decodeFrom 0 .between bytes).map String.ofList

end ModelViews.Text.Utf8
