namespace ModelViews.Text

/-- Styled letters that stand for themselves in their block, with the plain letter. Only letters of
the words that a name is compared with are listed. -/
def styledLetters : List (Nat × Char) :=
  [(0x17F, 's'), (0x2B3, 'r'), (0x2E2, 's'), (0x2E3, 'x'), (0x1D49, 'e'), (0x1D56, 'p'),
   (0x1D57, 't'), (0x1D62, 'i'), (0x1D63, 'r'), (0x1D9C, 'c'), (0x2071, 'i'), (0x207F, 'n'),
   (0x2091, 'e'), (0x2093, 'x'), (0x2099, 'n'), (0x209A, 'p'), (0x209B, 's'), (0x209C, 't'),
   (0x212F, 'e'), (0x2139, 'i'), (0x2147, 'e'), (0x2148, 'i'), (0x2170, 'i'), (0x2179, 'x'),
   (0x217D, 'c')]

def letterAt (place : Nat) : Char :=
  if place < 26 then Char.ofNat (65 + place) else Char.ofNat (71 + place)

def plainLetter (c : Char) : Char :=
  let code := c.toNat
  if 0x1D400 ≤ code ∧ code < 0x1D6A4 then letterAt ((code - 0x1D400) % 52)
  else if 0xFF21 ≤ code ∧ code ≤ 0xFF3A then letterAt (code - 0xFF21)
  else if 0xFF41 ≤ code ∧ code ≤ 0xFF5A then letterAt (code - 0xFF41 + 26)
  else (styledLetters.lookup code).getD c

def plainName (name : String) : String :=
  String.ofList (name.toList.map plainLetter)

end ModelViews.Text
