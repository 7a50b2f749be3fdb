import ModelViews.Text.CharacterNames
import ModelViews.Text.Ranges

namespace ModelViews.Text

/-- Where the search for a name has come to in the list: how many characters the name has in common
with the listed name before, what is left of it if it agrees with the listed name so far, and the
plus signs that were passed, times twenty-six. -/
structure NameSearch where
  agreed : Nat
  left : Option (List Char)
  passed : Nat

namespace NameSearch

def isFound (search : NameSearch) : Bool :=
  search.left = some []

/-- The search at a listed name that has so many characters in common with the one before it. Only if
the name that is searched has as many can it agree with both. -/
def enter (name : List Char) (shared : Nat) (search : NameSearch) : NameSearch :=
  if shared = search.agreed then ⟨shared, some (name.drop shared), 0⟩
  else ⟨min shared search.agreed, none, 0⟩

def step (c : Char) (search : NameSearch) : NameSearch :=
  match search.left with
  | some (first :: rest) =>
    if first = c then { search with agreed := search.agreed + 1, left := some rest }
    else { search with left := none }
  | _ => { search with left := none }

end NameSearch

def isListedFrom (name : List Char) (search : NameSearch) : List Char → Bool
  | [] => search.isFound
  | c :: rest =>
    if c = ' ' ∨ c = '\n' then isListedFrom name search rest
    else if c = '+' then
      search.isFound || isListedFrom name ⟨search.agreed, none, search.passed + 26⟩ rest
    else if c.isLower then
      search.isFound || isListedFrom name (search.enter name (search.passed + c.toNat - 97)) rest
    else isListedFrom name (search.step (if c = '_' then ' ' else c)) rest

def isListed (name : List Char) : Bool :=
  isListedFrom (name.map Char.toUpper) ⟨0, none, 0⟩ nameList.toList

def afterWords? (words : String) (name : List Char) : Option (List Char) :=
  if words.toList.isPrefixOf name then some (name.drop words.length) else none

def hanRanges : List (Nat × Nat) :=
  [(0x3400, 0x4DBF), (0x4E00, 0x9FFF), (0x20000, 0x2A6DF), (0x2A700, 0x2B738), (0x2B740, 0x2B81D),
   (0x2B820, 0x2CEA1), (0x2CEB0, 0x2EBE0), (0x30000, 0x3134A)]

def isHanEnd (digits : List Char) : Bool :=
  let isDigit (c : Char) := c.isDigit || ('A' ≤ c && c ≤ 'F')
  let code := digits.foldl (fun code c => 16 * code + (c.toNat - if c.isDigit then 48 else 55)) 0
  (digits.length == 4 || digits.length == 5) && digits.all isDigit &&
    hanRanges.any fun (low, high) => low ≤ code && code ≤ high

def hangulParts : List (List String) :=
  [["", "G", "GG", "N", "D", "DD", "R", "M", "B", "BB", "S", "SS", "J", "JJ", "C", "K", "T", "P",
    "H"],
   ["A", "AE", "YA", "YAE", "EO", "E", "YEO", "YE", "O", "WA", "WAE", "OE", "YO", "U", "WEO", "WE",
    "WI", "YU", "EU", "YI", "I"],
   ["", "G", "GG", "GS", "N", "NJ", "NH", "D", "L", "LG", "LM", "LB", "LS", "LT", "LP", "LH", "M",
    "B", "BS", "S", "SS", "NG", "J", "C", "K", "T", "P", "H"]]

def longestPart? (parts : List String) (rest : List Char) : Option String :=
  (parts.filter (·.toList.isPrefixOf rest)).foldl
    (fun longest? part =>
      if longest?.any (part.length ≤ ·.length) then longest? else some part) none

def isHangulEnd : List (List String) → List Char → Bool
  | [], rest => rest.isEmpty
  | parts :: others, rest =>
    match longestPart? parts rest with
    | some part => isHangulEnd others (rest.drop part.length)
    | none => false

def isCharacterName (name : List Char) : Bool :=
  match afterWords? "HANGUL SYLLABLE " name, afterWords? "CJK UNIFIED IDEOGRAPH-" name with
  | some rest, _ => isHangulEnd hangulParts rest
  | _, some rest => isHanEnd rest
  | none, none => isListed name

end ModelViews.Text
