import ModelViews.Console.Cells
/-!
Text with styled stretches. A screen without styles shows the text alone, but a line that does not
fit is cut where a stretch begins or ends: there its parts are measured one by one.
-/
namespace ModelViews

structure Stretch where
  start : Nat
  stop : Nat
  style : String
  deriving DecidableEq, Repr

namespace Stretch

def shift (distance : Nat) (stretch : Stretch) : Stretch :=
  { stretch with start := stretch.start + distance, stop := stretch.stop + distance }

def within? (start stop : Nat) (stretch : Stretch) : Option Stretch :=
  let first := stretch.start - start
  let last := min stretch.stop stop - start
  if first < last then some ⟨first, last, stretch.style⟩ else none

def before? (stop : Nat) (stretch : Stretch) : Option Stretch :=
  if stretch.start < stop then some { stretch with stop := min stretch.stop stop } else none

end Stretch

structure StyledText where
  plain : List Char
  stretches : List Stretch
  deriving DecidableEq, Repr

namespace StyledText

def isDropped (c : Char) : Bool :=
  [7, 8, 11, 12, 13].contains c.toNat

def kept (text : List Char) : List Char :=
  text.filter fun c => !isDropped c

def ofPlain (text : List Char) : StyledText :=
  ⟨kept text, []⟩

def marked (text : List Char) : StyledText :=
  ⟨text, [⟨0, text.length, ""⟩]⟩

def append (first second : StyledText) : StyledText :=
  ⟨first.plain ++ second.plain,
    first.stretches ++ second.stretches.map (Stretch.shift first.plain.length)⟩

instance : Append StyledText :=
  ⟨append⟩

def part (stretches : List Stretch) (start : Nat) (plain : List Char) : StyledText :=
  ⟨plain, stretches.filterMap (Stretch.within? start (start + plain.length))⟩

def partsFrom (stretches : List Stretch) : Nat → List Nat → List Char → List StyledText
  | start, [], plain => [part stretches start plain]
  | start, length :: lengths, plain =>
    part stretches start (plain.take length) ::
      partsFrom stretches (start + length) lengths (plain.drop length)

/-- The parts of a text of the given lengths, and a last part. A text that stays whole keeps its
empty stretches. -/
def parts (lengths : List Nat) (text : StyledText) : List StyledText :=
  if lengths.isEmpty then [text] else partsFrom text.stretches 0 lengths text.plain

def linesFrom (stretches : List Stretch) : Nat → List (List Char) → List StyledText
  | _, [] => []
  | start, line :: rest =>
    part stretches start line :: linesFrom stretches (start + line.length + 1) rest

def lines (text : StyledText) : List StyledText :=
  if text.plain.contains '\n' then linesFrom text.stretches 0 (text.plain.splitOn '\n') else [text]

def withPlain (plain : List Char) (text : StyledText) : StyledText :=
  if plain.length < text.plain.length then
    ⟨plain, text.stretches.filterMap (Stretch.before? plain.length)⟩
  else ⟨plain, text.stretches⟩

def widen (count : Nat) (text : StyledText) : StyledText :=
  ⟨text.plain ++ List.replicate count ' ',
    text.stretches.map fun stretch =>
      if text.plain.length ≤ stretch.stop then { stretch with stop := stretch.stop + count }
      else stretch⟩

def tabWidth : Nat := 8

/-- The parts of a line, of which all but the last end in a tab, put together from a column on. A
tab is filled up to the next stop, and is a space at least. -/
def joinTabbed : Nat → List StyledText → StyledText
  | _, [] => ⟨[], []⟩
  | _, [last] => last
  | column, part :: rest =>
    let filled := { part with plain := part.plain.dropLast ++ [' '] }
    let reached := column + Cells.width filled.plain
    let gap := (tabWidth - reached % tabWidth) % tabWidth
    filled.widen gap ++ joinTabbed (reached + gap) rest

def expandTabs (line : StyledText) : StyledText :=
  let lengths := (line.plain.splitOn '\t').dropLast.map (·.length + 1)
  joinTabbed 0 (line.parts lengths)

def truncate (limit : Nat) (text : StyledText) : Except Cells.CutError StyledText :=
  if limit < Cells.width text.plain then do return text.withPlain (← Cells.fit limit text.plain)
  else .ok text

def abbreviate (limit : Nat) (text : StyledText) : Except Cells.CutError StyledText :=
  if limit < Cells.width text.plain then do
    return text.withPlain ((← Cells.fit (limit - 1) text.plain) ++ ['…'])
  else .ok text

def edges (text : StyledText) : List Nat :=
  (text.stretches.flatMap fun stretch => [stretch.start, stretch.stop]).mergeSort

def segmentsFrom : Nat → List Nat → List Char → List (List Char)
  | _, [], plain => [plain]
  | start, edge :: edges, plain =>
    if edge ≤ start then segmentsFrom start edges plain
    else plain.take (edge - start) :: segmentsFrom edge edges (plain.drop (edge - start))

def segments (text : StyledText) : List (List Char) :=
  segmentsFrom 0 text.edges text.plain

def segmentsWidth : List (List Char) → Nat
  | [] => 0
  | segment :: rest => Cells.width segment + segmentsWidth rest

def cropFrom (limit used : Nat) : List (List Char) → Except Cells.CutError (List Char)
  | [] => .ok []
  | segment :: rest =>
    let reached := used + Cells.width segment
    if reached < limit then do return segment ++ (← cropFrom limit reached rest)
    else Cells.fit (limit - used) segment

def crop (limit : Nat) (line : StyledText) : Except Cells.CutError (List Char) :=
  let segments := line.segments
  if limit < segmentsWidth segments then cropFrom limit 0 segments else .ok line.plain

end StyledText
end ModelViews
