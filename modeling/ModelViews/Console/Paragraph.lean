import ModelViews.Console.StyledText
import ModelViews.Text.Blank

namespace ModelViews.Paragraph

def isInk (c : Char) : Bool :=
  !Text.isBlank c

def words (line : List Char) : List (List Char) :=
  match _shape : line.dropWhile Text.isBlank with
  | [] => []
  | c :: rest =>
    let after := rest.dropWhile isInk
    (line.takeWhile Text.isBlank ++ c :: rest.takeWhile isInk ++ after.takeWhile Text.isBlank) ::
      words (after.dropWhile Text.isBlank)
termination_by line.length
decreasing_by
  have atWord := (List.dropWhile_suffix Text.isBlank (l := line)).length_le
  have atBlank := (List.dropWhile_suffix isInk (l := rest)).length_le
  have atEnd := (List.dropWhile_suffix Text.isBlank (l := rest.dropWhile isInk)).length_le
  rw [_shape, List.length_cons] at atWord
  omega

def fill (limit : Nat) (line : List Char) (used : Nat) : List (List Char) → List (List Char)
  | [] => [line]
  | word :: rest =>
    let size := Cells.width (Text.trimEnd word)
    if used + size ≤ limit then fill limit (line ++ word) (used + Cells.width word) rest
    else
      let before := if line.isEmpty then [] else [line]
      if size ≤ limit then before ++ fill limit word (Cells.width word) rest
      else
        let parts := Cells.chop limit word
        let last := parts.getLast?.getD []
        before ++ parts.dropLast ++ fill limit last (Cells.width last) rest

def settle (limit : Nat) (line : StyledText) : Except Cells.CutError StyledText :=
  let length := line.plain.length
  let blanks := (line.plain.reverse.takeWhile Text.isBlank).length
  (line.withPlain (line.plain.take (length - min blanks (length - limit)))).truncate limit

def broken (limit : Nat) (line : StyledText) : Except Cells.CutError (List StyledText) :=
  let expanded := line.expandTabs
  let lines := fill limit [] 0 (words expanded.plain)
  (expanded.parts (lines.dropLast.map List.length)).mapM (settle limit)

def lines (limit : Nat) (text : StyledText) : Except Cells.CutError (List StyledText) :=
  (text.lines.mapM (broken limit)).map List.flatten

end ModelViews.Paragraph
