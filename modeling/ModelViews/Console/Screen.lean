import ModelViews.Console.Highlight
import ModelViews.Console.Markup
import ModelViews.Console.Paragraph
/-!
What a screen of fixed width shows: text in lines that fit, rules with a title, and a table of
counts.
-/
namespace ModelViews.Screen

open Number

def width : Nat := 200

/-- Why a text does not reach the screen: its tags, a colour in one of its styles, or a place where
it would have to be cut. -/
inductive Fault where
  | tag (error : Markup.TagError)
  | style (error : DigitsError)
  | cut (error : Cells.CutError)
  deriving DecidableEq, Repr

def Fault.message : Fault → String
  | tag error => error.message
  | style error => error.message
  | cut error => error.message

structure Print where
  text : String
  fault : Option Fault
  deriving DecidableEq, Repr

namespace Print

def failed (fault : Fault) : Print :=
  ⟨"", some fault⟩

def ofLines : List StyledText → Print
  | [] => ⟨"", none⟩
  | line :: rest =>
    match line.crop width with
    | .error error => failed (.cut error)
    | .ok shown =>
      let after := ofLines rest
      { after with text := String.ofList (shown ++ ['\n']) ++ after.text }

def ofText (text : StyledText) : Print :=
  match Paragraph.lines width text with
  | .error error => failed (.cut error)
  | .ok lines =>
    let styles := lines.flatMap fun line => line.stretches.map Stretch.style
    match styles.findSome? Style.numberError? with
    | some error => failed (.style error)
    | none => ofLines lines

def plain (text : String) : Print :=
  ofText (StyledText.ofPlain (Emoji.replaced text.toList))

end Print

def highlighted (text : StyledText) : StyledText :=
  if text.plain.contains Cells.joiner then
    { text with stretches := Highlight.stretches text.plain ++ text.stretches }
  else text

def styledText (text : String) : Except Fault StyledText :=
  ((Markup.styled text).map highlighted).mapError .tag

def Print.styled (text : String) : Print :=
  match styledText text with
  | .error fault => failed fault
  | .ok text => ofText text

def strokes (count : Nat) : List Char :=
  List.replicate count '─'

def ruleLine (title : StyledText) : Except Cells.CutError StyledText := do
  let line := title.withPlain (title.plain.map fun c => if c = '\n' then ' ' else c)
  let title ← line.expandTabs.abbreviate (width - 4)
  let size := Cells.width title.plain
  let side := (width - size) / 2
  let left := strokes (side - 1)
  let right := strokes (min (side + 1) (width - left.length - size))
  let rule := StyledText.marked (left ++ [' ']) ++ title ++ StyledText.marked (' ' :: right)
  return rule.withPlain (← Cells.fit width rule.plain)

def Print.rule (title : String) : Print :=
  match styledText title with
  | .error fault => failed fault
  | .ok title =>
    match ruleLine title with
    | .error error => failed (.cut error)
    | .ok rule => ofText rule

def nameWidth : Nat := 15
def countWidth : Nat := 7

def padRight (size : Nat) (text : String) : String :=
  text ++ String.ofList (List.replicate (size - text.length) ' ')

def padLeft (size : Nat) (text : String) : String :=
  String.ofList (List.replicate (size - text.length) ' ') ++ text

def cells (left middle right name count : String) : String :=
  left ++ " " ++ padRight nameWidth name ++ " " ++ middle ++ " " ++ padLeft countWidth count ++
    " " ++ right ++ "\n"

def border (left stroke middle right : Char) : String :=
  String.ofList (left :: List.replicate (nameWidth + 2) stroke ++
    middle :: List.replicate (countWidth + 2) stroke ++ [right, '\n'])

def table (heading : String × String) (rows : List (String × Nat)) : String :=
  border '┏' '━' '┳' '┓' ++
    cells "┃" "┃" "┃" heading.1 heading.2 ++
    border '┡' '━' '╇' '┩' ++
    String.join (rows.map fun (name, count) => cells "│" "│" "│" name (toString count)) ++
    border '└' '─' '┴' '┘'

end ModelViews.Screen
