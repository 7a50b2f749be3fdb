import ModelViews.Console.Action
import ModelViews.Console.Emoji
import ModelViews.Console.Style
import ModelViews.Console.StyledText
import ModelViews.Text.Search

namespace ModelViews.Markup

open Number

inductive Piece where
  | plain (text : List Char)
  | tag (backslashes : Nat) (body : List Char)
  deriving DecidableEq, Repr

def opensTag (c : Char) : Bool :=
  c.isLower || c == '#' || c == '/' || c == '@'

def inTag (c : Char) : Bool :=
  c != '[' && c != ']'

def tagBody? : List Char → Option (List Char × List Char)
  | [] => none
  | c :: rest =>
    if opensTag c then
      match rest.dropWhile inTag with
      | ']' :: after => some (c :: rest.takeWhile inTag, after)
      | _ => none
    else none

def isBackslash (c : Char) : Bool :=
  c == '\\'

def tag? (text : List Char) : Option (Piece × List Char) :=
  match text.dropWhile isBackslash with
  | '[' :: rest =>
    (tagBody? rest).map fun (body, after) => (.tag (text.takeWhile isBackslash).length body, after)
  | _ => none

theorem length_dropWhile_le (p : Char → Bool) (text : List Char) :
    (text.dropWhile p).length ≤ text.length :=
  (List.dropWhile_suffix p).length_le

theorem tagBody_shorter {text body after : List Char} (found : tagBody? text = some (body, after)) :
    after.length < text.length := by
  cases text with
  | nil => simp [tagBody?] at found
  | cons c rest =>
    have bound := length_dropWhile_le inTag rest
    simp only [tagBody?] at found
    split at found
    · split at found
      · rename_i after' same
        simp only [Option.some.injEq, Prod.mk.injEq] at found
        rw [same, List.length_cons] at bound
        rw [← found.2, List.length_cons]
        omega
      · simp at found
    · simp at found

theorem tag_shorter {text after : List Char} {piece : Piece}
    (found : tag? text = some (piece, after)) : after.length < text.length := by
  have bound := length_dropWhile_le isBackslash text
  simp only [tag?] at found
  split at found
  · rename_i rest same
    obtain ⟨⟨body, after'⟩, read, same'⟩ := Option.map_eq_some_iff.mp found
    simp only [Prod.mk.injEq] at same'
    have shorter := tagBody_shorter read
    rw [same, List.length_cons] at bound
    rw [← same'.2]
    omega
  · simp at found

def prepend (c : Char) : List Piece → List Piece
  | .plain text :: others => .plain (c :: text) :: others
  | others => .plain [c] :: others

def pieces (text : List Char) : List Piece :=
  match _found : tag? text with
  | some (piece, after) => piece :: pieces after
  | none =>
    match text with
    | [] => []
    | c :: rest => prepend c (pieces rest)
termination_by text.length
decreasing_by
  · exact tag_shorter _found
  · simp

/-- Why a text has no styled form: it ends a style that is not open, or an action with arguments
that cannot be read, or a colour that names a style has a component without a value. -/
inductive TagError where
  | unmatched (tag : String) (position : Nat)
  | nothingOpen (position : Nat)
  | action (error : Action.Error)
  | number (error : DigitsError)
  deriving DecidableEq, Repr

def TagError.message : TagError → String
  | unmatched tag position =>
    "closing tag '" ++ tag ++ "' at position " ++ toString position ++
      " doesn't match any open tag"
  | nothingOpen position =>
    "closing tag '[/]' at position " ++ toString position ++ " has nothing to close"
  | action error => error.message
  | number error => error.message

def bracketed (body : List Char) : List Char :=
  '[' :: body ++ [']']

/-- A tag that is open: the normal name of its style, what was written after an equals sign, and
the place where its text begins. -/
structure OpenTag where
  name : String
  parameters : Option (List Char)
  start : Nat
  deriving DecidableEq, Repr

namespace OpenTag

def isAction (tag : OpenTag) : Bool :=
  tag.name.startsWith "@"

def style (tag : OpenTag) : String :=
  match tag.parameters with
  | none => tag.name
  | some parameters => tag.name ++ " " ++ String.ofList parameters

def runOut (stop : Nat) (tag : OpenTag) : Stretch :=
  ⟨tag.start, stop, tag.style⟩

def close (stop : Nat) (tag : OpenTag) : Except TagError Stretch :=
  if tag.isAction then
    ((Action.check (tag.parameters.getD [])).map fun _ => ⟨tag.start, stop, ""⟩).mapError .action
  else .ok (tag.runOut stop)

end OpenTag

def take? (name : String) : List OpenTag → Option (OpenTag × List OpenTag)
  | [] => none
  | tag :: others =>
    if tag.name = name then some (tag, others)
    else (take? name others).map fun (found, others) => (found, tag :: others)

def normalName (name : List Char) : Except TagError String :=
  (Style.normalName name).mapError .number

/-- The stretch that ends at a tag, and the tags that are open after it. The tag stands at a position
of the text that is read, and at a place of the text that is shown. -/
def follow (tags : List OpenTag) (position place : Nat) (body : List Char) :
    Except TagError (Option Stretch × List OpenTag) :=
  let parameters := (Text.cutAt? '=' body).map Prod.snd
  match body.takeWhile (· != '=') with
  | '/' :: name =>
    if (Text.trim name).isEmpty then
      match tags with
      | [] => .error (.nothingOpen position)
      | tag :: others => do
        return (← tag.close place, others)
    else do
      match take? (← normalName name) tags with
      | none => .error (.unmatched (String.ofList (bracketed body)) position)
      | some (tag, others) => do
        return (← tag.close place, others)
  | name => do
    return (none, ⟨← normalName name, parameters, place⟩ :: tags)

def unescaped : List Char → List Char
  | '\\' :: '[' :: rest => '[' :: unescaped rest
  | c :: rest => c :: unescaped rest
  | [] => []

def shown (text : List Char) : List Char :=
  StyledText.kept (Emoji.replaced text)

/-- What pieces show from a place on, and the stretches that end there, in the order in which they
end. Of backslashes before a tag half are shown, and after an odd number of them the tag is text. -/
def styledFrom (tags : List OpenTag) (position place : Nat) :
    List Piece → Except TagError (List Char × List Stretch)
  | [] => .ok ([], tags.map (OpenTag.runOut place))
  | .plain text :: rest => do
    let run := shown (unescaped text)
    let (after, stretches) ← styledFrom tags (position + text.length) (place + run.length) rest
    return (run ++ after, stretches)
  | .tag backslashes body :: rest => do
    let next := position + backslashes + body.length + 2
    let before := List.replicate (backslashes / 2) '\\'
    if backslashes % 2 = 1 then
      let run := before ++ shown (bracketed body)
      let (after, stretches) ← styledFrom tags next (place + run.length) rest
      return (run ++ after, stretches)
    else
      let place := place + before.length
      let (ended, tags) ← follow tags (position + backslashes) place body
      let (after, stretches) ← styledFrom tags next place rest
      return (before ++ after, ended.toList ++ stretches)

/-- A text without its tags. Its stretches stand in the order in which they begin, and of those that
begin together the one that ends last comes first. -/
def styled (text : String) : Except TagError StyledText := do
  let (plain, stretches) ← styledFrom [] 0 0 (pieces text.toList)
  return ⟨plain, stretches.reverse.mergeSort fun first second => first.start ≤ second.start⟩

def Piece.escaped : Piece → List Char
  | .plain text => text
  | .tag backslashes body =>
    List.replicate (2 * backslashes + 1) '\\' ++ bracketed body

def escaped (text : String) : String :=
  let safe := (pieces text.toList).flatMap Piece.escaped
  let closing := safe.reverse.takeWhile isBackslash
  String.ofList (if closing.length = 1 then safe ++ ['\\'] else safe)

end ModelViews.Markup
