import ModelViews.Console.Color
import ModelViews.Keyed
import ModelViews.Text.Blank
import ModelViews.Text.LowerCase

namespace ModelViews

open Number

inductive Effect where
  | bold | dim | italic | underline | blink | blink2 | reverse | conceal | strike | underline2
  | frame | encircle | overline
  deriving DecidableEq, Repr

namespace Effect

def all : List Effect :=
  [bold, dim, italic, underline, blink, blink2, reverse, conceal, strike, underline2, frame,
   encircle, overline]

def name : Effect → String
  | bold => "bold"
  | dim => "dim"
  | italic => "italic"
  | underline => "underline"
  | blink => "blink"
  | blink2 => "blink2"
  | reverse => "reverse"
  | conceal => "conceal"
  | strike => "strike"
  | underline2 => "underline2"
  | frame => "frame"
  | encircle => "encircle"
  | overline => "overline"

def shortName? : Effect → Option String
  | bold => some "b"
  | dim => some "d"
  | italic => some "i"
  | underline => some "u"
  | reverse => some "r"
  | conceal => some "c"
  | strike => some "s"
  | underline2 => some "uu"
  | overline => some "o"
  | _ => none

def ofName? (name : String) : Option Effect :=
  all.find? fun effect => effect.name = name || effect.shortName? = some name

end Effect

structure Style where
  effects : List (Effect × Bool) := []
  color : Option String := none
  background : Option String := none
  link : Option String := none
  deriving DecidableEq, Repr

namespace Style

inductive Fault where
  | unknown
  | number (error : DigitsError)
  deriving DecidableEq, Repr

def lowerCase (word : String) : String :=
  String.ofList (Text.lower word.toList)

def colorName (word : String) : Except Fault String :=
  match Color.isColor (lowerCase word).toList with
  | .error error => .error (.number error)
  | .ok false => .error .unknown
  | .ok true => .ok (lowerCase word)

def withEffect (style : Style) (effect : Effect) (isOn : Bool) : Style :=
  { style with effects := Keyed.put effect isOn style.effects }

def read (style : Style) : List String → Except Fault Style
  | [] => .ok style
  | word :: rest =>
    match lowerCase word, rest with
    | "on", word :: rest => do
      read { style with background := some (← colorName word) } rest
    | "not", word :: rest =>
      match Effect.ofName? word with
      | some effect => read (style.withEffect effect false) rest
      | none => .error .unknown
    | "link", address :: rest => read { style with link := some address } rest
    | word, rest =>
      match Effect.ofName? word with
      | some effect => read (style.withEffect effect true) rest
      | none => do read { style with color := some (← colorName word) } rest

def effectWords (style : Style) (effect : Effect) : List String :=
  match style.effects.lookup effect with
  | some true => [effect.name]
  | some false => ["not", effect.name]
  | none => []

def words (style : Style) : List String :=
  Effect.all.flatMap style.effectWords ++ style.color.toList ++
    (style.background.map (["on", ·])).getD [] ++ (style.link.map (["link", ·])).getD []

def name (style : Style) : String :=
  if style.words.isEmpty then "none" else " ".intercalate style.words

/-- The normal name of the style that a text writes, or the text in lower case if it writes none. A
text without words and the word `none` write the style that has nothing. -/
def normalName (text : List Char) : Except DigitsError String :=
  let words := Text.words (String.ofList text)
  if words = ["none"] then .ok "none"
  else
    match read {} words with
    | .ok style => .ok style.name
    | .error .unknown => .ok (String.ofList (Text.lower (Text.trim text)))
    | .error (.number error) => .error error

def numberError? (words : String) : Option DigitsError :=
  match read {} (Text.words words) with
  | .error (.number error) => some error
  | _ => none

end Style
end ModelViews
