import ModelViews.Console.Arguments.Node
import ModelViews.Console.Arguments.Template
import Std.Data.HashMap

namespace ModelViews.Arguments

inductive Rule where
  | expression
  | starExpression
  | disjunction
  | conjunction
  | inversion
  | bitOr
  | bitXor
  | bitAnd
  | shift
  | sum
  | term
  | factor
  | operand
  | primary
  | texts
  | arguments
  | misplacedAssignment
  | target
  | bareTarget
  | targetOwner
  deriving DecidableEq, Hashable, Repr

/-- What readers go by: the tokens, whether it is looked closer at what is wrong, how many readers may
still be inside each other, and the level of the text. -/
structure Setting where
  tokens : Array Placed
  hints : Bool
  room : Nat
  level : Level

/-- How far reading has come: the place, the furthest place that was looked at, and what is
remembered, with the place after it if it was found. -/
structure Progress where
  place : Nat
  furthest : Nat
  known : Std.HashMap (Rule × Nat) (Option (Node × Nat))

inductive Outcome (α : Type) where
  | found (value : α)
  | missed
  | flawed (flaw : Flaw)

def Reader (α : Type) : Type :=
  Setting → Progress → Outcome α × Progress

namespace Reader

def bind {α β : Type} (reader : Reader α) (next : α → Reader β) : Reader β := fun setting progress =>
  match reader setting progress with
  | (.found value, progress) => next value setting progress
  | (.missed, progress) => (.missed, progress)
  | (.flawed flaw, progress) => (.flawed flaw, progress)

instance : Monad Reader where
  pure value _ progress := (.found value, progress)
  bind := bind

def miss {α : Type} : Reader α := fun _ progress =>
  (.missed, progress)

def stopAt {α : Type} (flaw : Flaw) : Reader α := fun setting progress =>
  (.flawed (setting.level.report flaw), progress)

def giveUp {α : Type} : Reader α := fun _ progress =>
  (.flawed .tooDeep, progress)

def nest {α : Type} (count : Nat) (reader : Reader α) : Reader α := fun setting progress =>
  if setting.room < count then giveUp setting progress
  else reader { setting with room := setting.room - count } progress

def orElse {α : Type} (first : Reader α) (second : Unit → Reader α) : Reader α :=
  fun setting progress =>
    let place := progress.place
    match first setting progress with
    | (.missed, progress) => second () setting { progress with place }
    | result => result

instance {α : Type} : OrElse (Reader α) :=
  ⟨orElse⟩

def maybe {α : Type} (reader : Reader α) : Reader (Option α) :=
  orElse (do return some (← reader)) fun _ => pure none

def sees {α : Type} (reader : Reader α) : Reader Bool := fun setting progress =>
  let place := progress.place
  match reader setting progress with
  | (.found _, progress) => (.found true, { progress with place })
  | (.missed, progress) => (.found false, { progress with place })
  | (.flawed flaw, progress) => (.flawed flaw, progress)

def before {α : Type} (reader : Reader α) : Reader Unit := do
  if ← sees reader then pure () else miss

def notBefore {α : Type} (reader : Reader α) : Reader Unit := do
  if ← sees reader then miss else pure ()

def hint {α : Type} (reader : Reader α) : Reader α := fun setting progress =>
  if setting.hints then reader setting progress else (.missed, progress)

def withoutHints {α : Type} (reader : Reader α) : Reader α := fun setting =>
  reader { setting with hints := false }

def growFor {α : Type} (step : α → Reader α) : Nat → α → Reader α
  | 0, value => pure value
  | bound + 1, value => do
    match ← maybe (step value) with
    | some value => growFor step bound value
    | none => pure value

/-- Goes on from a value with a step as often as the step finds something. Every step has to read a
token, so that there are not more steps than tokens. -/
def grow {α : Type} (step : α → Reader α) (value : α) : Reader α := fun setting =>
  growFor step setting.tokens.size value setting

def many {α : Type} (reader : Reader α) : Reader (List α) := nest 1 do
  let found ← grow (fun (found : List α) => do return (← reader) :: found) []
  return found.reverse

def many1 {α : Type} (reader : Reader α) : Reader (List α) := do
  return (← nest 1 reader) :: (← many reader)

def peek : Reader Placed := fun setting progress =>
  let placed := setting.tokens.getD progress.place ⟨.stop, 0, [], true⟩
  let progress := { progress with furthest := max progress.furthest progress.place }
  match placed.token with
  | .broken flaw isFirm =>
    (.flawed (if isFirm then flaw else setting.level.report flaw), progress)
  | _ => (.found placed, progress)

def advance : Reader Unit := fun _ progress =>
  (.found (), { progress with place := progress.place + 1 })

def take {α : Type} (accept : Token → Option α) : Reader α := do
  match accept (← peek).token with
  | some value => do
    advance
    return value
  | none => miss

def token (token : Token) : Reader Unit :=
  take fun other => if other = token then some () else none

def sign (sign : String) : Reader Unit :=
  token (.sign sign)

def word (word : String) : Reader Unit :=
  token (.word word)

def signOf (signs : List String) : Reader String :=
  take fun
    | .sign sign => if signs.contains sign then some sign else none
    | _ => none

def name : Reader String :=
  take fun
    | .name name => some name
    | _ => none

def constant : Reader String :=
  take fun
    | .word word => if ["True", "False", "None"].contains word then some word else none
    | _ => none

def text : Reader Quoted :=
  take fun
    | .text text => some text
    | _ => none

def numeral : Reader Numeral :=
  take fun
    | .number numeral => some numeral
    | _ => none

def row {α : Type} (reader : Reader α) : Reader (List α) := nest 1 do
  return (← reader) :: (← many do
    sign ","
    reader)

def isOutside : Reader Bool := fun setting progress =>
  (.found (setting.tokens[progress.place - 1]?.any (·.opened.isEmpty)), progress)

def remember (rule : Rule) (reader : Reader Node) : Reader Node := nest 1 fun setting progress =>
  let place := progress.place
  match progress.known[(rule, place)]? with
  | some (some (node, after)) => (.found node, { progress with place := after })
  | some none => (.missed, progress)
  | none =>
    match reader setting progress with
    | (.found node, ⟨after, furthest, known⟩) =>
      (.found node, ⟨after, furthest, known.insert (rule, place) (some (node, after))⟩)
    | (.missed, ⟨_, furthest, known⟩) =>
      (.missed, ⟨place, furthest, known.insert (rule, place) none⟩)
    | result => result

end Reader
end ModelViews.Arguments
