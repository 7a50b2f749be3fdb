namespace ModelViews

/-- A pattern: a character of a class, a place between two characters, one pattern after another,
one or another, a run of characters of a class as long or as short as it can be, a pattern that is
repeated as often as it can be, and a pattern whose stretch is noted. -/
inductive Pattern where
  | one (accepts : Char → Bool)
  | place (holds : Option Char → Option Char → Bool)
  | both (first second : Pattern)
  | either (first second : Pattern)
  | longest (least : Nat) (most : Option Nat) (accepts : Char → Bool)
  | shortest (least : Nat) (accepts : Char → Bool)
  | repeated (most : Option Nat) (body : Pattern)
  | noted (body : Pattern)

namespace Pattern

instance : Append Pattern :=
  ⟨both⟩

instance : OrElse Pattern :=
  ⟨fun first second => either first (second ())⟩

/-- How far a match has come: the character before it, its place, the text after it, and the
stretches that are noted, the last one first. -/
structure Progress where
  before : Option Char
  reached : Nat
  rest : List Char
  stretches : List (Nat × Nat)
  deriving DecidableEq, Repr

abbrev Matcher := Progress → (Progress → Option Progress) → Option Progress

namespace Progress

def start (text : List Char) : Progress :=
  ⟨none, 0, text, []⟩

def step? (accepts : Char → Bool) (progress : Progress) : Option Progress :=
  match progress.rest with
  | [] => none
  | c :: rest =>
    if accepts c then some { progress with before := some c, reached := progress.reached + 1, rest }
    else none

def run (accepts : Char → Bool) : Nat → Progress → List Progress → List Progress
  | 0, progress, passed => progress :: passed
  | most + 1, progress, passed =>
    match progress.step? accepts with
    | some next => run accepts most next (progress :: passed)
    | none => progress :: passed

def creep (accepts : Char → Bool) (rest : Progress → Option Progress) :
    Nat → Nat → Progress → Option Progress
  | 0, _, _ => none
  | bound + 1, missing, progress =>
    match if missing = 0 then rest progress else none with
    | some done => some done
    | none =>
      match progress.step? accepts with
      | some next => creep accepts rest bound (missing - 1) next
      | none => none

end Progress

def repeatMatch (body : Matcher) : Nat → Matcher
  | 0, progress, rest => rest progress
  | most + 1, progress, rest =>
    let again := fun next =>
      if progress.reached < next.reached then repeatMatch body most next rest else none
    match body progress again with
    | some done => some done
    | none => rest progress

def matcher (bound : Nat) : Pattern → Matcher
  | one accepts => fun progress rest => (progress.step? accepts).bind rest
  | place holds => fun progress rest =>
    if holds progress.before progress.rest.head? then rest progress else none
  | both first second => fun progress rest =>
    matcher bound first progress fun next => matcher bound second next rest
  | either first second => fun progress rest =>
    match matcher bound first progress rest with
    | some done => some done
    | none => matcher bound second progress rest
  | longest least most accepts => fun progress rest =>
    ((progress.run accepts (most.getD bound) []).takeWhile
      (progress.reached + least ≤ ·.reached)).findSome? rest
  | shortest least accepts => fun progress rest => progress.creep accepts rest bound least
  | repeated most body => repeatMatch (matcher bound body) (most.getD bound)
  | noted body => fun progress rest =>
    matcher bound body progress fun next =>
      rest { next with stretches := (progress.reached, next.reached) :: next.stretches }

def stretchesFrom (find : Progress → Option Progress) : Nat → Progress → List (Nat × Nat)
  | 0, _ => []
  | bound + 1, progress =>
    let fresh := { progress with stretches := [] }
    match (find fresh).filter (progress.reached < ·.reached) with
    | some next => next.stretches ++ stretchesFrom find bound next
    | none =>
      match progress.step? fun _ => true with
      | some next => stretchesFrom find bound next
      | none => []

def stretches (pattern : Pattern) (text : List Char) : List (Nat × Nat) :=
  let bound := text.length + 1
  stretchesFrom (fun progress => pattern.matcher bound progress some) bound (Progress.start text)

def empty : Pattern :=
  place fun _ _ => true

def char (c : Char) : Pattern :=
  one (· == c)

def exactly (text : String) : Pattern :=
  text.toList.foldr (fun c rest => char c ++ rest) empty

def perhaps (body : Pattern) : Pattern :=
  repeated (some 1) body

def times (body : Pattern) : Nat → Pattern
  | 0 => empty
  | count + 1 => body ++ times body count

def notAfter (accepts : Char → Bool) : Pattern :=
  place fun before _ => !before.any accepts

def edge (accepts : Char → Bool) : Pattern :=
  place fun before after => before.any accepts != after.any accepts

def inside (accepts : Char → Bool) : Pattern :=
  place fun before after => before.any accepts == after.any accepts

end Pattern
end ModelViews
