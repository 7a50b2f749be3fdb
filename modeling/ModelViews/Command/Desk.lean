import ModelViews.Console.Screen
import ModelViews.Failure
import ModelViews.Files.Tree

namespace ModelViews.Command

/-- How a command ends: well, with a complaint on the screen, with help or a hint at the usage, or
with a failure that it does not handle. -/
inductive Ending where
  | done
  | complained
  | helped
  | misused
  | raised (failure : Failure)
  deriving DecidableEq, Repr

namespace Ending

def exitCode : Ending → Nat
  | done => 0
  | complained => 1
  | helped => 0
  | misused => 2
  | raised _ => 1

def failure? : Ending → Option Failure
  | raised failure => some failure
  | _ => none

def isUsage : Ending → Bool
  | helped | misused => true
  | _ => false

end Ending

/-- The files and the screen while a command runs, and the limits of its reader. -/
structure Desk where
  tree : Tree
  screen : String
  limits : Json.Limits := .standard
  deriving Repr

namespace Desk

def write (desk : Desk) (text : String) : Desk :=
  { desk with screen := desk.screen ++ text }

end Desk

structure Ran where
  desk : Desk
  ending : Ending
  answers : List String := []
  deriving Repr

def put (print : Screen.Print) (desk : Desk) : Desk × Option Failure :=
  (desk.write print.text, print.fault.map .screen)

def complaint (failure : Failure) : Screen.Print :=
  .styled ("[red]Error:[/red] " ++ Markup.escaped failure.message)

def annotationComplaint (error : AnnotationError) : Screen.Print :=
  .styled ("[red]Invalid annotation:[/red] " ++ Markup.escaped (Text.trimmed error.line))

def finish (ending : Ending) : Desk × Option Failure → Ran
  | (desk, none) => ⟨desk, ending, []⟩
  | (desk, some failure) => ⟨desk, .raised failure, []⟩

/-- Ends a command on a failure: with a complaint if the failure lies in what the user wrote. -/
def conclude (failure : Failure) (desk : Desk) : Ran :=
  match failure with
  | .directive error => finish .complained (put (annotationComplaint error) desk)
  | failure =>
    if failure.isReported then finish .complained (put (complaint failure) desk)
    else ⟨desk, .raised failure, []⟩

end ModelViews.Command
