import ModelViews.Generation
import ModelViews.Json.Notation
import ModelViews.Json.Writer
/-!
Requests to a generator and their answers. A request names a method; the generator tells what it
is, or compiles and publishes a data model. What a generator works on and how it may fail is left
open; the generator of the program works on a tree of files.
-/
namespace ModelViews.Service

structure Run (σ ε : Type) where
  state : σ
  log : List LogEntry
  outcome : Except ε Unit

/-- What runs on the parameters of a request. -/
abbrev Generator (σ ε : Type) := Wire → σ → Run σ ε

class Told (ε : Type) where
  message : ε → CodeText

instance : Told Failure := ⟨fun failure => failure.message⟩

def manifest : Wire :=
  .obj [("defaultOutput", .str Settings.defaultOutput), ("prettyName", .str "prisma-arktype")]

/-- Why a request has no result. -/
inductive Refusal (ε : Type) where
  | notJson (error : Json.SyntaxError)
  | notAnObject
  | unknownMethod (method : Wire)
  | failed (failure : ε)

/-- The answer to a request, under the identity that the request gave itself. -/
structure Answer (ε : Type) where
  id : Wire
  outcome : Except (Refusal ε) Wire

structure Handled (σ ε : Type) where
  state : σ
  log : List LogEntry
  answer : Answer ε

variable {σ ε : Type}

namespace Refusal

def code : Refusal ε → Int
  | notJson _ => -32700
  | notAnObject => -32600
  | unknownMethod _ => -32601
  | failed _ => -32000

def message [Told ε] : Refusal ε → CodeText
  | notJson error => ("Parse error: " ++ error.message : String)
  | notAnObject => "Request must be a JSON object"
  | unknownMethod method => ("Method not found: " : CodeText) ++ method.message
  | failed failure => Told.message failure

end Refusal

def Answer.json [Told ε] (answer : Answer ε) : Wire :=
  .obj [("jsonrpc", .str "2.0"), ("id", answer.id),
    match answer.outcome with
    | .ok result => ("result", result)
    | .error refusal =>
      ("error", .obj [("code", .int refusal.code), ("message", .str refusal.message)])]

/-- A member of a request. One that is not there is null. -/
def given (name : CodeText) (members : List (CodeText × Wire)) : Wire :=
  (members.lookup name).getD .null

def identityOf (members : List (CodeText × Wire)) : Wire :=
  given "id" members

def methodOf (members : List (CodeText × Wire)) : Wire :=
  given "method" members

def paramsOf (members : List (CodeText × Wire)) : Wire :=
  (given "params" members).orEmpty

inductive Method where
  | getManifest
  | generate
  deriving DecidableEq, Repr

def Method.name : Method → String
  | getManifest => "getManifest"
  | generate => "generate"

def Method.named? : Wire → Option Method
  | .str text => [getManifest, generate].find? fun method => text = method.name
  | _ => none

def handle (generator : Generator σ ε) (members : List (CodeText × Wire)) (state : σ) :
    Handled σ ε :=
  let id := identityOf members
  match Method.named? (methodOf members) with
  | some .getManifest => ⟨state, [], ⟨id, .ok (.obj [("manifest", manifest)])⟩⟩
  | some .generate =>
    let run := generator (paramsOf members) state
    match run.outcome with
    | .error failure => ⟨run.state, run.log ++ [.generationFailed], ⟨id, .error (.failed failure)⟩⟩
    | .ok _ => ⟨run.state, run.log, ⟨id, .ok .null⟩⟩
  | none => ⟨state, [], ⟨id, .error (.unknownMethod (methodOf members))⟩⟩

/-- Answers a line of input that is read within the limits of a reader. A line that is written well
and is not read for what it holds has no answer. -/
def handleLine (generator : Generator σ ε) (limits : Json.Limits) (line : String) (state : σ) :
    Except Failure (Handled σ ε) :=
  match Json.readWithin limits line with
  | .error (.malformed error) =>
    .ok ⟨state, [.malformedRequest error.message], ⟨.null, .error (.notJson error)⟩⟩
  | .error error => .error (.unreadable error)
  | .ok (.obj members) => .ok (handle generator members state)
  | .ok _ => .ok ⟨state, [], ⟨.null, .error .notAnObject⟩⟩

/-! The generator of the program. -/

def memberOf (name : String) : Json → Except Failure Json
  | .obj members => .ok ((members.lookup name).getD .null)
  | value => .error (.noMembers value.kindName)

/-- The settings that the parameters of a request choose: the options of the generator, and the
output that is named beside them. -/
def settings (params : Json) : Except Failure Settings := do
  let generator := (← memberOf "generator" params).orEmpty
  let output ← memberOf "value" (← memberOf "output" generator).orEmpty
  let options := (← memberOf "config" generator).orEmpty
  let output := match output with
    | .null => none
    | value => some value
  (Settings.resolve options output).mapError .settings

def datamodel (params : Json) : Except Failure Datamodel := do
  let document := (← memberOf "dmmf" params).orEmpty
  (Datamodel.ofDocument document).mapError .document

def inputs (params : Json) : Except Failure (Settings × Datamodel) := do
  let settings ← settings params
  let datamodel ← datamodel params
  return (settings, datamodel)

def generate (params : Json) (tree : Tree) : Generated :=
  match inputs params with
  | .error failure => ⟨tree, [], .error failure⟩
  | .ok (settings, datamodel) => datamodel.generate settings tree

def publisher : Generator Tree Failure := fun params tree =>
  let generated := generate params.plain tree
  ⟨generated.tree, generated.log, generated.outcome.map fun _ => ()⟩

end ModelViews.Service
