import ModelViews.Failure
import ModelViews.Files.Tree
/-!
Watching a schema file. A session hears of changed files in batches and calls back once for every
batch that holds the schema file. Starting only readies a session: the folder of the schema is
watched from the first turn of the session on. A session that ended keeps its place until it is
stopped.
-/
namespace ModelViews.Watch

/-- Tells the place that a path leads to, at some time. Where there are links the place depends on
them, and it depends on the current folder. -/
structure Resolver where
  place : Path → Except Failure Place

/-- Where there are no links a path leads to the place that it spells. -/
def Resolver.lexical (current : Place) : Resolver where
  place path := if path.hasNul then .error (.file .badName) else .ok (path.resolve current)

instance : Coe Place Resolver := ⟨.lexical⟩

instance {σ : Type} : Coe Place (σ → Resolver) := ⟨fun current _ => .lexical current⟩

/-- Whether a changed file is the schema file: both paths lead to one place. -/
def isSchema (resolver : Resolver) (schema changed : Path) : Except Failure Bool :=
  match resolver.place changed with
  | .error failure => .error failure
  | .ok place => (resolver.place schema).map fun other => place = other

/-- Whether a batch holds the schema file. Paths after the first that is the schema are not looked
at. -/
def holdsSchema (resolver : Resolver) (schema : Path) : List Path → Except Failure Bool
  | [] => .ok false
  | changed :: rest =>
    match isSchema resolver schema changed with
    | .error failure => .error failure
    | .ok true => .ok true
    | .ok false => holdsSchema resolver schema rest

inductive Task where
  | absent
  | readied
  | alive
  | ended (failure : Option Failure)
  deriving DecidableEq, Repr

/-- What happens to a watcher: it is started or stopped, its session takes its first turn, hears of
changes, or learns that there will be none, with a failure or without. -/
inductive Event where
  | start
  | stop
  | firstTurn
  | changes (paths : List Path)
  | sourceEnds (failure : Option Failure)
  deriving DecidableEq, Repr

/-- What is called back: it changes the surroundings and says whether it failed. -/
abbrev Callback (σ : Type) := Path → σ → σ × Bool

/-- A watcher, the folders that its sessions have watched so far, and its surroundings, which decide
what paths lead to. -/
structure Watcher (σ : Type) where
  schema : Path
  resolver : σ → Resolver
  task : Task
  watched : List Path
  surroundings : σ

structure Stepped (σ : Type) where
  watcher : Watcher σ
  log : List LogEntry
  raised : Option Failure

namespace Watcher

variable {σ : Type}

def quiet (watcher : Watcher σ) : Stepped σ :=
  ⟨watcher, [], none⟩

/-- Others change the surroundings. -/
def amid (watcher : Watcher σ) (change : σ → σ) : Watcher σ :=
  { watcher with surroundings := change watcher.surroundings }

def start (watcher : Watcher σ) : Stepped σ :=
  match watcher.task with
  | .absent => ⟨{ watcher with task := .readied }, [.watching watcher.schema], none⟩
  | _ => watcher.quiet

/-- Lets go of the session. The failure that a session ended with is raised, and the session
stays. -/
def stop (watcher : Watcher σ) : Stepped σ :=
  match watcher.task with
  | .absent => watcher.quiet
  | .ended (some failure) => ⟨watcher, [], some failure⟩
  | _ => ⟨{ watcher with task := .absent }, [.stoppedWatching watcher.schema], none⟩

def firstTurn (watcher : Watcher σ) : Stepped σ :=
  match watcher.task with
  | .readied =>
    ⟨{ watcher with task := .alive, watched := watcher.watched ++ [watcher.schema.parent] }, [], none⟩
  | _ => watcher.quiet

/-- A living session hears of a batch. A failure of the callback is reported and nothing else. -/
def hear (onChange : Callback σ) (watcher : Watcher σ) (paths : List Path) : Stepped σ :=
  match watcher.task with
  | .alive =>
    match holdsSchema (watcher.resolver watcher.surroundings) watcher.schema paths with
    | .error failure => ⟨{ watcher with task := .ended (some failure) }, [], none⟩
    | .ok false => watcher.quiet
    | .ok true =>
      let (surroundings, failed) := onChange watcher.schema watcher.surroundings
      ⟨{ watcher with surroundings := surroundings },
        .changed watcher.schema ::
          if failed then [.regenerationFailed watcher.schema] else [], none⟩
  | _ => watcher.quiet

def finish (watcher : Watcher σ) (failure : Option Failure) : Stepped σ :=
  match watcher.task with
  | .alive => ⟨{ watcher with task := .ended failure }, [], none⟩
  | _ => watcher.quiet

def step (onChange : Callback σ) (watcher : Watcher σ) : Event → Stepped σ
  | .start => watcher.start
  | .stop => watcher.stop
  | .firstTurn => watcher.firstTurn
  | .changes paths => watcher.hear onChange paths
  | .sourceEnds failure => watcher.finish failure

/-- Takes events in order. The failure raised is that of the last event that raised one. -/
def run (onChange : Callback σ) (watcher : Watcher σ) : List Event → Stepped σ
  | [] => watcher.quiet
  | event :: events =>
    let first := watcher.step onChange event
    let others := run onChange first.watcher events
    ⟨others.watcher, first.log ++ others.log, others.raised.or first.raised⟩

def wait (onChange : Callback σ) (watcher : Watcher σ) (meanwhile : List Event) : Stepped σ :=
  let after := watcher.run onChange (.firstTurn :: meanwhile ++ [.sourceEnds none])
  match after.watcher.task with
  | .ended failure => { after with raised := failure }
  | _ => { after with raised := none }

end Watcher
end ModelViews.Watch
