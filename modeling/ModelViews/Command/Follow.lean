import ModelViews.Command.Generate
import ModelViews.Watch

namespace ModelViews.Command

/-- What happens during a watch: somebody edits a file, changes are reported, the reports fail, or
the user interrupts. -/
inductive Happening where
  | edited (change : Tree → Tree)
  | changed (paths : List Path)
  | failed (failure : Failure)
  | interrupted

def regenerate (settings : Settings) : Watch.Callback Desk := fun schema desk =>
  match generateOnce schema settings desk with
  | (desk, none) => (desk, false)
  | (desk, some failure) =>
    if failure.isReported then
      let (desk, fault) := put (complaint failure) desk
      (desk, fault.isSome)
    else (desk, true)

def concludeWatch (watcher : Watch.Watcher Desk) : Ran :=
  match watcher.task with
  | .ended (some failure) => ⟨watcher.surroundings, .raised failure, []⟩
  | _ => ⟨watcher.surroundings, .done, []⟩

def attend (settings : Settings) (watcher : Watch.Watcher Desk) : List Happening → Ran
  | [] => concludeWatch watcher
  | .edited change :: rest =>
    attend settings (watcher.amid fun desk => { desk with tree := change desk.tree }) rest
  | .changed paths :: rest =>
    let watcher := (watcher.hear (regenerate settings) paths).watcher
    match watcher.task with
    | .alive => attend settings watcher rest
    | _ => concludeWatch watcher
  | .failed failure :: _ => concludeWatch (watcher.finish (some failure)).watcher
  | .interrupted :: _ => finish .done (put (.styled "Stopped.") watcher.surroundings)

def watchingText (schema : Path) : String :=
  "[green]Watching[/green] " ++ schema.text ++ " (Ctrl+C to stop)"

def openWatch (schema : Path) (desk : Desk) : Watch.Watcher Desk :=
  let watcher : Watch.Watcher Desk :=
    ⟨schema, fun desk => .lexical desk.tree.current, .absent, [], desk⟩
  watcher.start.watcher.firstTurn.watcher

def watch (schema : Path) (settings : Settings) (desk : Desk) (happenings : List Happening) : Ran :=
  match put (.styled (watchingText schema)) desk with
  | (desk, some failure) => ⟨desk, .raised failure, []⟩
  | (desk, none) => attend settings (openWatch schema desk) happenings

/-- Settings that cannot be resolved are not handled; what goes wrong after that ends in a complaint
where it lies in what the user wrote. -/
def generate (request : GenerateRequest) (desk : Desk) (happenings : List Happening) : Ran :=
  match request.settings with
  | .error error => ⟨desk, .raised (.settings error), []⟩
  | .ok settings =>
    match generateOnce request.schema settings desk with
    | (desk, some failure) => conclude failure desk
    | (desk, none) =>
      if request.watch then watch request.schema settings desk happenings else ⟨desk, .done, []⟩

end ModelViews.Command
