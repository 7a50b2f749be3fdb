import ModelViews.Command.Run
/-!
The program: it takes from the file system what a command looks at, runs the command, and carries
out what the command changed.
-/
namespace ModelViews.Program

def placeText (place : Place) : String :=
  "/" ++ "/".intercalate place

def nodeAt (place : Place) : IO (Option Node) := do
  try
    let here ← IO.FS.realPath (placeText place)
    if ← here.isDir then return some .folder
    return some (.file (← IO.FS.readBinFile here).toList)
  catch _ => return none

/-- A place with all that is below it, folders before what is in them. -/
partial def nodesFrom (place : Place) : IO (List (Place × Node)) := do
  match ← nodeAt place with
  | none => return []
  | some (.file bytes) => return [(place, .file bytes)]
  | some .folder =>
    let mut found := [(place, Node.folder)]
    for entry in ← (← IO.FS.realPath (placeText place)).readDir do
      found := found ++ (← nodesFrom (place ++ [entry.fileName]))
    return found

def nodesAbove (place : Place) : IO (List (Place × Node)) := do
  let mut found := []
  for depth in List.range place.length do
    let above := place.take (depth + 1)
    if let some node ← nodeAt above then found := found ++ [(above, node)]
  return found

structure Reach where
  read : List Path := []
  replaced : List Path := []

def snapshot (current : Place) (reach : Reach) : IO Tree := do
  let mut entries ← nodesAbove current
  for path in reach.read ++ reach.replaced do
    entries := entries ++ (← nodesAbove (path.resolve current))
  for path in reach.replaced do
    entries := entries ++ (← nodesFrom (path.resolve current))
  return ⟨current, Keyed.ofPairs entries⟩

def carryOut (before after : Tree) : IO Unit := do
  for (place, node) in before.entries.mergeSort fun a b => b.1.length ≤ a.1.length do
    if (after.node? place).isNone then
      match node with
      | .folder => IO.FS.removeDir (placeText place)
      | .file _ => IO.FS.removeFile (placeText place)
  for (place, node) in after.entries do
    if before.node? place ≠ some node then
      match node with
      | .folder => IO.FS.createDirAll (placeText place)
      | .file bytes => IO.FS.writeBinFile (placeText place) ⟨bytes.toArray⟩

def reachOf : Command.Invocation → Reach
  | .generate request => { read := [request.schema], replaced := [Path.ofText request.output] }
  | .inspect request => { read := [request.schema] }
  | _ => {}

def reachOfRequest (line : String) : Reach :=
  match Json.parse line with
  | .error _ => {}
  | .ok request =>
    match Service.settings ((request.member? "params").getD .null).orEmpty with
    | .error _ => {}
    | .ok settings => { replaced := [settings.output] }

/-- Answers requests as they come in, up to one that cannot be answered. -/
partial def serve (current : Place) (input output : IO.FS.Stream) : IO Command.Ending := do
  let line ← input.getLine
  if line.isEmpty then return .done
  let before ← snapshot current (reachOfRequest line)
  let served := Service.serve (String.ofList (lineFeeds line.toList)) before
  carryOut before served.tree
  for answer in served.lines do
    output.putStr (answer ++ "\n")
    output.flush
  match served.failure with
  | none => serve current input output
  | some failure =>
    output.putStr (failure.message ++ "\n")
    return .raised failure

def display (screen : String) : IO Unit := do
  IO.print screen
  (← IO.getStdout).flush

/-- Looks for edits of the schema and generates anew after each. -/
partial def attend (request : Command.GenerateRequest) (settings : Settings) (seen : Option Node)
    (watcher : Watch.Watcher Command.Desk) : IO Unit := do
  IO.sleep 500
  let current := watcher.surroundings.tree.current
  let now ← nodeAt (request.schema.resolve current)
  if now = seen || now.isNone then attend request settings seen watcher
  else
    let before ← snapshot current (reachOf (.generate request))
    let watcher := watcher.amid fun desk => { desk with tree := before, screen := "" }
    let heard := (watcher.hear (Command.regenerate settings) [request.schema]).watcher
    carryOut before heard.surroundings.tree
    display heard.surroundings.screen
    attend request settings now heard

def usage : String :=
  "generate SCHEMA [--output DIR] [--import-name NAME] [--ignore-key KEY]... [--watch]\n" ++
  "inspect SCHEMA --model NAME [--view VIEW]\n" ++
  "generator\n"

def runOnce (current : Place) (invocation : Command.Invocation) : IO Command.Ran := do
  let before ← snapshot current (reachOf invocation)
  let ran := invocation.run before "" []
  carryOut before ran.desk.tree
  display ran.desk.screen
  if ran.ending.isUsage then IO.eprint usage
  if let some failure := ran.ending.failure? then IO.eprintln failure.message
  return ran

def run (current : Place) (arguments : List String) : IO UInt32 := do
  match Command.Invocation.ofArguments arguments with
  | .serve =>
    let ending ← serve current (← IO.getStdin) (← IO.getStderr)
    return UInt32.ofNat ending.exitCode
  | invocation =>
    let ran ← runOnce current invocation
    if let .generate request := invocation then
      if let .ok settings := request.settings then
        if request.watch && ran.ending = .done then
          let seen ← nodeAt (request.schema.resolve current)
          attend request settings seen (Command.openWatch request.schema ran.desk)
    return UInt32.ofNat ran.ending.exitCode

end ModelViews.Program

def main (arguments : List String) : IO UInt32 := do
  let folder ← IO.currentDir
  ModelViews.Program.run (ModelViews.Path.ofText folder.toString).names arguments
