import ModelViews.Failure
import ModelViews.Files.Publication

namespace ModelViews

def lineFeeds : List Char → List Char
  | [] => []
  | '\r' :: '\n' :: rest => '\n' :: lineFeeds rest
  | '\r' :: rest => '\n' :: lineFeeds rest
  | c :: rest => c :: lineFeeds rest

/-- The data model of the document in a file. A file that is not there is named as it was asked
for. -/
def Tree.loadDatamodel (tree : Tree) (schema : String) (limits : Json.Limits := .standard) :
    Except Failure Datamodel :=
  match tree.read (Path.ofText schema) with
  | .error error => .error (if error.isMissing then .noSchema schema else .file error)
  | .ok bytes =>
    match Text.Utf8.decode bytes with
    | .error fault => .error (.encoding fault)
    | .ok text =>
      match Json.parseWithin limits (String.ofList (lineFeeds text.toList)) with
      | .error error => .error (.unreadable error)
      | .ok document => (Datamodel.ofDocument document).mapError .document

structure Generated where
  tree : Tree
  log : List LogEntry
  outcome : Except Failure (Schemas × List Path)
  deriving Repr

def Datamodel.generate (datamodel : Datamodel) (settings : Settings) (tree : Tree) : Generated :=
  let compiled := datamodel.compile settings
  match compiled.outcome with
  | .error error => ⟨tree, compiled.log, .error (.directive error)⟩
  | .ok schemas =>
    let published := schemas.publish settings tree
    ⟨published.tree, compiled.log ++ published.log,
      match published.outcome with
      | .error error => .error (.file error)
      | .ok paths => .ok (schemas, paths)⟩

def Tree.generate (tree : Tree) (schema : Path) (settings : Settings)
    (limits : Json.Limits := .standard) : Generated :=
  match tree.loadDatamodel schema.text limits with
  | .error failure => ⟨tree, [], .error failure⟩
  | .ok datamodel => datamodel.generate settings tree

end ModelViews
