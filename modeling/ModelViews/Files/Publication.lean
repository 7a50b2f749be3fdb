import ModelViews.Files.Tree
import ModelViews.SourceModule

namespace ModelViews

/-- What publishing leaves behind: the files, what was reported, and the paths written, or the error
that ended it. -/
structure Published where
  tree : Tree
  log : List LogEntry
  outcome : Except FileError (List Path)
  deriving Repr

namespace Published

def modulePath (output : Path) (name : String) : Path :=
  Path.within output (Path.ofText (name ++ ".ts"))

def writeAll (tree : Tree) : List (Path × String) → Published
  | [] => ⟨tree, [], .ok []⟩
  | (path, text) :: rest =>
    match tree.write path (Text.Utf8.encode text) with
    | .error error => ⟨tree, [], .error error⟩
    | .ok tree =>
      let others := writeAll tree rest
      ⟨others.tree, .wrote path :: others.log, others.outcome.map (path :: ·)⟩

/-- Fills an empty folder with modules and their barrel. -/
def fill (tree : Tree) (output : Path) (files : List (String × String)) : Published :=
  let modules := writeAll tree (files.map fun (name, text) => (modulePath output name, text))
  match modules.outcome with
  | .error _ => modules
  | .ok paths =>
    let barrel := modulePath output "index"
    match modules.tree.write barrel (Text.Utf8.encode (barrelText (files.map Prod.fst))) with
    | .error error => ⟨modules.tree, modules.log, .error error⟩
    | .ok tree =>
      let written := paths ++ [barrel]
      ⟨tree, modules.log ++ [.published written.length output], .ok written⟩

def vacate (tree : Tree) (output : Path) : Tree × Option FileError :=
  match tree.holds output with
  | .error error => (tree, some error)
  | .ok false => (tree, none)
  | .ok true => tree.remove output

end Published

/-- Replaces the output folder by the modules of a run. -/
def Schemas.publish (schemas : Schemas) (settings : Settings) (tree : Tree) : Published :=
  match Published.vacate tree settings.output with
  | (tree, some error) => ⟨tree, [], .error error⟩
  | (tree, none) =>
    match tree.makeFolders settings.output with
    | (tree, some error) => ⟨tree, [], .error error⟩
    | (tree, none) => Published.fill tree settings.output (schemas.files settings)

end ModelViews
