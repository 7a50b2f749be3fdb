import ModelViews.Files.Error
import ModelViews.Keyed
import ModelViews.Text.Utf8
/-!
A tree of files and folders with a current folder. Places are absolute, outermost folder first; the
root is always a folder. A path is followed segment by segment, so that double dots after a file or
after nothing lead nowhere.

A tree has no links, no permissions and no end of space; what these do to a run that publishes,
`Trouble` says, and what links do to a watch, `Watch.Resolver`. Names are texts of characters, without
halves of pairs. The current folder is known by its place: one that is taken away and made again is the
current folder again.
-/
namespace ModelViews

inductive Node where
  | folder
  | file (bytes : List UInt8)
  deriving DecidableEq, Repr

abbrev Place := List String

structure Tree where
  current : Place
  entries : List (Place × Node)
  deriving DecidableEq, Repr

namespace Tree

def node? (tree : Tree) (place : Place) : Option Node :=
  if place.isEmpty then some .folder else tree.entries.lookup place

def put (tree : Tree) (place : Place) (node : Node) : Tree :=
  { tree with entries := Keyed.put place node tree.entries }

/-- Whether a place lies strictly below another. -/
def isBelow (above place : Place) : Bool :=
  above.isPrefixOf place && above.length < place.length

def clear (tree : Tree) (above : Place) : Tree :=
  { tree with entries := tree.entries.filter fun entry => !isBelow above entry.1 }

def erase (tree : Tree) (place : Place) : Tree :=
  { tree with entries := tree.entries.filter fun entry => entry.1 ≠ place }

/-- The longest name and the longest path that files may have, in bytes. -/
def longestName : Nat := 255
def longestPath : Nat := 4095

def follow (tree : Tree) : Place → List String → Except FileFlaw Place
  | here, [] => .ok here
  | here, name :: rest =>
    if name = ".." then follow tree here.dropLast rest
    else if longestName < name.utf8ByteSize then .error .nameTooLong
    else
      match tree.node? (here ++ [name]) with
      | none => .error .missing
      | some .folder => follow tree (here ++ [name]) rest
      | some (.file _) => if rest.isEmpty then .ok (here ++ [name]) else .error .notFolder

def start (tree : Tree) (path : Path) : Place :=
  if path.anchor = .current then tree.current else []

def find (tree : Tree) (path : Path) : Except FileFlaw Place :=
  if longestPath < path.text.utf8ByteSize then .error .nameTooLong
  else follow tree (tree.start path) path.names

/-- The place that the last name of a path has, whether or not something is there. A path without a
name of its own, or with double dots for it, has none. -/
def slot? (tree : Tree) (path : Path) : Option (Except FileFlaw Place) :=
  match path.names.getLast? with
  | none => none
  | some name =>
    if name = ".." then none
    else if longestPath < path.text.utf8ByteSize then some (.error .nameTooLong)
    else
      match follow tree (tree.start path) path.names.dropLast with
      | .error flaw => some (.error flaw)
      | .ok folder =>
        if tree.node? folder ≠ some .folder then some (.error .notFolder)
        else if longestName < name.utf8ByteSize then some (.error .nameTooLong)
        else some (.ok (folder ++ [name]))

/-- Whether a path leads to something. A path that leads nowhere for its length is refused. -/
def holds (tree : Tree) (path : Path) : Except FileError Bool :=
  if path.hasNul then .ok false
  else
    match tree.find path with
    | .ok _ => .ok true
    | .error .nameTooLong => .error (.met .nameTooLong path)
    | .error _ => .ok false

def isFolder (tree : Tree) (path : Path) : Bool :=
  match tree.find path with
  | .ok place => tree.node? place = some .folder
  | .error _ => false

def makeFolder (tree : Tree) (path : Path) : Except FileFlaw Tree :=
  match tree.slot? path with
  | none =>
    match tree.find path with
    | .ok _ => .error .alreadyThere
    | .error flaw => .error flaw
  | some (.error flaw) => .error flaw
  | some (.ok place) =>
    match tree.node? place with
    | none => .ok (tree.put place .folder)
    | some _ => .error .alreadyThere

def ensureFolder (tree : Tree) (path : Path) : Except FileFlaw Tree :=
  match tree.makeFolder path with
  | .ok tree => .ok tree
  | .error flaw => if tree.isFolder path then .ok tree else .error flaw

/-- Makes a folder and the missing ones above it. The names come innermost first. The folders above
stay when the folder itself cannot be made. -/
def makeFoldersFrom (tree : Tree) (anchor : Anchor) : List String → Tree × Option FileError
  | [] =>
    match tree.ensureFolder ⟨anchor, []⟩ with
    | .ok tree => (tree, none)
    | .error flaw => (tree, some (.met flaw ⟨anchor, []⟩))
  | name :: above =>
    let path : Path := ⟨anchor, (name :: above).reverse⟩
    match tree.ensureFolder path with
    | .ok tree => (tree, none)
    | .error .missing =>
      match makeFoldersFrom tree anchor above with
      | (tree, some error) => (tree, some error)
      | (tree, none) =>
        match tree.ensureFolder path with
        | .ok tree => (tree, none)
        | .error flaw => (tree, some (.met flaw path))
    | .error flaw => (tree, some (.met flaw path))

def makeFolders (tree : Tree) (path : Path) : Tree × Option FileError :=
  if path.hasNul then (tree, some .badName)
  else makeFoldersFrom tree path.anchor path.names.reverse

/-- Why an emptied folder cannot be taken away under the path it was named by: the current folder
and the root stay, and double dots have to lead to it still. -/
def removalFlaw? (tree : Tree) (path : Path) : Option FileFlaw :=
  match path.names.getLast? with
  | none => if path.anchor = .current then some .invalidArgument else some .busy
  | some name =>
    match follow tree (tree.start path) path.names.dropLast with
    | .error flaw => some flaw
    | .ok _ => if name = ".." then some .notEmpty else none

/-- Takes a folder away with all that is in it. The folder is emptied first, and what was emptied
stays so when the folder itself cannot be taken away. -/
def remove (tree : Tree) (path : Path) : Tree × Option FileError :=
  match tree.find path with
  | .error flaw => (tree, some (.met flaw path))
  | .ok place =>
    if tree.node? place = some .folder then
      let emptied := tree.clear place
      match emptied.removalFlaw? path with
      | some flaw => (emptied, some (.met flaw path))
      | none => (emptied.erase place, none)
    else (tree, some (.inListing .notFolder path))

def write (tree : Tree) (path : Path) (bytes : List UInt8) : Except FileError Tree :=
  if path.hasNul then .error .badName
  else
    match tree.slot? path with
    | none =>
      match tree.find path with
      | .ok _ => .error (.met .isFolder path)
      | .error flaw => .error (.met flaw path)
    | some (.error flaw) => .error (.met flaw path)
    | some (.ok place) =>
      if tree.node? place = some .folder then .error (.met .isFolder path)
      else .ok (tree.put place (.file bytes))

def read (tree : Tree) (path : Path) : Except FileError (List UInt8) :=
  if path.hasNul then .error .badName
  else
    match tree.find path with
    | .error flaw => .error (.met flaw path)
    | .ok place =>
      match tree.node? place with
      | some (.file bytes) => .ok bytes
      | _ => .error (.met .isFolder path)

end Tree
end ModelViews
