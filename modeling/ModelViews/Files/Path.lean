import ModelViews.Text.Search
/-!
Paths as they are spelled. Segments that say nothing, empty ones and single dots, are dropped when a
path is read; double dots are kept, since what they lead to depends on the files.
-/
namespace ModelViews

inductive Anchor where
  | current | root | doubled
  deriving DecidableEq, Repr

namespace Anchor

def text : Anchor → String
  | current => ""
  | root => "/"
  | doubled => "//"

def ofText : List Char → Anchor
  | '/' :: '/' :: '/' :: _ => root
  | '/' :: '/' :: _ => doubled
  | '/' :: _ => root
  | _ => current

end Anchor

structure Path where
  anchor : Anchor
  names : List String
  deriving DecidableEq, Repr

namespace Path

def ofText (text : String) : Path where
  anchor := Anchor.ofText text.toList
  names := (Text.pieces '/' text).filter fun name => name != "" && name != "."

def text (path : Path) : String :=
  if path.anchor = .current ∧ path.names = [] then "."
  else path.anchor.text ++ "/".intercalate path.names

def parent (path : Path) : Path :=
  { path with names := path.names.dropLast }

/-- A path seen from a folder. One that does not begin at the current folder stays as it is. -/
def within (folder path : Path) : Path :=
  if path.anchor = .current then { folder with names := folder.names ++ path.names } else path

def hasNul (path : Path) : Bool :=
  path.names.any fun name => name.toList.contains (Char.ofNat 0)

/-- The absolute place that a path spells, double dots taken for the place above. -/
def resolve (current : List String) (path : Path) : List String :=
  let start := if path.anchor = .current then current else []
  path.names.foldl (fun place name => if name = ".." then place.dropLast else place ++ [name]) start

end Path
end ModelViews
