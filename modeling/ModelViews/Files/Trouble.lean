import ModelViews.Files.Publication
/-!
Publishing where more can go wrong than the tree of files tells: a permission, a full disk, a text
that cannot be encoded, a signal. Such a trouble comes at one step of a run and stops it there.
-/
namespace ModelViews

/-- Where a trouble comes: while the output is looked for; while the output folder is cleared, when
some of what was below it is gone; while folders are made, when the outermost of them are there; and
while a file is written, counted from the first, which holds some bytes if it was opened. -/
inductive Trouble where
  | looking
  | clearing (gone : Place → Bool)
  | making (made : Nat)
  | writing (number : Nat) (held : Option (List UInt8))

namespace Trouble

end Trouble

/-- What ends a run before its end: an error that the tree of files explains, or a trouble. -/
inductive Halt where
  | refused (error : FileError)
  | troubled
  deriving DecidableEq, Repr

structure Disturbed where
  tree : Tree
  log : List LogEntry
  outcome : Except Halt (List Path)

def Published.disturbed (published : Published) : Disturbed :=
  ⟨published.tree, published.log, published.outcome.mapError .refused⟩

def Tree.lose (tree : Tree) (above : Place) (gone : Place → Bool) : Tree :=
  { tree with entries := tree.entries.filter fun entry => !(isBelow above entry.1 && gone entry.1) }

namespace Published

/-- Whether a run clears its output folder before it writes: the path of the folder leads to one. -/
def Empties (tree : Tree) (output : Path) : Prop :=
  output.hasNul = false ∧ tree.isFolder output = true

instance (tree : Tree) (output : Path) : Decidable (Empties tree output) :=
  inferInstanceAs (Decidable (_ ∧ _))

def vacateUnder (trouble : Option Trouble) (tree : Tree) (output : Path) : Tree × Option Halt :=
  let calm := vacate tree output
  match trouble with
  | some .looking => (tree, some .troubled)
  | some (.clearing gone) =>
    if Empties tree output then
      (tree.lose (output.resolve tree.current) gone, some .troubled)
    else (calm.1, calm.2.map .refused)
  | _ => (calm.1, calm.2.map .refused)

def makeFoldersUnder (trouble : Option Trouble) (tree : Tree) (output : Path) :
    Tree × Option Halt :=
  match trouble with
  | some (.making made) =>
    let outermost : Path := { output with names := output.names.take made }
    ((tree.makeFolders outermost).1, some .troubled)
  | _ =>
    let calm := tree.makeFolders output
    (calm.1, calm.2.map .refused)

/-- A trouble with a file after the last comes never. -/
def fillUnder (trouble : Option Trouble) (tree : Tree) (output : Path)
    (files : List (String × String)) : Disturbed :=
  match trouble with
  | some (.writing number held) =>
    match (files.map Prod.fst ++ ["index"])[number]? with
    | none => (fill tree output files).disturbed
    | some name =>
      let before := writeAll tree
        ((files.take number).map fun (name, text) => (modulePath output name, text))
      match before.outcome, held with
      | .error _, _ => before.disturbed
      | .ok _, none => ⟨before.tree, before.log, .error .troubled⟩
      | .ok _, some bytes =>
        match before.tree.write (modulePath output name) bytes with
        | .error error => ⟨before.tree, before.log, .error (.refused error)⟩
        | .ok tree => ⟨tree, before.log, .error .troubled⟩
  | _ => (fill tree output files).disturbed

end Published

/-- Publishes as far as a trouble lets it. -/
def Schemas.publishUnder (trouble : Option Trouble) (schemas : Schemas) (settings : Settings)
    (tree : Tree) : Disturbed :=
  match Published.vacateUnder trouble tree settings.output with
  | (tree, some halt) => ⟨tree, [], .error halt⟩
  | (tree, none) =>
    match Published.makeFoldersUnder trouble tree settings.output with
    | (tree, some halt) => ⟨tree, [], .error halt⟩
    | (tree, none) => Published.fillUnder trouble tree settings.output (schemas.files settings)

end ModelViews
