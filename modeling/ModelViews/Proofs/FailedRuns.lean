import ModelViews.Files.Trouble
import ModelViews.Proofs.Filling
import ModelViews.Proofs.WholeTrees
/-!
Runs that fail, whatever stops them: the files as they are, or a trouble that comes at any step. What
such a run did to the files is told by two things: whether the path of its output folder led to a
folder, which is then cleared first, and which modules were written before the failure, the last of
them perhaps in part.
-/
namespace ModelViews

namespace Tree

variable {tree : Tree} {place : Place} {files : List (Place × List UInt8)}

end Tree

namespace Published

variable {schemas : Schemas} {settings : Settings} {tree : Tree} {output : Path} {place : Place}
  {bytes : List UInt8} {trouble : Option Trouble} {halt : Halt}

def encoded (file : String × String) : String × List UInt8 :=
  (file.1, Text.Utf8.encode file.2)

def located (output : Path) (current : Place) (file : String × List UInt8) : Place × List UInt8 :=
  ((modulePath output file.1).resolve current, file.2)

/-- How far a run got: the modules that it wrote, and the file at which a trouble stopped it, with what
this file holds. -/
structure Progress where
  written : List (String × String)
  begun : Option (String × List UInt8)

def Progress.files (progress : Progress) : List (String × List UInt8) :=
  progress.written.map encoded ++ progress.begun.toList

/-- A progress that a run through modules makes that reports what it wrote: from the first module on, and
with the file after them where a trouble came to it. -/
structure Progress.Fits (progress : Progress) (trouble : Option Trouble)
    (modules : List (String × String)) (output : Path) (log : List LogEntry) : Prop where
  begins : progress.written <+: modules
  reported : log = progress.written.map fun file => .wrote (modulePath output file.1)
  begun : ∀ file ∈ progress.begun,
    trouble = some (.writing progress.written.length (some file.2)) ∧
      (modules.map Prod.fst ++ ["index"])[progress.written.length]? = some file.1

theorem Progress.Fits.names {progress : Progress} {modules : List (String × String)}
    {log : List LogEntry} (fits : progress.Fits trouble modules output log) :
    ∀ name ∈ progress.files.map Prod.fst, name ∈ modules.map Prod.fst ++ ["index"] := by
  intro name member
  rw [Progress.files, List.map_append, List.map_map, List.mem_append] at member
  rcases member with written | begun
  · exact List.mem_append_left _ ((fits.begins.sublist.map Prod.fst).mem written)
  · obtain ⟨file, stopped, rfl⟩ := List.mem_map.mp begun
    exact List.mem_of_getElem? (fits.begun file (Option.mem_toList.mp stopped)).2

private def Progress.Reaches (progress : Progress) (output : Path) (tree left : Tree) : Prop :=
  left = tree.putFiles (progress.files.map (located output tree.current)) ∧
    ∀ file ∈ progress.files.map (located output tree.current), file.1 ≠ []

/-- Without a trouble a run publishes. -/
theorem publishUnder_none (schemas : Schemas) (settings : Settings) (tree : Tree) :
    schemas.publishUnder none settings tree = (schemas.publish settings tree).disturbed := by
  have calm : vacateUnder none tree settings.output =
      ((vacate tree settings.output).1, (vacate tree settings.output).2.map .refused) := rfl
  rw [Schemas.publishUnder, Schemas.publish, calm]
  rcases vacate tree settings.output with ⟨left, _ | error⟩
  · simp only [Option.map_none, makeFoldersUnder]
    rcases left.makeFolders settings.output with ⟨ready, _ | error⟩ <;> rfl
  · rfl

end Published
end ModelViews
