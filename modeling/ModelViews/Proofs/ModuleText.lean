import ModelViews.Proofs.ObjectText
import ModelViews.Proofs.TextParts
import ModelViews.SourceModule

namespace ModelViews

open ObjectText (behind? behind_eq_some)

structure Import where
  binding : String
  origin : String
  deriving DecidableEq, Repr

namespace Import

def write (first : Import) : String :=
  "import \x7b " ++ first.binding ++ " \x7d from \"" ++ first.origin ++ "\";\n"

def beside (name : String) : Import :=
  ⟨name, "./" ++ name⟩

def read (text : List Char) : Option (Import × List Char) :=
  (behind? "import \x7b " text).bind fun inside =>
    (Text.cutAt? ' ' inside).bind fun (binding, after) =>
      (behind? "\x7d from \"" after).bind fun quoted =>
        (Text.cutAt? '"' quoted).bind fun (origin, closing) =>
          (behind? ";\n" closing).map fun rest =>
            (⟨String.ofList binding, String.ofList origin⟩, rest)

private theorem read_sound {first : Import} {text rest : List Char}
    (found : read text = some (first, rest)) :
    text = first.write.toList ++ rest := by
  simp only [read, Option.bind_eq_some_iff, Option.map_eq_some_iff, Prod.exists, Prod.mk.injEq,
    behind_eq_some] at found
  obtain ⟨_, rfl, binding, _, blank, _, rfl, origin, _, quote, _, rfl, rfl, rfl⟩ := found
  rw [(Text.cutAt_eq_some.mp blank).1, (Text.cutAt_eq_some.mp quote).1]
  simp [write]

private theorem read_write {first : Import} (noBlank : ' ' ∉ first.binding.toList)
    (noQuote : '"' ∉ first.origin.toList) (rest : List Char) :
    read (first.write.toList ++ rest) = some (first, rest) := by
  have split : first.write.toList ++ rest = "import \x7b ".toList ++ (first.binding.toList ++ ' ' ::
      ("\x7d from \"".toList ++ (first.origin.toList ++ '"' :: (";\n".toList ++ rest)))) := by
    simp [write]
  rw [split]
  simp only [read, Option.bind_eq_some_iff, Option.map_eq_some_iff, Prod.exists, Prod.mk.injEq]
  refine ⟨_, behind_eq_some.mpr rfl, _, _, Text.cutAt_eq_some.mpr ⟨rfl, noBlank⟩,
    _, behind_eq_some.mpr rfl, _, _, Text.cutAt_eq_some.mpr ⟨rfl, noQuote⟩,
    rest, behind_eq_some.mpr rfl, ?_, rfl⟩
  simp

private theorem read_other {c : Char} (other : c ≠ 'i') (text : List Char) :
    read (c :: text) = none := by
  have absent : behind? "import \x7b " (c :: text) = none := by
    rw [Option.eq_none_iff_forall_ne_some]
    intro rest found
    have same := behind_eq_some.mp found
    exact other (List.cons.inj same).1
  rw [read, absent, Option.bind_none]

end Import

/-- What a module says: its imports, the one name that it exports, and the definition of that. -/
structure ModuleText where
  imports : List Import
  exported : String
  definition : String
  deriving DecidableEq, Repr

namespace ModuleText

def readExport (text : List Char) : Option ModuleText :=
  (behind? "export const " text).bind fun inside =>
    (Text.cutAt? ' ' inside).bind fun (exported, after) =>
      (behind? "= " after).bind fun rest =>
        (";\n".toList.isSuffixOf? rest).map fun definition =>
          ⟨[], String.ofList exported, String.ofList definition⟩

def read (text : List Char) : Option ModuleText :=
  match _found : Import.read text with
  | some (first, rest) =>
    (read rest).map fun others => { others with imports := first :: others.imports }
  | none =>
    match text with
    | '\n' :: rest => read rest
    | _ => readExport text
termination_by text.length
decreasing_by
  · rw [Import.read_sound _found, List.length_append]
    simp [Import.write]
  · simp

variable {text : List Char} {name definition : String}

private theorem read_found {first : Import} {rest : List Char}
    (found : Import.read text = some (first, rest)) :
    read text = (read rest).map fun others => { others with imports := first :: others.imports } := by
  rw [read]
  split
  · rename_i other after same
    rw [found] at same
    obtain ⟨rfl, rfl⟩ := Prod.mk.inj (Option.some.inj same)
    rfl
  · rename_i none
    rw [found] at none
    cases none

private theorem read_unfound {c : Char} {rest : List Char} (none : Import.read (c :: rest) = none) :
    read (c :: rest) = if c = '\n' then read rest else readExport (c :: rest) := by
  rw [read]
  split
  · rename_i same
    rw [none] at same
    cases same
  · split
    · rename_i same _
      obtain ⟨rfl, rfl⟩ := List.cons.inj same
      rw [if_pos rfl]
    · next other =>
        rw [if_neg]
        rintro rfl
        exact other rest none rfl HEq.rfl

private theorem read_import {first : Import} (noBlank : ' ' ∉ first.binding.toList)
    (noQuote : '"' ∉ first.origin.toList) (rest : List Char) :
    read (first.write.toList ++ rest) =
      (read rest).map fun others => { others with imports := first :: others.imports } :=
  read_found (Import.read_write noBlank noQuote rest)

private theorem read_line (rest : List Char) : read ('\n' :: rest) = read rest := by
  rw [read_unfound (Import.read_other (by decide) rest), if_pos rfl]

private theorem read_other {c : Char} (noImport : c ≠ 'i') (noLine : c ≠ '\n') (rest : List Char) :
    read (c :: rest) = readExport (c :: rest) := by
  rw [read_unfound (Import.read_other noImport rest), if_neg noLine]

private theorem read_export (noBlank : ' ' ∉ name.toList) (definition : String) :
    read ("export const " ++ name ++ " = " ++ definition ++ ";\n").toList =
      some ⟨[], name, definition⟩ := by
  have split : ("export const " ++ name ++ " = " ++ definition ++ ";\n").toList =
      "export const ".toList ++ (name.toList ++ ' ' ::
        ("= ".toList ++ (definition.toList ++ ";\n".toList))) := by
    simp
  have ends : ";\n".toList.isSuffixOf? (definition.toList ++ ";\n".toList) =
      some definition.toList := by
    have start : ";\n".toList.reverse.isPrefixOf? (definition.toList ++ ";\n".toList).reverse =
        some definition.toList.reverse := by
      rw [List.isPrefixOf?_eq_some_iff_append_eq, List.reverse_append]
    rw [List.isSuffixOf?, start, Option.map_some, List.reverse_reverse]
  have begins : read ("export const ".toList ++ (name.toList ++ ' ' ::
      ("= ".toList ++ (definition.toList ++ ";\n".toList)))) =
      readExport ("export const ".toList ++ (name.toList ++ ' ' ::
        ("= ".toList ++ (definition.toList ++ ";\n".toList)))) :=
    read_other (by decide) (by decide) _
  rw [split, begins]
  simp only [readExport, Option.bind_eq_some_iff, Option.map_eq_some_iff, Prod.exists]
  refine ⟨_, behind_eq_some.mpr rfl, _, _, Text.cutAt_eq_some.mpr ⟨rfl, noBlank⟩,
    _, behind_eq_some.mpr rfl, _, ends, ?_⟩
  simp

private theorem read_imports {names : List String}
    (plain : ∀ name ∈ names, ' ' ∉ name.toList ∧ '"' ∉ name.toList)
    {rest : List Char} {others : ModuleText} (later : read rest = some others) :
    read ((String.join (names.map SourceModule.importLine)).toList ++ rest) =
      some { others with imports := names.map Import.beside ++ others.imports } := by
  induction names with
  | nil => simpa [String.join] using later
  | cons name names ih =>
      obtain ⟨⟨noBlank, noQuote⟩, plain⟩ := List.forall_mem_cons.mp plain
      have origin : '"' ∉ (Import.beside name).origin.toList := by
        simpa [Import.beside] using noQuote
      have line : (String.join ((name :: names).map SourceModule.importLine)).toList ++ rest =
          (Import.beside name).write.toList ++
            ((String.join (names.map SourceModule.importLine)).toList ++ rest) := by
        simp [Import.write, Import.beside, SourceModule.importLine]
      rw [line, read_import noBlank origin, ih plain]
      rfl

def behindHeader (importName : String) (text : String) : Option ModuleText :=
  (behind? (SourceModule.header importName) text.toList).bind read

private theorem read_header {importName : String} (noQuote : '"' ∉ importName.toList)
    (rest : List Char) :
    read ((SourceModule.header importName).toList ++ rest) =
      (read rest).map fun others => { others with imports := ⟨"type", importName⟩ :: others.imports } := by
  have noBlank : ' ' ∉ "type".toList := by decide
  have line : (SourceModule.header importName).toList ++ rest =
      (Import.write ⟨"type", importName⟩).toList ++ '\n' :: rest := by
    have front : "import \x7b type \x7d from \"".toList =
        "import \x7b ".toList ++ "type".toList ++ " \x7d from \"".toList := by decide +kernel
    have back : "\";\n\n".toList = "\";\n".toList ++ ['\n'] := by decide +kernel
    unfold SourceModule.header Import.write
    simp only [String.toList_append, front, back, List.append_assoc, List.singleton_append]
  rw [line, read_import noBlank noQuote, read_line]

end ModuleText

namespace SourceModule

variable {source : SourceModule}

/-- What a module says: it brings modules from beside itself and exports its name. -/
def content (source : SourceModule) : ModuleText :=
  ⟨source.imports.map .beside, source.name, source.expression⟩

theorem read_text (plain : ∀ name ∈ source.name :: source.imports, ' ' ∉ name.toList ∧ '"' ∉ name.toList)
    (importName : String) :
    ModuleText.behindHeader importName (source.text importName) = some source.content := by
  obtain ⟨⟨noBlank, _⟩, others⟩ := List.forall_mem_cons.mp plain
  let last := "export const " ++ source.name ++ " = " ++ source.expression ++ ";\n"
  let gap := if source.imports.isEmpty then "" else "\n"
  have split : (source.text importName).toList = (header importName).toList ++
      ((String.join (source.imports.map importLine)).toList ++ (gap.toList ++ last.toList)) := by
    simp [text, last, gap]
  have exported : ModuleText.read (gap.toList ++ last.toList) =
      some ⟨[], source.name, source.expression⟩ := by
    have alone := ModuleText.read_export noBlank source.expression
    by_cases none : source.imports.isEmpty
    · simp only [gap, none, if_true]
      exact alone
    · simp only [gap, none]
      exact (ModuleText.read_line last.toList).trans alone
  rw [ModuleText.behindHeader, split, behind_eq_some.mpr rfl, Option.bind_some,
    ModuleText.read_imports others exported, List.append_nil]
  rfl

/-- Where the name of the validators has no quote, the whole text is read, with one import more. -/
theorem read_whole (plain : ∀ name ∈ source.name :: source.imports, ' ' ∉ name.toList ∧ '"' ∉ name.toList)
    {importName : String} (noQuote : '"' ∉ importName.toList) :
    ModuleText.read (source.text importName).toList =
      some { source.content with imports := ⟨"type", importName⟩ :: source.content.imports } := by
  have behind := read_text plain importName
  obtain ⟨rest, split, reads⟩ := Option.bind_eq_some_iff.mp behind
  rw [behind_eq_some.mp split, ModuleText.read_header noQuote, reads]
  rfl

end SourceModule

def readReexport (text : List Char) : Option (String × List Char) :=
  (behind? "export * from \"./" text).bind fun inside =>
    (Text.cutAt? '"' inside).bind fun (name, after) =>
      (behind? ";\n" after).map fun rest => (String.ofList name, rest)

def writeReexport (name : String) : String :=
  "export * from \"./" ++ name ++ "\";\n"

private theorem toList_writeReexport (name : String) :
    (writeReexport name).toList =
      "export * from \"./".toList ++ (name.toList ++ '"' :: ";\n".toList) := by
  have back : "\";\n".toList = '"' :: ";\n".toList := by decide +kernel
  unfold writeReexport
  rw [String.toList_append, String.toList_append, back, List.append_assoc]

private theorem readReexport_sound {name : String} {text rest : List Char}
    (found : readReexport text = some (name, rest)) : text = (writeReexport name).toList ++ rest := by
  simp only [readReexport, Option.bind_eq_some_iff, Option.map_eq_some_iff, Prod.exists,
    Prod.mk.injEq, behind_eq_some] at found
  obtain ⟨_, rfl, name, _, quote, _, rfl, rfl, rfl⟩ := found
  rw [(Text.cutAt_eq_some.mp quote).1, toList_writeReexport, String.toList_ofList (l := name),
    List.append_assoc, List.append_assoc]
  rfl

private theorem readReexport_write {name : String} (noQuote : '"' ∉ name.toList)
    (rest : List Char) :
    readReexport ((writeReexport name).toList ++ rest) = some (name, rest) := by
  rw [toList_writeReexport, List.append_assoc, List.append_assoc, List.cons_append]
  simp only [readReexport, Option.bind_eq_some_iff, Option.map_eq_some_iff, Prod.exists,
    Prod.mk.injEq]
  exact ⟨_, behind_eq_some.mpr rfl, _, _, Text.cutAt_eq_some.mpr ⟨rfl, noQuote⟩, rest,
    behind_eq_some.mpr rfl, String.ofList_toList, rfl⟩

def readBarrel (text : List Char) : Option (List String) :=
  match _found : readReexport text with
  | some (name, rest) => (readBarrel rest).map (name :: ·)
  | none => if text.isEmpty then some [] else none
termination_by text.length
decreasing_by
  rw [readReexport_sound _found, toList_writeReexport]
  simp only [List.length_append, List.length_cons]
  omega

private theorem readBarrel_found {name : String} {text rest : List Char}
    (found : readReexport text = some (name, rest)) :
    readBarrel text = (readBarrel rest).map (name :: ·) := by
  rw [readBarrel]
  split
  · rename_i other after same
    rw [found] at same
    obtain ⟨rfl, rfl⟩ := Prod.mk.inj (Option.some.inj same)
    rfl
  · rename_i none
    rw [found] at none
    cases none

theorem readBarrel_barrelText {names : List String} (noQuote : ∀ name ∈ names, '"' ∉ name.toList) :
    readBarrel (barrelText names).toList = some names := by
  induction names with
  | nil =>
      rw [readBarrel]
      rfl
  | cons name names ih =>
      obtain ⟨first, others⟩ := List.forall_mem_cons.mp noQuote
      have line : (barrelText (name :: names)).toList =
          (writeReexport name).toList ++ (barrelText names).toList := by
        rw [barrelText, List.map_cons, String.join_cons, String.toList_append]
        rfl
      rw [line, readBarrel_found (readReexport_write first _), ih others]
      rfl

end ModelViews
