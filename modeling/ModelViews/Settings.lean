import ModelViews.Checked
import ModelViews.Datamodel.Document
import ModelViews.Files.Path
import ModelViews.Text.Blank

namespace ModelViews

structure Settings where
  output : Path
  importName : String
  ignoredKeys : List String
  deriving DecidableEq, Repr

inductive SettingsError where
  | notPairs (kind : String)
  | notAPair (index : Nat)
  | badLength (index length : Nat)
  | unusableName (kind : String)
  | problems (problems : List Problem)
  deriving DecidableEq, Repr

namespace SettingsError

def message : SettingsError → String
  | notPairs kind => "'" ++ kind ++ "' object is not iterable"
  | notAPair index =>
    "cannot convert dictionary update sequence element #" ++ toString index ++ " to a sequence"
  | badLength index length =>
    "dictionary update sequence element #" ++ toString index ++ " has length " ++
      toString length ++ "; 2 is required"
  | unusableName kind => "unhashable type: '" ++ kind ++ "'"
  | problems found => problemsMessage "GeneratorConfig" found

end SettingsError

namespace Settings

def defaultOutput : String := "./prisma/generated/validators"

def standard : Settings where
  output := Path.ofText defaultOutput
  importName := "arktype"
  ignoredKeys := ["id", "createdAt", "updatedAt"]

open Checked

def readOutput : Json → Checked Path
  | .str text => .good (Path.ofText text)
  | _ => complain .notPath

def readImportName : Json → Checked String
  | .str text =>
    if Text.trimmed text = "" then complain .blankImportName else .good (Text.trimmed text)
  | _ => complain .notText

def splitKeys (text : String) : List String :=
  ((Text.pieces ',' text).map Text.trimmed).filter (· != "")

def readKeys : Json → Checked (List String)
  | .str text => .good (splitKeys text)
  | .arr values => items Checked.text 0 values
  | _ => complain .notListOrText

def readMembers (members : List (String × Json)) : Checked Settings :=
  Settings.mk <$> defaulted (.plain "output") standard.output readOutput members
    <*> defaulted ⟨"arktypeImportDependencyName", "arktype_import_dependency_name"⟩
      standard.importName readImportName members
    <*> defaulted ⟨"ignoredKeysOnInputModels", "ignored_keys_on_input_models"⟩
      standard.ignoredKeys readKeys members

/-- The name that a value can be in a pair. Only texts name an option; lists and objects cannot name
anything. -/
def pairName? (value : Json) : Except SettingsError (Option String) :=
  match value with
  | .str name => .ok (some name)
  | .arr _ => .error (.unusableName value.kindName)
  | .obj _ => .error (.unusableName value.kindName)
  | _ => .ok none

def pair (index : Nat) (value : Json) : Except SettingsError (Json × Json) :=
  match value with
  | .arr [name, value] => .ok (name, value)
  | .arr values => .error (.badLength index values.length)
  | .str text =>
    match text.toList with
    | [name, value] => .ok (.str (String.singleton name), .str (String.singleton value))
    | characters => .error (.badLength index characters.length)
  | .obj [(name, _), (value, _)] => .ok (.str name, .str value)
  | .obj members => .error (.badLength index members.length)
  | _ => .error (.notAPair index)

def pairs : Nat → List (String × Json) → List Json → Except SettingsError (List (String × Json))
  | _, found, [] => .ok found
  | index, found, first :: rest =>
    match pair index first with
    | .error error => .error error
    | .ok (name, value) =>
      match pairName? name with
      | .error error => .error error
      | .ok none => pairs (index + 1) found rest
      | .ok (some name) => pairs (index + 1) (Keyed.put name value found) rest

def optionMembers (options : Json) : Except SettingsError (List (String × Json)) :=
  if options.isVacant then .ok []
  else
    match options with
    | .obj members => .ok members
    | .arr values => pairs 0 [] values
    | .str text => pairs 0 [] (text.toList.map fun c => .str (String.singleton c))
    | _ => .error (.notPairs options.kindName)

/-- The settings that options choose. An output given beside them goes before theirs. -/
def resolve (options : Json) (output : Option Json) : Except SettingsError Settings :=
  match optionMembers options with
  | .error error => .error error
  | .ok members =>
    let members := match output with
      | none => members
      | some output => Keyed.put "output" output members
    match readMembers members with
    | .good settings => .ok settings
    | .bad problems => .error (.problems problems)

end Settings
end ModelViews
