import ModelViews.Json.Basic

namespace ModelViews

inductive Step where
  | name (name : String)
  | index (index : Nat)
  deriving DecidableEq, Repr

inductive Complaint where
  | missing
  | notText
  | notBoolean
  | unreadableBoolean
  | notList
  | notListOrText
  | unknownKind
  | notObject (form : String)
  | notPath
  | blankImportName
  deriving DecidableEq, Repr

namespace Complaint

def code : Complaint → String
  | missing => "missing"
  | notText => "string_type"
  | notBoolean => "bool_type"
  | unreadableBoolean => "bool_parsing"
  | notList => "list_type"
  | notListOrText => "tuple_type"
  | unknownKind => "literal_error"
  | notObject _ => "model_type"
  | notPath => "path_type"
  | blankImportName => "value_error"

def message : Complaint → String
  | missing => "Field required"
  | notText => "Input should be a valid string"
  | notBoolean => "Input should be a valid boolean"
  | unreadableBoolean => "Input should be a valid boolean, unable to interpret input"
  | notList => "Input should be a valid list"
  | notListOrText => "Input should be a valid tuple"
  | unknownKind => "Input should be 'scalar', 'enum', 'object' or 'unsupported'"
  | notObject form => "Input should be a valid dictionary or instance of " ++ form
  | notPath => "Input is not a valid path for <class 'pathlib.Path'>"
  | blankImportName => "Value error, arktypeImportDependencyName must not be empty"

end Complaint

structure Problem where
  way : List Step
  complaint : Complaint
  deriving DecidableEq, Repr

/-- A value of the expected form, or the problems that were found, of which there is at least one. -/
inductive Checked (α : Type) where
  | good (value : α)
  | bad (problems : List Problem)
  deriving DecidableEq, Repr

namespace Checked

variable {α β : Type}

def complain (complaint : Complaint) : Checked α :=
  bad [⟨[], complaint⟩]

def map (f : α → β) : Checked α → Checked β
  | good value => good (f value)
  | bad problems => bad problems

def app : Checked (α → β) → Checked α → Checked β
  | good f, good value => good (f value)
  | good _, bad problems => bad problems
  | bad problems, good _ => bad problems
  | bad problems, bad others => bad (problems ++ others)

def under (step : Step) : Checked α → Checked α
  | good value => good value
  | bad problems => bad (problems.map fun problem => { problem with way := step :: problem.way })

instance : Functor Checked where
  map := map

instance : Seq Checked where
  seq f value := app f (value ())

def items (check : Json → Checked α) : Nat → List Json → Checked (List α)
  | _, [] => good []
  | index, item :: rest =>
    app (map List.cons ((check item).under (.index index))) (items check (index + 1) rest)

def list (check : Json → Checked α) : Json → Checked (List α)
  | .arr values => items check 0 values
  | _ => complain .notList

def text : Json → Checked String
  | .str text => good text
  | _ => complain .notText

def optional (check : Json → Checked α) : Json → Checked (Option α)
  | .null => good none
  | value => (check value).map some

def falseWords : List String := ["0", "off", "f", "false", "n", "no"]
def trueWords : List String := ["1", "on", "t", "true", "y", "yes"]

def greatestWhole : Int := 9223372036854775807

def leastWhole : Int := -greatestWhole - 1

def isSmall (value : Int) : Bool :=
  leastWhole ≤ value && value ≤ greatestWhole

def ofInt (value : Int) : Checked Bool :=
  if value = 0 then good false
  else if value = 1 then good true
  else complain .unreadableBoolean

def boolean : Json → Checked Bool
  | .bool value => good value
  | .int value => if isSmall value then ofInt value else complain .notBoolean
  | .float value =>
    match value.toInt? with
    | some whole => if isSmall whole && whole ≠ leastWhole then ofInt whole else complain .notBoolean
    | none => complain .notBoolean
  | .str text =>
    let word := text.map Char.toLower
    if falseWords.contains word then good false
    else if trueWords.contains word then good true
    else complain .unreadableBoolean
  | _ => complain .notBoolean

/-- The spellings of a member's name, first the one that goes before the others. -/
structure Name where
  preferred : String
  alternative : String

def Name.plain (name : String) : Name := ⟨name, name⟩

def Name.find? (name : Name) (members : List (String × Json)) : Option (String × Json) :=
  match members.lookup name.preferred with
  | some value => some (name.preferred, value)
  | none => (members.lookup name.alternative).map (name.alternative, ·)

def required (name : Name) (check : Json → Checked α) (members : List (String × Json)) : Checked α :=
  match name.find? members with
  | some (found, value) => (check value).under (.name found)
  | none => (complain .missing).under (.name name.preferred)

def defaulted (name : Name) (absent : α) (check : Json → Checked α)
    (members : List (String × Json)) : Checked α :=
  match name.find? members with
  | some (found, value) => (check value).under (.name found)
  | none => good absent

def object (form : String) (check : List (String × Json) → Checked α) : Json → Checked α
  | .obj members => check members
  | _ => complain (.notObject form)

end Checked
end ModelViews
