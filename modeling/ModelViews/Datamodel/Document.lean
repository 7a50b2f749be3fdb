import ModelViews.Datamodel.Reading
import ModelViews.Text.Search

namespace ModelViews

/-- Why a document is refused. The first three causes are values in which a member cannot be looked
for, or in which one seems to be there and cannot be taken out. -/
inductive DocumentError where
  | notSearchable (kind : String)
  | memberOfText
  | memberOfList
  | noDatamodel
  | problems (problems : List Problem)
  deriving DecidableEq, Repr

def problemsMessage (form : String) (problems : List Problem) : String :=
  toString problems.length ++
    (if problems.length = 1 then " validation error for " else " validation errors for ") ++ form

namespace DocumentError

def message : DocumentError → String
  | notSearchable kind => "argument of type '" ++ kind ++ "' is not iterable"
  | memberOfText => "string indices must be integers, not 'str'"
  | memberOfList => "list indices must be integers or slices, not str"
  | noDatamodel => "Document does not contain a Prisma datamodel (missing 'models')."
  | problems found => problemsMessage "Datamodel" found

end DocumentError

namespace Datamodel

def isDatamodelKey : Json → Bool
  | .str text => text = "datamodel"
  | _ => false

/-- The value that should be the data model: the member `datamodel` where there is one, the whole
document otherwise. -/
def unwrapped (document : Json) : Except DocumentError Json :=
  match document with
  | .obj members => .ok ((members.lookup "datamodel").getD document)
  | .str text => if Text.occursIn "datamodel" text then .error .memberOfText else .ok document
  | .arr items => if items.any isDatamodelKey then .error .memberOfList else .ok document
  | _ => .error (.notSearchable document.kindName)

def ofModels (value : Json) : Except DocumentError Datamodel :=
  match value with
  | .obj members =>
    match members.lookup "models" with
    | none => .error .noDatamodel
    | some _ =>
      match readMembers members with
      | .good datamodel => .ok datamodel
      | .bad problems => .error (.problems problems)
  | _ => .error .noDatamodel

def ofDocument (document : Json) : Except DocumentError Datamodel :=
  match unwrapped document with
  | .error error => .error error
  | .ok value => ofModels value

end Datamodel
end ModelViews
