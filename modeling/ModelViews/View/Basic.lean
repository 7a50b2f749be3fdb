import ModelViews.Directive

namespace ModelViews

inductive View where
  | plain | filter | uniqueFilter | create | update | selection | inclusion | ordering
  | relations | relationsCreate | relationsUpdate
  deriving DecidableEq, Repr

namespace View

def all : List View :=
  [plain, filter, uniqueFilter, create, update, selection, inclusion, ordering, relations,
   relationsCreate, relationsUpdate]

def name : View → String
  | plain => "Plain"
  | filter => "Where"
  | uniqueFilter => "WhereUnique"
  | create => "Create"
  | update => "Update"
  | selection => "Select"
  | inclusion => "Include"
  | ordering => "OrderBy"
  | relations => "Relations"
  | relationsCreate => "RelationsCreate"
  | relationsUpdate => "RelationsUpdate"

def ofName? (name : String) : Option View :=
  all.find? fun view => view.name = name

/-- Whether a model has a row in the view even when no field of it has an entry there. -/
def keepsEmpty : View → Bool
  | plain | filter | create | update | selection | inclusion | ordering => true
  | uniqueFilter | relations | relationsCreate | relationsUpdate => false

end View

structure Entry where
  key : String
  isOptional : Bool
  type : String
  deriving DecidableEq, Repr

namespace Entry

def keyText (key : String) (isOptional : Bool) : String :=
  if isOptional then "\"" ++ key ++ "?\"" else "\"" ++ key ++ "\""

def text (entry : Entry) : String :=
  keyText entry.key entry.isOptional ++ ": " ++ entry.type

def object (entries : List Entry) (annotations : List Annotation) : String :=
  "\x7b\n  " ++ ",\n  ".intercalate (entries.map text) ++ "\n\x7d" ++
    Annotation.optionsSuffix annotations

end Entry

structure Row where
  model : String
  expression : String
  deriving DecidableEq, Repr

end ModelViews
