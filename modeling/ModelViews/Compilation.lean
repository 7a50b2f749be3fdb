import ModelViews.Log
import ModelViews.View.Selection

namespace ModelViews

namespace View

/-- A field's entry, if it has one. An enum that is not defined is reported. -/
def compileField (view : View) (context : Context) (model : Model) (field : Field) :
    Logged AnnotationError (Option Entry) :=
  match view.choose context model field with
  | .error error => .fail error
  | .ok (.entry entry) => .done (some entry)
  | .ok .undefinedEnum => do
    Logged.report (.undefinedEnum field.type field.name)
    return none
  | .ok .omitted => .done none

def row? (view : View) (model : Model) (doc : Documentation) (entries : List Entry) : Option Row :=
  if entries.isEmpty && !view.keepsEmpty then none
  else some ⟨model.name, Entry.object entries doc.annotations⟩

def compileModel (view : View) (context : Context) (model : Model) :
    Logged AnnotationError (Option Row) :=
  match Documentation.read model.documentation with
  | .error error => .fail error
  | .ok doc =>
    if doc.hidden then .done none
    else do
      let entries ← Logged.collect (view.compileField context model) model.fields
      return view.row? model doc entries

def compile (view : View) (context : Context) : Logged AnnotationError (List Row) :=
  Logged.collect (view.compileModel context) context.models

end View

/-- What a run produces: the enums, and each view with its rows. -/
structure Schemas where
  enums : List CompiledEnum := []
  views : List (View × List Row) := []
  deriving DecidableEq, Repr

structure UnknownView where
  name : String
  deriving DecidableEq, Repr

def UnknownView.message (error : UnknownView) : String :=
  "Unknown view '" ++ error.name ++ "'. Supported: [" ++
    ", ".intercalate (View.all.map fun view => "'" ++ view.name ++ "'") ++ "]"

namespace Schemas

def rowsOf (schemas : Schemas) (view : View) : List Row :=
  (schemas.views.lookup view).getD []

def view (schemas : Schemas) (name : String) : Except UnknownView (List Row) :=
  match View.ofName? name with
  | some view => .ok (schemas.rowsOf view)
  | none => .error ⟨name⟩

def expression? (schemas : Schemas) (model : String) (view : View) : Option String :=
  ((schemas.rowsOf view).find? fun row => row.model = model).map Row.expression

def get (schemas : Schemas) (model name : String) : Except UnknownView (Option String) :=
  match View.ofName? name with
  | some view => .ok (schemas.expression? model view)
  | none => .error ⟨name⟩

def rows (schemas : Schemas) : List (String × String × String) :=
  schemas.views.flatMap fun (view, rows) =>
    rows.map fun row => (row.model, view.name, row.expression)

end Schemas

namespace Datamodel

def context (datamodel : Datamodel) (settings : Settings) : Context where
  models := datamodel.models
  enums := datamodel.enums.map CompiledEnum.ofEnum
  settings := settings

def compileViews (context : Context) : List View → Logged AnnotationError (List (View × List Row))
  | [] => .done []
  | view :: views => do
    let rows ← view.compile context
    Logged.report (.compiled rows.length view.name)
    let others ← compileViews context views
    return (view, rows) :: others

def compile (datamodel : Datamodel) (settings : Settings) : Logged AnnotationError Schemas := do
  let context := datamodel.context settings
  let views ← compileViews context View.all
  return { enums := context.enums, views := views }

end Datamodel
end ModelViews
