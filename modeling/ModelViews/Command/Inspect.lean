import ModelViews.Command.Desk
import ModelViews.Command.Invocation
import ModelViews.Generation

namespace ModelViews.Command

def viewNames : String :=
  ", ".intercalate (View.all.map View.name)

def InspectRequest.views (request : InspectRequest) : Except String (List View) :=
  match request.view with
  | none => .ok View.all
  | some name =>
    match View.ofName? name with
    | some view => .ok [view]
    | none => .error ("[red]Unknown view[/red] '" ++ name ++ "'. Supported: " ++ viewNames)

def showRows (schemas : Schemas) (model : String) : List View → Desk → Desk × Option Failure
  | [], desk => (desk, none)
  | view :: views, desk =>
    match schemas.expression? model view with
    | none => showRows schemas model views desk
    | some expression =>
      match put (.rule (model ++ view.name)) desk with
      | (desk, some failure) => (desk, some failure)
      | (desk, none) =>
        match put (.plain expression) desk with
        | (desk, some failure) => (desk, some failure)
        | (desk, none) => showRows schemas model views desk

def hasRows (schemas : Schemas) (model : String) (views : List View) : Bool :=
  views.any fun view => (schemas.expression? model view).isSome

def compileSchema (schema : Path) (desk : Desk) : Except Failure Schemas :=
  match desk.tree.loadDatamodel schema.text desk.limits with
  | .error failure => .error failure
  | .ok datamodel => (datamodel.compile .standard).outcome.mapError .directive

def inspect (request : InspectRequest) (desk : Desk) : Ran :=
  match request.views with
  | .error text => finish .complained (put (.styled text) desk)
  | .ok views =>
    match compileSchema request.schema desk with
    | .error failure => conclude failure desk
    | .ok schemas =>
      if hasRows schemas request.model views then
        finish .done (showRows schemas request.model views desk)
      else
        finish .done (put (.styled ("(no schemas for " ++ request.model ++ ")")) desk)

end ModelViews.Command
