import ModelViews.Compilation

namespace ModelViews

inductive SourceModule where
  | ofEnum (enum : CompiledEnum)
  | ofRow (view : View) (row : Row)
  | combined (model : String) (withRelations : Bool)
  deriving DecidableEq, Repr

namespace SourceModule

def viewName (model : String) (view : View) : String :=
  model ++ view.name

def name : SourceModule → String
  | ofEnum enum => enum.name
  | ofRow view row => viewName row.model view
  | combined model _ => model

def imports : SourceModule → List String
  | ofEnum _ => []
  | ofRow _ _ => []
  | combined model withRelations =>
    viewName model .plain :: if withRelations then [viewName model .relations] else []

def importLine (name : String) : String :=
  "import \x7b " ++ name ++ " \x7d from \"./" ++ name ++ "\";\n"

def expression : SourceModule → String
  | ofEnum enum => enum.expression
  | ofRow _ row => "type(" ++ row.expression ++ ")"
  | combined model withRelations =>
    if withRelations then
      "type(() => " ++ viewName model .plain ++ ".and(" ++ viewName model .relations ++ "))"
    else viewName model .plain

def header (importName : String) : String :=
  "import \x7b type \x7d from \"" ++ importName ++ "\";\n\n"

def text (importName : String) (source : SourceModule) : String :=
  header importName ++
    String.join (source.imports.map importLine) ++
    (if source.imports.isEmpty then "" else "\n") ++
    "export const " ++ source.name ++ " = " ++ source.expression ++ ";\n"

end SourceModule

namespace Schemas

def hasRelations (schemas : Schemas) (model : String) : Bool :=
  (schemas.rowsOf .relations).any fun row => row.model = model

/-- The modules of a view; those of the plain view are followed by the combined ones. -/
def viewModules (schemas : Schemas) (view : View) : List SourceModule :=
  (schemas.rowsOf view).map (.ofRow view) ++
    if view = .plain then
      (schemas.rowsOf .plain).map fun row => .combined row.model (schemas.hasRelations row.model)
    else []

/-- All modules in the order in which they are rendered, whatever their names. -/
def rendered (schemas : Schemas) : List SourceModule :=
  schemas.enums.map .ofEnum ++ View.all.flatMap schemas.viewModules

def modules (schemas : Schemas) : List (String × SourceModule) :=
  Keyed.ofPairs (schemas.rendered.map fun source => (source.name, source))

def files (schemas : Schemas) (settings : Settings) : List (String × String) :=
  schemas.modules.map fun (name, source) => (name, source.text settings.importName)

end Schemas

def barrelText (names : List String) : String :=
  String.join (names.map fun name => "export * from \"./" ++ name ++ "\";\n")

end ModelViews
