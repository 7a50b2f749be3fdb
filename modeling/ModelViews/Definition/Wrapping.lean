import ModelViews.Definition.Literal

namespace ModelViews.Definition

/-- Whether a definition has an operator that binds weaker than the list brackets. -/
def needsGrouping (definition : String) : Bool :=
  definition.toList.any fun c => c == '|' || c == '<' || c == '>' || c == '&'

def listOf (definition : String) : String :=
  if needsGrouping definition then "(" ++ definition ++ ")[]" else definition ++ "[]"

def orNullOf (definition : String) : String :=
  definition ++ " | null"

def insideLiteral (wrap : String → String) (literal : String) : String :=
  match literal.toList with
  | [] => literal
  | delimiter :: rest =>
    String.ofList (delimiter :: (wrap (String.ofList rest.dropLast)).toList ++ [delimiter])

def arrayOf (type : String) : String :=
  if isLiteral type then insideLiteral listOf type else type ++ ".array()"

def orNull (type : String) : String :=
  if isLiteral type then insideLiteral orNullOf type else type ++ ".or(\"null\")"

end ModelViews.Definition
