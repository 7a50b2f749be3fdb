import ModelViews.Datamodel.Basic

namespace ModelViews

structure CompiledEnum where
  name : String
  expression : String
  union : String
  deriving DecidableEq, Repr

namespace CompiledEnum

/-- A value's name in single quotes. Nothing in the name is escaped. -/
def member (value : EnumValue) : String :=
  "'" ++ value.name ++ "'"

def unionOf (values : List EnumValue) : String :=
  " | ".intercalate (values.map member)

def ofEnum (enum : EnumType) : CompiledEnum where
  name := enum.name
  expression := "type(\"" ++ unionOf enum.values ++ "\")"
  union := unionOf enum.values

/-- The enum that a field's type names: of several with one name the last. -/
def find? (enums : List CompiledEnum) (name : String) : Option CompiledEnum :=
  enums.reverse.find? fun enum => enum.name = name

end CompiledEnum
end ModelViews
