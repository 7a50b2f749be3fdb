import ModelViews.Definition.EnumTable
import ModelViews.Definition.Scalar
import ModelViews.Definition.Wrapping

namespace ModelViews

inductive FieldType where
  | known (type : String)
  | undefinedEnum
  | none
  deriving DecidableEq, Repr

namespace Field

/-- The type of a field before list and null forms. -/
def baseType (field : Field) (doc : Documentation) (enums : List CompiledEnum) :
    Except AnnotationError FieldType :=
  match doc.typeOverwrite? with
  | some text => .ok (.known (Definition.overwriteType text))
  | none =>
    match Scalar.ofName? field.type with
    | some scalar => (scalar.type doc.annotations).map .known
    | none =>
      if field.kind = .enum then
        match CompiledEnum.find? enums field.type with
        | some enum => .ok (.known (Definition.quote enum.union))
        | none => .ok .undefinedEnum
      else .ok .none

def isNullable (field : Field) (nullable : Bool) : Bool :=
  nullable && !field.isRequired

def wrapped (field : Field) (nullable : Bool) (type : String) : String :=
  let listed := if field.isList then Definition.arrayOf type else type
  if field.isNullable nullable then Definition.orNull listed else listed

end Field
end ModelViews
