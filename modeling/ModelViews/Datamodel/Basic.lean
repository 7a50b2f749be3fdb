import ModelViews.Documentation

namespace ModelViews

inductive FieldKind where
  | scalar | enum | object | unsupported
  deriving DecidableEq, Repr

namespace FieldKind

def all : List FieldKind :=
  [scalar, enum, object, unsupported]

def name : FieldKind → String
  | scalar => "scalar"
  | enum => "enum"
  | object => "object"
  | unsupported => "unsupported"

def ofName? (name : String) : Option FieldKind :=
  all.find? fun kind => kind.name = name

end FieldKind

/-- A field. What need not be declared has the value that an undeclared property stands for. -/
structure Field where
  name : String
  kind : FieldKind
  type : String
  isList : Bool := false
  isRequired : Bool := true
  isId : Bool := false
  isUnique : Bool := false
  hasDefault : Bool := false
  relationName : Option String := none
  relationFromFields : List String := []
  documentation : Option String := none
  deriving DecidableEq, Repr

structure Model where
  name : String
  fields : List Field := []
  documentation : Option String := none
  deriving DecidableEq, Repr

structure EnumValue where
  name : String
  databaseName : Option String := none
  deriving DecidableEq, Repr

structure EnumType where
  name : String
  values : List EnumValue := []
  documentation : Option String := none
  deriving DecidableEq, Repr

structure Datamodel where
  models : List Model := []
  enums : List EnumType := []
  deriving DecidableEq, Repr

/-- Whether a scalar field backs a relation of its model: its name ends in `Id`, and it carries a
relation name or some relation field lists it as its source. -/
def Model.isForeignKey (model : Model) (field : Field) : Bool :=
  "Id".toList.isSuffixOf field.name.toList &&
    ((field.relationName.getD "") != "" ||
      model.fields.any fun other =>
        other.kind = .object && other.relationFromFields.contains field.name)

namespace Datamodel

def model? (models : List Model) (name : String) : Option Model :=
  models.find? fun model => model.name = name

end Datamodel

def Model.hasIntegerId (model : Model) : Bool :=
  match model.fields.find? Field.isId with
  | some field => field.type = "Int" || field.type = "BigInt"
  | none => false

end ModelViews
