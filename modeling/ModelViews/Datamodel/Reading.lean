import ModelViews.Checked
import ModelViews.Datamodel.Basic
/-!
Data models as JSON. Members may be spelled in camel case or with low lines, what has a default may
be left out, and members without a meaning are passed over.
-/
namespace ModelViews

open Checked

def FieldKind.read : Json → Checked FieldKind
  | .str name =>
    match FieldKind.ofName? name with
    | some kind => .good kind
    | none => complain .unknownKind
  | _ => complain .unknownKind

def Field.readSources : Json → Checked (List String)
  | .null => .good []
  | value => list text value

def Field.readMembers (members : List (String × Json)) : Checked Field :=
  Field.mk <$> required (.plain "name") text members
    <*> required (.plain "kind") FieldKind.read members
    <*> required (.plain "type") text members
    <*> defaulted ⟨"isList", "is_list"⟩ false boolean members
    <*> defaulted ⟨"isRequired", "is_required"⟩ true boolean members
    <*> defaulted ⟨"isId", "is_id"⟩ false boolean members
    <*> defaulted ⟨"isUnique", "is_unique"⟩ false boolean members
    <*> defaulted ⟨"hasDefaultValue", "has_default_value"⟩ false boolean members
    <*> defaulted ⟨"relationName", "relation_name"⟩ none (optional text) members
    <*> defaulted ⟨"relationFromFields", "relation_from_fields"⟩ [] Field.readSources members
    <*> defaulted (.plain "documentation") none (optional text) members

def Field.read : Json → Checked Field :=
  object "ModelField" Field.readMembers

def Model.readMembers (members : List (String × Json)) : Checked Model :=
  Model.mk <$> required (.plain "name") text members
    <*> defaulted (.plain "fields") [] (list Field.read) members
    <*> defaulted (.plain "documentation") none (optional text) members

def Model.read : Json → Checked Model :=
  object "Model" Model.readMembers

def EnumValue.readMembers (members : List (String × Json)) : Checked EnumValue :=
  EnumValue.mk <$> required (.plain "name") text members
    <*> defaulted ⟨"dbName", "db_name"⟩ none (optional text) members

def EnumValue.read : Json → Checked EnumValue :=
  object "EnumValue" EnumValue.readMembers

def EnumType.readMembers (members : List (String × Json)) : Checked EnumType :=
  EnumType.mk <$> required (.plain "name") text members
    <*> defaulted (.plain "values") [] (list EnumValue.read) members
    <*> defaulted (.plain "documentation") none (optional text) members

def EnumType.read : Json → Checked EnumType :=
  object "DatamodelEnum" EnumType.readMembers

def Datamodel.readMembers (members : List (String × Json)) : Checked Datamodel :=
  Datamodel.mk <$> defaulted (.plain "models") [] (list Model.read) members
    <*> defaulted (.plain "enums") [] (list EnumType.read) members

def Datamodel.read : Json → Checked Datamodel :=
  object "Datamodel" Datamodel.readMembers

end ModelViews
