import Mathlib.Data.List.Forall2
import ModelViews.Datamodel.Document

namespace ModelViews

def camelCase (name : String) : String :=
  String.ofList (capitals name.toList)
where
  capitals : List Char → List Char
    | [] => []
    | '_' :: c :: rest => c.toUpper :: capitals rest
    | c :: rest => c :: capitals rest

example : camelCase "has_default_value" = "hasDefaultValue" := by decide

def IsSpelling (name key : String) : Prop :=
  key = name ∨ key = camelCase name

instance (name key : String) : Decidable (IsSpelling name key) :=
  inferInstanceAs (Decidable (_ ∨ _))

/-- A property among the members of an object: one member is spelled as its name, and that member holds
its value in a given form. -/
def Spelled {α : Type} (name : String) (form : α → Json → Prop) (value : α)
    (members : List (String × Json)) : Prop :=
  ∃ key json, IsSpelling name key ∧ (key, json) ∈ members ∧ form value json ∧
    ∀ member ∈ members, IsSpelling name member.1 → member = (key, json)

def SpelledUnless {α : Type} (default : α) (name : String) (form : α → Json → Prop) (value : α)
    (members : List (String × Json)) : Prop :=
  Spelled name form value members ∨
    value = default ∧ ∀ member ∈ members, ¬ IsSpelling name member.1

/-! The forms of values. -/

namespace Form

variable {α : Type}

def text (value : String) (json : Json) : Prop :=
  json = .str value

def boolean (value : Bool) (json : Json) : Prop :=
  json = .bool value

def optionalText (value : Option String) (json : Json) : Prop :=
  json = value.elim .null .str

def kind (value : FieldKind) (json : Json) : Prop :=
  json = .str value.name

def list (form : α → Json → Prop) (values : List α) (json : Json) : Prop :=
  ∃ items, json = .arr items ∧ List.Forall₂ form values items

def sources (values : List String) (json : Json) : Prop :=
  list text values json ∨ values = [] ∧ json = .null

def object (spelled : α → List (String × Json) → Prop) (value : α) (json : Json) : Prop :=
  ∃ members, json = .obj members ∧ spelled value members

end Form

structure Field.SpelledBy (field : Field) (members : List (String × Json)) : Prop where
  name : Spelled "name" Form.text field.name members
  kind : Spelled "kind" Form.kind field.kind members
  type : Spelled "type" Form.text field.type members
  isList : SpelledUnless false "is_list" Form.boolean field.isList members
  isRequired : SpelledUnless true "is_required" Form.boolean field.isRequired members
  isId : SpelledUnless false "is_id" Form.boolean field.isId members
  isUnique : SpelledUnless false "is_unique" Form.boolean field.isUnique members
  hasDefault : SpelledUnless false "has_default_value" Form.boolean field.hasDefault members
  relationName : SpelledUnless none "relation_name" Form.optionalText field.relationName members
  relationFromFields :
    SpelledUnless [] "relation_from_fields" Form.sources field.relationFromFields members
  documentation : SpelledUnless none "documentation" Form.optionalText field.documentation members

structure Model.SpelledBy (model : Model) (members : List (String × Json)) : Prop where
  name : Spelled "name" Form.text model.name members
  fields : SpelledUnless [] "fields" (Form.list (Form.object Field.SpelledBy)) model.fields members
  documentation : SpelledUnless none "documentation" Form.optionalText model.documentation members

structure EnumValue.SpelledBy (value : EnumValue) (members : List (String × Json)) : Prop where
  name : Spelled "name" Form.text value.name members
  databaseName : SpelledUnless none "db_name" Form.optionalText value.databaseName members

structure EnumType.SpelledBy (type : EnumType) (members : List (String × Json)) : Prop where
  name : Spelled "name" Form.text type.name members
  values : SpelledUnless [] "values" (Form.list (Form.object EnumValue.SpelledBy)) type.values members
  documentation : SpelledUnless none "documentation" Form.optionalText type.documentation members

structure Datamodel.SpelledBy (datamodel : Datamodel) (members : List (String × Json)) : Prop where
  models : Spelled "models" (Form.list (Form.object Model.SpelledBy)) datamodel.models members
  enums :
    SpelledUnless [] "enums" (Form.list (Form.object EnumType.SpelledBy)) datamodel.enums members

/-- The documents of a data model: the object that spells it, which has no member `datamodel` then, and
any object with a member `datamodel` that spells it. -/
inductive Datamodel.DocumentedBy (datamodel : Datamodel) : Json → Prop where
  | bare {members : List (String × Json)} (spelled : datamodel.SpelledBy members)
      (unwrapped : ∀ member ∈ members, member.1 ≠ "datamodel") : datamodel.DocumentedBy (.obj members)
  | wrapped {outer : List (String × Json)}
      (spelled : Spelled "datamodel" (Form.object Datamodel.SpelledBy) datamodel outer) :
      datamodel.DocumentedBy (.obj outer)

namespace Checked

variable {α : Type} {form : α → Json → Prop} {check : Json → Checked α} {name : Name}
  {members : List (String × Json)} {value default : α}

def Reads (check : Json → Checked α) (form : α → Json → Prop) : Prop :=
  ∀ value json, form value json → check json = .good value

def Name.IsCamel (name : Name) : Prop :=
  name.preferred = camelCase name.alternative

instance : Decidable name.IsCamel :=
  inferInstanceAs (Decidable (_ = _))

private theorem lookup_spelled {written : String} (spelled : Spelled written form value members) :
    ∃ key json, IsSpelling written key ∧ form value json ∧
      ∀ other, IsSpelling written other →
        members.lookup other = if other = key then some json else none := by
  obtain ⟨key, json, spelling, present, holds, only⟩ := spelled
  refine ⟨key, json, spelling, holds, ?_⟩
  intro other same
  by_cases here : other = key
  · rw [if_pos here]
    cases looked : members.lookup other with
    | none =>
        have missing := List.lookup_eq_none_iff.mp looked (key, json) present
        simp [here] at missing
    | some held =>
        obtain ⟨before, after, split, _⟩ := List.lookup_eq_some_iff.mp looked
        have member : (other, held) ∈ members := by simp [split]
        have pair := only _ member same
        have value : held = json := congrArg Prod.snd pair
        rw [value]
  · rw [if_neg here, List.lookup_eq_none_iff]
    intro member present
    rw [bne_iff_ne]
    rintro rfl
    exact here (congrArg Prod.fst (only member present same))

private theorem lookup_plain {written : String} (camel : camelCase written = written)
    (spelled : Spelled written form value members) :
    ∃ json, members.lookup written = some json ∧ form value json := by
  obtain ⟨key, json, spelling, holds, found⟩ := lookup_spelled spelled
  have here : written = key := by
    obtain same | same := spelling
    · exact same.symm
    · rw [same, camel]
  exact ⟨json, by rw [found written (.inl rfl), if_pos here], holds⟩

private theorem Name.find?_spelled (camel : name.IsCamel)
    (spelled : Spelled name.alternative form value members) :
    ∃ key json, name.find? members = some (key, json) ∧ form value json := by
  obtain ⟨key, json, spelling, holds, found⟩ := lookup_spelled spelled
  refine ⟨key, json, ?_, holds⟩
  -- the name in camel case is looked for first, also where it is no other than the name
  rw [find?, camel, found _ (.inr rfl), found _ (.inl rfl)]
  by_cases here : camelCase name.alternative = key
  · rw [if_pos here, here]
  · have written : name.alternative = key :=
      (spelling.resolve_right fun same => here same.symm).symm
    rw [if_neg here, if_pos written, written]
    rfl

private theorem Name.find?_omitted (camel : name.IsCamel)
    (omitted : ∀ member ∈ members, ¬ IsSpelling name.alternative member.1) :
    name.find? members = none := by
  have missing (key : String) (spelling : IsSpelling name.alternative key) :
      members.lookup key = none := by
    rw [List.lookup_eq_none_iff]
    intro member present
    rw [bne_iff_ne]
    rintro rfl
    exact omitted member present spelling
  rw [find?, camel, missing _ (.inr rfl), missing _ (.inl rfl)]
  rfl

private theorem required_spelled (name : Name) (reads : Reads check form) (camel : name.IsCamel)
    (spelled : Spelled name.alternative form value members) :
    required name check members = .good value := by
  obtain ⟨key, json, found, holds⟩ := name.find?_spelled camel spelled
  simp only [required, found, reads value json holds, under]

theorem defaulted_spelled (name : Name) (reads : Reads check form) (camel : name.IsCamel)
    (spelled : SpelledUnless default name.alternative form value members) :
    defaulted name default check members = .good value := by
  obtain spelled | ⟨rfl, omitted⟩ := spelled
  · obtain ⟨key, json, found, holds⟩ := name.find?_spelled camel spelled
    simp only [defaulted, found, reads value json holds, under]
  · simp only [defaulted, name.find?_omitted camel omitted]

/-! Each form is read by the check of its kind of value. -/

theorem reads_text : Reads text Form.text := by
  rintro value json rfl
  rfl

private theorem reads_boolean : Reads boolean Form.boolean := by
  rintro value json rfl
  rfl

private theorem reads_optionalText : Reads (optional text) Form.optionalText := by
  rintro (_ | value) json rfl <;> rfl

private theorem reads_kind : Reads FieldKind.read Form.kind := by
  rintro kind json rfl
  cases kind <;> decide

private theorem reads_items (reads : Reads check form) {values : List α} {json : List Json}
    (index : Nat)
    (hold : List.Forall₂ form values json) : items check index json = .good values := by
  induction hold generalizing index with
  | nil => rfl
  | cons holds _ ih =>
      rw [items, reads _ _ holds, ih]
      rfl

theorem reads_list (reads : Reads check form) : Reads (list check) (Form.list form) := by
  rintro values json ⟨items, rfl, hold⟩
  exact reads_items reads 0 hold

private theorem reads_sources : Reads Field.readSources Form.sources := by
  rintro values json (⟨items, rfl, hold⟩ | ⟨rfl, rfl⟩)
  · exact reads_items reads_text 0 hold
  · rfl

private theorem reads_object {spelled : α → List (String × Json) → Prop} {expected : String}
    {check : List (String × Json) → Checked α}
    (reads : ∀ value members, spelled value members → check members = .good value) :
    Reads (object expected check) (Form.object spelled) := by
  rintro value json ⟨members, rfl, holds⟩
  exact reads value members holds

end Checked

open Checked

private theorem Field.readMembers_spelled (field : Field) (members : List (String × Json))
    (spelled : field.SpelledBy members) : Field.readMembers members = .good field := by
  rw [readMembers,
    required_spelled (.plain "name") reads_text (by decide) spelled.name,
    required_spelled (.plain "kind") reads_kind (by decide) spelled.kind,
    required_spelled (.plain "type") reads_text (by decide) spelled.type,
    defaulted_spelled ⟨"isList", "is_list"⟩ reads_boolean (by decide) spelled.isList,
    defaulted_spelled ⟨"isRequired", "is_required"⟩ reads_boolean (by decide) spelled.isRequired,
    defaulted_spelled ⟨"isId", "is_id"⟩ reads_boolean (by decide) spelled.isId,
    defaulted_spelled ⟨"isUnique", "is_unique"⟩ reads_boolean (by decide) spelled.isUnique,
    defaulted_spelled ⟨"hasDefaultValue", "has_default_value"⟩ reads_boolean (by decide)
      spelled.hasDefault,
    defaulted_spelled ⟨"relationName", "relation_name"⟩ reads_optionalText (by decide)
      spelled.relationName,
    defaulted_spelled ⟨"relationFromFields", "relation_from_fields"⟩ reads_sources (by decide)
      spelled.relationFromFields,
    defaulted_spelled (.plain "documentation") reads_optionalText (by decide)
      spelled.documentation]
  rfl

private theorem Model.readMembers_spelled (model : Model) (members : List (String × Json))
    (spelled : model.SpelledBy members) : Model.readMembers members = .good model := by
  have fields : Reads (list Field.read) (Form.list (Form.object Field.SpelledBy)) :=
    reads_list (reads_object Field.readMembers_spelled)
  rw [readMembers,
    required_spelled (.plain "name") reads_text (by decide) spelled.name,
    defaulted_spelled (.plain "fields") fields (by decide) spelled.fields,
    defaulted_spelled (.plain "documentation") reads_optionalText (by decide)
      spelled.documentation]
  rfl

private theorem EnumValue.readMembers_spelled (value : EnumValue) (members : List (String × Json))
    (spelled : value.SpelledBy members) : EnumValue.readMembers members = .good value := by
  rw [readMembers,
    required_spelled (.plain "name") reads_text (by decide) spelled.name,
    defaulted_spelled ⟨"dbName", "db_name"⟩ reads_optionalText (by decide) spelled.databaseName]
  rfl

private theorem EnumType.readMembers_spelled (type : EnumType) (members : List (String × Json))
    (spelled : type.SpelledBy members) : EnumType.readMembers members = .good type := by
  have values : Reads (list EnumValue.read) (Form.list (Form.object EnumValue.SpelledBy)) :=
    reads_list (reads_object EnumValue.readMembers_spelled)
  rw [readMembers,
    required_spelled (.plain "name") reads_text (by decide) spelled.name,
    defaulted_spelled (.plain "values") values (by decide) spelled.values,
    defaulted_spelled (.plain "documentation") reads_optionalText (by decide)
      spelled.documentation]
  rfl

namespace Datamodel

variable {datamodel : Datamodel} {members : List (String × Json)}

private theorem readMembers_spelled (spelled : datamodel.SpelledBy members) :
    readMembers members = .good datamodel := by
  have models : Reads (list Model.read) (Form.list (Form.object Model.SpelledBy)) :=
    reads_list (reads_object Model.readMembers_spelled)
  have enums : Reads (list EnumType.read) (Form.list (Form.object EnumType.SpelledBy)) :=
    reads_list (reads_object EnumType.readMembers_spelled)
  rw [readMembers,
    defaulted_spelled (.plain "models") models (by decide) (.inl spelled.models),
    defaulted_spelled (.plain "enums") enums (by decide) spelled.enums]
  rfl

private theorem ofModels_spelled (spelled : datamodel.SpelledBy members) :
    ofModels (.obj members) = .ok datamodel := by
  obtain ⟨models, found, _⟩ := lookup_plain (by decide) spelled.models
  simp only [ofModels, found, readMembers_spelled spelled]

private theorem unwrapped_bare (unwrapped : ∀ member ∈ members, member.1 ≠ "datamodel") :
    Datamodel.unwrapped (.obj members) = .ok (.obj members) := by
  have missing : members.lookup "datamodel" = none := by
    rw [List.lookup_eq_none_iff]
    intro member present
    rw [bne_iff_ne]
    exact (unwrapped member present).symm
  rw [Datamodel.unwrapped, missing]
  rfl

private theorem unwrapped_wrapped {outer : List (String × Json)} {inner : Json}
    (found : outer.lookup "datamodel" = some inner) :
    Datamodel.unwrapped (.obj outer) = .ok inner := by
  rw [Datamodel.unwrapped, found]
  rfl

end Datamodel

/-! A data model has a document: all of its properties in camel case. -/

private theorem Spelled.of_keys {α : Type} {name key : String} {form : α → Json → Prop} {value : α}
    {json : Json} {members : List (String × Json)}
    (only : (members.map Prod.fst).filter (fun key => IsSpelling name key) = [key])
    (found : members.lookup key = some json) (holds : form value json) :
    Spelled name form value members := by
  have spelling : IsSpelling name key := by
    have member : key ∈ (members.map Prod.fst).filter fun key => IsSpelling name key := by simp [only]
    simpa using (List.mem_filter.mp member).2
  have present : (key, json) ∈ members := by
    obtain ⟨before, after, split, _⟩ := List.lookup_eq_some_iff.mp found
    simp [split]
  refine ⟨key, json, spelling, present, holds, ?_⟩
  clear holds present
  induction members with
  | nil => cases found
  | cons first rest ih =>
      obtain ⟨other, held⟩ := first
      by_cases same : IsSpelling name other
      · rw [List.map_cons, List.filter_cons_of_pos (by simpa using same), List.cons.injEq] at only
        obtain ⟨rfl, none⟩ := only
        have value : held = json := by simpa using found
        intro member present spelled
        obtain here | later := List.mem_cons.mp present
        · rw [here, value]
        · have absent := List.filter_eq_nil_iff.mp none member.1 (List.mem_map_of_mem later)
          simp [spelled] at absent
      · rw [List.map_cons, List.filter_cons_of_neg (by simpa using same)] at only
        have apart : key ≠ other := fun here => same (here ▸ spelling)
        rw [List.lookup_cons, beq_eq_false_iff_ne.mpr apart] at found
        intro member present spelled
        obtain here | later := List.mem_cons.mp present
        · exact absurd (by rwa [here] at spelled) same
        · exact ih only found member later spelled

def Field.toMembers (field : Field) : List (String × Json) :=
  [("name", .str field.name), ("kind", .str field.kind.name), ("type", .str field.type),
    ("isList", .bool field.isList), ("isRequired", .bool field.isRequired),
    ("isId", .bool field.isId), ("isUnique", .bool field.isUnique),
    ("hasDefaultValue", .bool field.hasDefault),
    ("relationName", field.relationName.elim .null .str),
    ("relationFromFields", .arr (field.relationFromFields.map .str)),
    ("documentation", field.documentation.elim .null .str)]

def Model.toMembers (model : Model) : List (String × Json) :=
  [("name", .str model.name), ("fields", .arr (model.fields.map fun field => .obj field.toMembers)),
    ("documentation", model.documentation.elim .null .str)]

def EnumValue.toMembers (value : EnumValue) : List (String × Json) :=
  [("name", .str value.name), ("dbName", value.databaseName.elim .null .str)]

def EnumType.toMembers (type : EnumType) : List (String × Json) :=
  [("name", .str type.name), ("values", .arr (type.values.map fun value => .obj value.toMembers)),
    ("documentation", type.documentation.elim .null .str)]

def Datamodel.toMembers (datamodel : Datamodel) : List (String × Json) :=
  [("models", .arr (datamodel.models.map fun model => .obj model.toMembers)),
    ("enums", .arr (datamodel.enums.map fun type => .obj type.toMembers))]

theorem Form.text_str (value : String) : Form.text value (.str value) :=
  rfl

theorem Form.list_map {α : Type} {form : α → Json → Prop} {write : α → Json}
    (holds : ∀ value, form value (write value)) (values : List α) :
    Form.list form values (.arr (values.map write)) := by
  refine ⟨_, rfl, ?_⟩
  rw [List.forall₂_map_right_iff, List.forall₂_same]
  exact fun value _ => holds value

private theorem Field.spelledBy_toMembers (field : Field) : field.SpelledBy field.toMembers where
  name := .of_keys rfl rfl rfl
  kind := .of_keys rfl rfl rfl
  type := .of_keys rfl rfl rfl
  isList := .inl (.of_keys rfl rfl rfl)
  isRequired := .inl (.of_keys rfl rfl rfl)
  isId := .inl (.of_keys rfl rfl rfl)
  isUnique := .inl (.of_keys rfl rfl rfl)
  hasDefault := .inl (.of_keys rfl rfl rfl)
  relationName := .inl (.of_keys rfl rfl rfl)
  relationFromFields := .inl (.of_keys rfl rfl (.inl (Form.list_map Form.text_str _)))
  documentation := .inl (.of_keys rfl rfl rfl)

private theorem Model.spelledBy_toMembers (model : Model) : model.SpelledBy model.toMembers where
  name := .of_keys rfl rfl rfl
  fields := .inl (.of_keys rfl rfl
    (Form.list_map (fun field => ⟨_, rfl, field.spelledBy_toMembers⟩) _))
  documentation := .inl (.of_keys rfl rfl rfl)

private theorem EnumValue.spelledBy_toMembers (value : EnumValue) :
    value.SpelledBy value.toMembers where
  name := .of_keys rfl rfl rfl
  databaseName := .inl (.of_keys rfl rfl rfl)

private theorem EnumType.spelledBy_toMembers (type : EnumType) : type.SpelledBy type.toMembers where
  name := .of_keys rfl rfl rfl
  values := .inl (.of_keys rfl rfl
    (Form.list_map (fun value => ⟨_, rfl, value.spelledBy_toMembers⟩) _))
  documentation := .inl (.of_keys rfl rfl rfl)

theorem Datamodel.documentedBy_toMembers (datamodel : Datamodel) :
    datamodel.DocumentedBy (.obj datamodel.toMembers) := by
  refine .bare ⟨?_, .inl ?_⟩ (by simp [toMembers])
  · exact .of_keys rfl rfl (Form.list_map (fun model => ⟨_, rfl, model.spelledBy_toMembers⟩) _)
  · exact .of_keys rfl rfl (Form.list_map (fun type => ⟨_, rfl, type.spelledBy_toMembers⟩) _)

/-- Every document of a data model reads back as that data model, in whichever way it is spelled. -/
theorem Datamodel.ofDocument_documented {datamodel : Datamodel} {document : Json}
    (documented : datamodel.DocumentedBy document) :
    Datamodel.ofDocument document = .ok datamodel := by
  cases documented with
  | bare spelled unwrapped =>
      rw [ofDocument, unwrapped_bare unwrapped]
      exact ofModels_spelled spelled
  | wrapped spelled =>
      obtain ⟨inner, found, members, rfl, spelled⟩ := lookup_plain (by decide) spelled
      rw [ofDocument, unwrapped_wrapped found]
      exact ofModels_spelled spelled

/-- A document that mixes the spellings, leaves defaults out and has members without a meaning. -/
theorem Datamodel.mixed_document_read :
    Datamodel.ofDocument (.obj [("generator", .null), ("datamodel", .obj [
        ("models", .arr [.obj [("fields", .arr [
          .obj [("is_id", .bool true), ("isRequired", .bool true), ("kind", .str "scalar"),
            ("name", .str "id"), ("relation_from_fields", .null), ("type", .str "Int"),
            ("isReadOnly", .bool false)]]), ("name", .str "Post")]]),
        ("enums", .arr [.obj [("name", .str "Role"), ("values", .arr [
          .obj [("name", .str "ADMIN"), ("db_name", .str "admin")], .obj [("name", .str "USER")]])]]),
        ("datamodel", .null)])]) =
      .ok ⟨[{ name := "Post"
              fields := [{ name := "id", kind := .scalar, type := "Int", isId := true }] }],
        [{ name := "Role", values := [⟨"ADMIN", some "admin"⟩, ⟨"USER", none⟩] }]⟩ := by
  have field : Field.SpelledBy
      { name := "id", kind := .scalar, type := "Int", isId := true }
      [("is_id", .bool true), ("isRequired", .bool true), ("kind", .str "scalar"),
        ("name", .str "id"), ("relation_from_fields", .null), ("type", .str "Int"),
        ("isReadOnly", .bool false)] := by
    refine ⟨.of_keys rfl rfl rfl, .of_keys rfl rfl rfl, .of_keys rfl rfl rfl, .inr ?_,
      .inl (.of_keys rfl rfl rfl), .inl (.of_keys rfl rfl rfl), .inr ?_, .inr ?_, .inr ?_,
      .inl (.of_keys rfl rfl (.inr ⟨rfl, rfl⟩)), .inr ?_⟩
    all_goals exact ⟨rfl, by decide⟩
  have admin : EnumValue.SpelledBy ⟨"ADMIN", some "admin"⟩
      [("name", .str "ADMIN"), ("db_name", .str "admin")] :=
    ⟨.of_keys rfl rfl rfl, .inl (.of_keys rfl rfl rfl)⟩
  have user : EnumValue.SpelledBy ⟨"USER", none⟩ [("name", .str "USER")] :=
    ⟨.of_keys rfl rfl rfl, .inr ⟨rfl, by decide⟩⟩
  apply Datamodel.ofDocument_documented
  refine .wrapped (.of_keys rfl rfl ⟨_, rfl, ?models, .inl ?enums⟩)
  case models =>
    refine .of_keys rfl rfl ⟨_, rfl, .cons ⟨_, rfl, ?_⟩ .nil⟩
    exact ⟨.of_keys rfl rfl rfl, .inl (.of_keys rfl rfl ⟨_, rfl, .cons ⟨_, rfl, field⟩ .nil⟩),
      .inr ⟨rfl, by decide⟩⟩
  case enums =>
    refine .of_keys rfl rfl ⟨_, rfl, .cons ⟨_, rfl, ?_⟩ .nil⟩
    exact ⟨.of_keys rfl rfl rfl,
      .inl (.of_keys rfl rfl ⟨_, rfl, .cons ⟨_, rfl, admin⟩ (.cons ⟨_, rfl, user⟩ .nil)⟩),
      .inr ⟨rfl, by decide⟩⟩

end ModelViews
