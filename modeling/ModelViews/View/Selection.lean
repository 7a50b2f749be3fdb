import ModelViews.Settings
import ModelViews.View.Basic
import ModelViews.View.FieldType
import ModelViews.View.Relation

namespace ModelViews

structure Context where
  models : List Model
  enums : List CompiledEnum
  settings : Settings
  deriving DecidableEq, Repr

/-- What becomes of a field in a view. -/
inductive Selected where
  | entry (entry : Entry)
  | undefinedEnum
  | omitted
  deriving DecidableEq, Repr

namespace View

def hidesInput (specific : DirectiveKind) (doc : Documentation) : Bool :=
  doc.hides .hiddenInput || doc.hides specific

/-- Whether an input view has a place for a scalar field: neither ignored nor a foreign key. -/
def takesInput (settings : Settings) (model : Model) (field : Field) : Bool :=
  field.kind ≠ .object && !settings.ignoredKeys.contains field.name && !model.isForeignKey field

def admits (view : View) (context : Context) (model : Model) (field : Field)
    (doc : Documentation) : Bool :=
  match view with
  | plain | filter => field.kind ≠ .object
  | uniqueFilter => field.kind ≠ .object && (field.isId || field.isUnique)
  | create => !hidesInput .hiddenCreate doc && takesInput context.settings model field
  | update => !hidesInput .hiddenUpdate doc && takesInput context.settings model field
  | selection => true
  | inclusion => field.kind = .object
  | ordering => field.kind = .scalar || field.kind = .enum
  | relations => field.kind = .object
  | relationsCreate => !hidesInput .hiddenCreate doc && field.kind = .object
  | relationsUpdate => !hidesInput .hiddenUpdate doc && field.kind = .object

/-- Whether the key of a typed field may be missing in a view. Filters and updates are free to leave
out any key. -/
def typedOptional (view : View) (field : Field) : Bool :=
  match view with
  | plain | create => !field.isRequired || field.hasDefault
  | _ => true

def typedEntry (view : View) (context : Context) (field : Field) (doc : Documentation) :
    Except AnnotationError Selected :=
  match field.baseType doc context.enums with
  | .error error => .error error
  | .ok (.known type) =>
    .ok (.entry ⟨field.name, view.typedOptional field, field.wrapped true type⟩)
  | .ok .undefinedEnum => .ok .undefinedEnum
  | .ok .none => .ok .omitted

def inputEntry (context : Context) (field : Field) (type : String → String) : Selected :=
  match Relation.identity? context.models field.type with
  | some identity => .entry ⟨field.name, true, type identity⟩
  | none => .omitted

def entry (view : View) (context : Context) (field : Field) (doc : Documentation) :
    Except AnnotationError Selected :=
  match view with
  | plain | filter | uniqueFilter | create | update => view.typedEntry context field doc
  | selection | inclusion => .ok (.entry ⟨field.name, true, "\"boolean\""⟩)
  | ordering => .ok (.entry ⟨field.name, true, "\"'asc' | 'desc'\""⟩)
  | relations =>
    .ok (.entry ⟨field.name, Relation.isOptional field, Relation.opaqueType field⟩)
  | relationsCreate => .ok (inputEntry context field Relation.connect)
  | relationsUpdate => .ok (inputEntry context field (Relation.change field))

def choose (view : View) (context : Context) (model : Model) (field : Field) :
    Except AnnotationError Selected :=
  match Documentation.read field.documentation with
  | .error error => .error error
  | .ok doc =>
    if doc.hidden || !view.admits context model field doc then .ok .omitted
    else view.entry context field doc

end View
end ModelViews
