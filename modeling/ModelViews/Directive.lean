import ModelViews.Text.Blank
import ModelViews.Text.Search

namespace ModelViews

inductive DirectiveKind where
  | hidden
  | hiddenInput
  | hiddenCreate
  | hiddenUpdate
  | options
  | typeOverwrite
  deriving DecidableEq, Repr

namespace DirectiveKind

def all : List DirectiveKind :=
  [hidden, hiddenInput, hiddenCreate, hiddenUpdate, options, typeOverwrite]

def label : DirectiveKind → String
  | hidden => "HIDDEN"
  | hiddenInput => "HIDDEN_INPUT"
  | hiddenCreate => "HIDDEN_INPUT_CREATE"
  | hiddenUpdate => "HIDDEN_INPUT_UPDATE"
  | options => "OPTIONS"
  | typeOverwrite => "TYPE_OVERWRITE"

def aliases : DirectiveKind → List String
  | hidden => ["@prisma-arktype.hide", "@prisma-arktype.hidden"]
  | hiddenInput => ["@prisma-arktype.input.hide", "@prisma-arktype.input.hidden"]
  | hiddenCreate => ["@prisma-arktype.create.input.hide", "@prisma-arktype.create.input.hidden"]
  | hiddenUpdate => ["@prisma-arktype.update.input.hide", "@prisma-arktype.update.input.hidden"]
  | options => ["@prisma-arktype.options"]
  | typeOverwrite => ["@prisma-arktype.typeOverwrite"]

def occursOn (line : String) (kind : DirectiveKind) : Bool :=
  kind.aliases.any fun name => Text.occursIn name line

def firstOn? (table : List DirectiveKind) (line : String) : Option DirectiveKind :=
  table.find? (occursOn line)

/-- The directive of a line, if it is a directive line. -/
def ofLine? (line : String) : Option DirectiveKind :=
  firstOn? all line

end DirectiveKind

structure Annotation where
  kind : DirectiveKind
  payload : Option String := none
  deriving DecidableEq, Repr

/-- Why an annotation is refused: a directive line without the payload it needs, a limit that is no
numeral, or a limit of a whole-number type that has a fraction. -/
inductive AnnotationError where
  | missingPayload (kind : DirectiveKind) (line : String)
  | badLimit (payload : String)
  | fractionalLimit (limit : String)
  deriving DecidableEq, Repr

namespace AnnotationError

def kind : AnnotationError → DirectiveKind
  | missingPayload kind _ => kind
  | badLimit _ => .options
  | fractionalLimit _ => .options

def line : AnnotationError → String
  | missingPayload _ line => line
  | badLimit payload => payload
  | fractionalLimit limit => "BigInt bound must be an integer: " ++ limit

def message (error : AnnotationError) : String :=
  "Invalid " ++ error.kind.label ++ " annotation: " ++ error.line

end AnnotationError

namespace Annotation

/-- The text between the first opening of an options directive and the last closing brace. -/
def optionsPayload? (line : String) : Option String :=
  match Text.after? "@prisma-arktype.options\x7b".toList line.toList with
  | none => none
  | some rest =>
    match Text.beforeLast? '}' rest with
    | none => none
    | some body => if body.isEmpty then none else some (String.ofList body)

/-- The trimmed text after the first equals sign of a type overwrite. -/
def overwritePayload? (line : String) : Option String :=
  match Text.after? "@prisma-arktype.typeOverwrite=".toList line.toList with
  | none => none
  | some rest =>
    let body := Text.trim rest
    if body.isEmpty then none else some (String.ofList body)

def ofLine (kind : DirectiveKind) (line : String) : Except AnnotationError Annotation :=
  match kind with
  | .options =>
    match optionsPayload? line with
    | some payload => .ok ⟨.options, some payload⟩
    | none => .error (.missingPayload .options line)
  | .typeOverwrite =>
    match overwritePayload? line with
    | some payload => .ok ⟨.typeOverwrite, some payload⟩
    | none => .error (.missingPayload .typeOverwrite line)
  | kind => .ok ⟨kind, none⟩

def anyOf (kind : DirectiveKind) (annotations : List Annotation) : Bool :=
  annotations.any fun annotation => annotation.kind = kind

def optionPayloads (annotations : List Annotation) : List String :=
  annotations.filterMap fun annotation =>
    if annotation.kind = .options then annotation.payload else none

def typeOverwrite? (annotations : List Annotation) : Option String :=
  (annotations.find? fun annotation => annotation.kind = .typeOverwrite).bind Annotation.payload

def optionsSuffix (annotations : List Annotation) : String :=
  let payloads := optionPayloads annotations
  if payloads.isEmpty then "" else ".pipe(" ++ ", ".intercalate payloads ++ ")"

end Annotation
end ModelViews
