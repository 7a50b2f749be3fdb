import ModelViews.Definition.Literal
import ModelViews.Directive
import ModelViews.Text.Digit

namespace ModelViews

inductive Scalar where
  | string | int | bigInt | float | decimal | boolean | dateTime | bytes | json
  deriving DecidableEq, Repr

namespace Scalar

def all : List Scalar :=
  [string, int, bigInt, float, decimal, boolean, dateTime, bytes, json]

def name : Scalar → String
  | string => "String"
  | int => "Int"
  | bigInt => "BigInt"
  | float => "Float"
  | decimal => "Decimal"
  | boolean => "Boolean"
  | dateTime => "DateTime"
  | bytes => "Bytes"
  | json => "Json"

def ofName? (name : String) : Option Scalar :=
  all.find? fun scalar => scalar.name = name

def definition : Scalar → String
  | string => "string"
  | int => "number.integer"
  | bigInt => "bigint"
  | float => "number"
  | decimal => "number"
  | boolean => "boolean"
  | dateTime => "Date"
  | bytes => "TypedArray.Uint8"
  | json => "unknown"

def isNumeric : Scalar → Bool
  | int | bigInt | float | decimal => true
  | _ => false

end Scalar

inductive LimitKey where
  | minLength | maxLength | minimum | maximum | exclusiveMinimum | exclusiveMaximum
  deriving DecidableEq, Repr

namespace LimitKey

def all : List LimitKey :=
  [minLength, maxLength, minimum, maximum, exclusiveMinimum, exclusiveMaximum]

def name : LimitKey → String
  | minLength => "minLength"
  | maxLength => "maxLength"
  | minimum => "minimum"
  | maximum => "maximum"
  | exclusiveMinimum => "exclusiveMinimum"
  | exclusiveMaximum => "exclusiveMaximum"

def ofName? (name : String) : Option LimitKey :=
  all.find? fun key => key.name = name

end LimitKey

structure Refinement where
  key : LimitKey
  value : String
  deriving DecidableEq, Repr

namespace Refinement

def isUnsignedNumeral (text : List Char) : Bool :=
  let whole := text.takeWhile Text.isDigit
  !whole.isEmpty &&
    match text.dropWhile Text.isDigit with
    | [] => true
    | c :: fraction => c == '.' && !fraction.isEmpty && fraction.all Text.isDigit

def isNumeral : List Char → Bool
  | '-' :: rest => isUnsignedNumeral rest
  | text => isUnsignedNumeral text

def ofSegment? (segment : String) : Option Refinement :=
  match Text.cutAt? ':' segment.toList with
  | none => none
  | some (before, after) =>
    (LimitKey.ofName? (String.ofList (Text.trim before))).map fun key =>
      ⟨key, String.ofList (Text.trim after)⟩

def ofPayload (payload : String) : List (String × Refinement) :=
  (Text.pieces ',' payload).filterMap fun segment => (ofSegment? segment).map (payload, ·)

def written (annotations : List Annotation) : List (String × Refinement) :=
  let payloads := Annotation.optionPayloads annotations
  payloads.flatMap ofPayload

/-- Accepts refinements whose values are numerals; the first other one refuses its payload. -/
def check : List (String × Refinement) → Except AnnotationError (List Refinement)
  | [] => .ok []
  | (payload, refinement) :: rest =>
    if isNumeral refinement.value.toList then
      match check rest with
      | .error error => .error error
      | .ok refinements => .ok (refinement :: refinements)
    else .error (.badLimit payload)

def last? (key : LimitKey) (refinements : List Refinement) : Option String :=
  (refinements.reverse.find? fun refinement => refinement.key = key).map Refinement.value

end Refinement

structure Limit where
  strict : Bool
  value : String
  deriving DecidableEq, Repr

def Limit.comparator (limit : Limit) : String :=
  if limit.strict then "<" else "<="

namespace Scalar

/-- The limit of one side: an exclusive key goes before an inclusive one. -/
def limit? (exclusive? : Option LimitKey) (inclusive : LimitKey) (refinements : List Refinement) :
    Option Limit :=
  match exclusive?.bind (Refinement.last? · refinements) with
  | some value => some ⟨true, value⟩
  | none => (Refinement.last? inclusive refinements).map (⟨false, ·⟩)

def lower? (scalar : Scalar) (refinements : List Refinement) : Option Limit :=
  if scalar = string then limit? none .minLength refinements
  else if scalar.isNumeric then limit? (some .exclusiveMinimum) .minimum refinements
  else none

def upper? (scalar : Scalar) (refinements : List Refinement) : Option Limit :=
  if scalar = string then limit? none .maxLength refinements
  else if scalar.isNumeric then limit? (some .exclusiveMaximum) .maximum refinements
  else none

/-- A limit in the spelling of a scalar's values: big integers have no fraction and end in `n`. -/
def spell (scalar : Scalar) : Option Limit → Except AnnotationError (Option Limit)
  | none => .ok none
  | some limit =>
    if scalar = bigInt then
      if limit.value.toList.contains '.' then .error (.fractionalLimit limit.value)
      else .ok (some { limit with value := limit.value ++ "n" })
    else .ok (some limit)

def bounded (definition : String) (lower upper : Option Limit) : String :=
  (match lower with
    | none => ""
    | some limit => limit.value ++ " " ++ limit.comparator ++ " ") ++
  definition ++
  (match upper with
    | none => ""
    | some limit => " " ++ limit.comparator ++ " " ++ limit.value)

def refined (scalar : Scalar) (annotations : List Annotation) : Except AnnotationError String := do
  let refinements ← Refinement.check (Refinement.written annotations)
  let lower ← scalar.spell (scalar.lower? refinements)
  let upper ← scalar.spell (scalar.upper? refinements)
  return bounded scalar.definition lower upper

def type (scalar : Scalar) (annotations : List Annotation) : Except AnnotationError String :=
  (scalar.refined annotations).map Definition.quote

end Scalar
end ModelViews
