namespace ModelViews.Command

structure OptionForm (ι : Type) where
  key : ι
  long : List String
  short : List Char := []
  takesValue : Bool := true

structure Given (ι : Type) where
  key : ι
  value : String

structure Glance (ι : Type) where
  given : List (Given ι)
  waiting : Option ι

structure Given.Line (ι : Type) where
  options : List (Given ι)
  operands : List String

namespace OptionForm

variable {ι : Type}

def readShort (forms : List (OptionForm ι)) : List Char → Option (Glance ι)
  | [] => some ⟨[], none⟩
  | c :: rest =>
    match forms.find? fun form => form.short.contains c with
    | none => none
    | some form =>
      if form.takesValue then
        if rest.isEmpty then some ⟨[], some form.key⟩
        else some ⟨[⟨form.key, String.ofList rest⟩], none⟩
      else
        (readShort forms rest).map fun others => { others with given := ⟨form.key, ""⟩ :: others.given }

def readLong (forms : List (OptionForm ι)) (text : List Char) : Option (Glance ι) :=
  let name := text.takeWhile (· != '=')
  match forms.find? fun form => form.long.contains (String.ofList name) with
  | none => none
  | some form =>
    match text.dropWhile (· != '='), form.takesValue with
    | [], true => some ⟨[], some form.key⟩
    | [], false => some ⟨[⟨form.key, ""⟩], none⟩
    | _ :: value, true => some ⟨[⟨form.key, String.ofList value⟩], none⟩
    | _ :: _, false => none

inductive Argument where
  | operand
  | short (letters : List Char)
  | long (text : List Char)
  deriving DecidableEq, Repr

def classify (argument : String) : Argument :=
  match argument.toList with
  | '-' :: '-' :: text => .long text
  | ['-'] => .operand
  | '-' :: letters => .short letters
  | _ => .operand

/-- The options that an argument gives, or nothing if it is an operand. Unknown options and values
for options without one are refused. -/
def glance? (forms : List (OptionForm ι)) (argument : String) : Option (Option (Glance ι)) :=
  match classify argument with
  | .operand => none
  | .short letters => some (readShort forms letters)
  | .long text => some (readLong forms text)

def readLine (forms : List (OptionForm ι)) (mixed : Bool) :
    List String → Option (Given.Line ι)
  | [] => some ⟨[], []⟩
  | argument :: rest =>
    if argument = "--" then some ⟨[], rest⟩
    else
      match glance? forms argument with
      | none =>
        if mixed then
          (readLine forms mixed rest).map fun line =>
            { line with operands := argument :: line.operands }
        else some ⟨[], argument :: rest⟩
      | some none => none
      | some (some ⟨given, none⟩) =>
        (readLine forms mixed rest).map fun line => { line with options := given ++ line.options }
      | some (some ⟨given, some key⟩) =>
        match rest with
        | [] => none
        | value :: rest =>
          (readLine forms mixed rest).map fun line =>
            { line with options := given ++ ⟨key, value⟩ :: line.options }

end OptionForm

namespace Given.Line

variable {ι : Type} [DecidableEq ι]

def has (line : Given.Line ι) (key : ι) : Bool :=
  line.options.any fun given => given.key = key

def values (line : Given.Line ι) (key : ι) : List String :=
  (line.options.filter fun given => given.key = key).map Given.value

def value? (line : Given.Line ι) (key : ι) : Option String :=
  (line.values key).getLast?

end Given.Line
end ModelViews.Command
