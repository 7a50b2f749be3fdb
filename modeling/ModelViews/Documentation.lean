import ModelViews.Directive

namespace ModelViews

structure Documentation where
  annotations : List Annotation
  description : String
  deriving DecidableEq, Repr

namespace Documentation

/-- The lines that name a directive, with the directive that each names. -/
def directiveLines (text : String) : List (DirectiveKind × String) :=
  (Text.lines text).filterMap fun line => (DirectiveKind.ofLine? line).map (·, line)

def annotate : List (DirectiveKind × String) → Except AnnotationError (List Annotation)
  | [] => .ok []
  | (kind, line) :: rest =>
    match Annotation.ofLine kind line with
    | .error error => .error error
    | .ok first =>
      match annotate rest with
      | .error error => .error error
      | .ok others => .ok (first :: others)

/-- The lines that name no directive, joined and trimmed. -/
def prose (text : String) : String :=
  Text.trimmed ("\n".intercalate
    ((Text.lines text).filter fun line => (DirectiveKind.ofLine? line).isNone))

def read (text : Option String) : Except AnnotationError Documentation :=
  let text := text.getD ""
  match annotate (directiveLines text) with
  | .error error => .error error
  | .ok annotations => .ok ⟨annotations, prose text⟩

def hides (kind : DirectiveKind) (doc : Documentation) : Bool :=
  Annotation.anyOf kind doc.annotations

def hidden (doc : Documentation) : Bool :=
  doc.hides .hidden

def typeOverwrite? (doc : Documentation) : Option String :=
  Annotation.typeOverwrite? doc.annotations

end Documentation
end ModelViews
