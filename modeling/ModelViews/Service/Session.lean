import ModelViews.Service.Request

namespace ModelViews.Service

structure Served (σ ε : Type) where
  state : σ
  log : List LogEntry
  answers : List (Answer ε)
  failure : Option Failure

/-- The lines of the input, each with its line feed, and the last without one. -/
def inputLines (input : String) : List String :=
  let lines := Text.lines input
  lines.dropLast.map (· ++ "\n") ++ lines.getLast?.toList

def isBlankLine (line : String) : Bool :=
  Text.trimmed line = ""

/-- The lines of the input that are requests. -/
def requestLines (input : String) : List String :=
  (inputLines input).filter fun line => !isBlankLine line

section Sessions

variable {σ ε : Type} (generator : Generator σ ε) (limits : Json.Limits)

def answerAll (state : σ) : List String → Served σ ε
  | [] => ⟨state, [], [], none⟩
  | line :: rest =>
    match handleLine generator limits line state with
    | .error failure => ⟨state, [], [], some failure⟩
    | .ok first =>
      let others := answerAll first.state rest
      { others with log := first.log ++ others.log, answers := first.answer :: others.answers }

def serveWithin (input : String) (state : σ) : Served σ ε :=
  answerAll generator limits state (requestLines input)

end Sessions

def Served.lines {σ ε : Type} [Told ε] (served : Served σ ε) : List String :=
  served.answers.map fun answer => answer.json.render

def Served.tree (served : Served Tree Failure) : Tree :=
  served.state

def serve (input : String) (tree : Tree) : Served Tree Failure :=
  serveWithin publisher .standard input tree

end ModelViews.Service
