import ModelViews.Console.Arguments.Grammar

namespace ModelViews.Arguments

open Grammar

def laterFlaw? (setting : Setting) (furthest : Nat) : Option Flaw :=
  match setting.tokens.back? with
  | some ⟨.broken flaw isFirm, _, opened, _⟩ =>
    if setting.tokens.size ≤ furthest + 1 then none
    else if isFirm then some flaw
    else
      match opened with
      | (opening, line) :: _ =>
        if setting.tokens[furthest]?.any (line < ·.line) then
          some (setting.level.report (.neverClosed opening))
        else none
      | [] => none
  | _ => none

def reported (setting : Setting) (furthest : Nat) (flaw : Flaw) : Flaw :=
  if flaw = .tooDeep || setting.tokens[furthest]?.any (·.sawEnd) then flaw
  else (laterFlaw? setting furthest).getD flaw

def mostNested : Nat := 6000

def readTokens (tokens : Array Placed) (level : Level) : Except Flaw Node :=
  let read := reading mostNested
  let reader := if level.inTemplate then template read else whole read
  let setting : Setting := ⟨tokens, false, mostNested, level⟩
  match reader setting ⟨0, 0, {}⟩ with
  | (.found node, _) => .ok node
  | (.flawed flaw, progress) => .error (reported setting progress.furthest flaw)
  | (.missed, progress) =>
    match reader { setting with hints := true } ⟨0, progress.furthest, {}⟩ with
    | (.flawed flaw, progress) => .error (reported setting progress.furthest flaw)
    | (_, again) =>
      if tokens[progress.furthest]?.any (·.token = .indent) then
        .error (level.report .unexpectedIndent)
      else .error ((laterFlaw? setting again.furthest).getD (level.report .invalid))

def readText (inTemplate : Bool) : Nat → List Char → Except Flaw Node
  | 0, _ => .error .tooDeep
  | depth + 1, text =>
    readTokens (tokens text)
      ⟨inTemplate, fun text => do discard <| readText true depth (text ++ ['\n'])⟩

def read (text : List Char) : Except Flaw Node :=
  if text.contains (Char.ofNat 0) then .error .nul else readText false (text.length + 1) text

end ModelViews.Arguments
