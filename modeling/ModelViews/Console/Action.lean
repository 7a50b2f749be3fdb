import ModelViews.Console.Arguments.Value
import ModelViews.Json.Notation
import ModelViews.Text.Blank

namespace ModelViews.Action

open Arguments

structure Error where
  arguments : List Char
  parameters : List Char
  fault : Fault
  deriving DecidableEq, Repr

def Error.message (error : Error) : String :=
  match error.fault with
  | .flaw flaw =>
    "error parsing " ++ shown error.arguments ++ " in " ++ shown error.parameters ++ "; " ++
      flaw.message
  | .value flaw => "error parsing " ++ shown error.parameters ++ "; " ++ flaw.message
where
  shown (text : List Char) : String :=
    String.ofList (Json.quotedText (String.ofList text))

def inName (c : Char) : Bool :=
  Text.isWord c || c == '.'

def arguments (parameters : List Char) : List Char :=
  let text := Text.trim parameters
  match text.dropWhile inName with
  | [] => ['(', ')']
  | '(' :: rest =>
    if rest.getLast? = some ')' && !rest.contains '\n' then '(' :: rest else text
  | _ => text

def check (parameters : List Char) : Except Error Unit :=
  if parameters.isEmpty then .ok ()
  else
    match fault? (arguments parameters) with
    | none => .ok ()
    | some fault => .error ⟨arguments parameters, parameters, fault⟩

end ModelViews.Action
