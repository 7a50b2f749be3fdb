import ModelViews.Command.Options
import ModelViews.Settings
/-!
What a command line asks for. Arguments that cannot be read come before a request for help, and that
before operands that are missing, too many or no paths.
-/
namespace ModelViews.Command

structure GenerateRequest where
  schema : Path
  output : String
  importName : String
  ignoredKeys : Option (List String)
  watch : Bool
  deriving DecidableEq, Repr

structure InspectRequest where
  schema : Path
  model : String
  view : Option String
  deriving DecidableEq, Repr

inductive Invocation where
  | help
  | misuse
  | generate (request : GenerateRequest)
  | inspect (request : InspectRequest)
  | serve
  deriving DecidableEq, Repr

inductive OptionKey where
  | help | verbose | output | importName | ignoreKey | watch | noWatch | model | view
  deriving DecidableEq, Repr

namespace Invocation

def helpForm : OptionForm OptionKey :=
  { key := .help, long := ["help"], short := ['h'], takesValue := false }

def rootForms : List (OptionForm OptionKey) :=
  [helpForm, { key := .verbose, long := ["verbose"], short := ['v'], takesValue := false }]

def generateForms : List (OptionForm OptionKey) :=
  [helpForm,
   { key := .output, long := ["output"], short := ['o'] },
   { key := .importName, long := ["import-name"] },
   { key := .ignoreKey, long := ["ignore-key"] },
   { key := .watch, long := ["watch"], takesValue := false },
   { key := .noWatch, long := ["no-watch"], takesValue := false }]

def inspectForms : List (OptionForm OptionKey) :=
  [helpForm,
   { key := .model, long := ["model"], short := ['m'] },
   { key := .view, long := ["view"] }]

def reading (forms : List (OptionForm OptionKey)) (mixed : Bool) (arguments : List String)
    (next : Given.Line OptionKey → Invocation) : Invocation :=
  match OptionForm.readLine forms mixed arguments with
  | none => .misuse
  | some line => if line.has .help then .help else next line

def isUsable (text : String) : Bool :=
  !(Path.ofText text).hasNul

def isWatch (given : Given OptionKey) : Bool :=
  given.key = .watch || given.key = .noWatch

def asksToWatch (line : Given.Line OptionKey) : Bool :=
  match (line.options.filter isWatch).getLast? with
  | some given => given.key = .watch
  | none => false

def repeated? (line : Given.Line OptionKey) (key : OptionKey) : Option (List String) :=
  if line.has key then some (line.values key) else none

def ofGenerate (line : Given.Line OptionKey) : Invocation :=
  let output := (line.value? .output).getD Settings.defaultOutput
  match line.operands with
  | [schema] =>
    if isUsable schema && isUsable output then
      .generate {
        schema := Path.ofText schema
        output := output
        importName := (line.value? .importName).getD Settings.standard.importName
        ignoredKeys := repeated? line .ignoreKey
        watch := asksToWatch line }
    else .misuse
  | _ => .misuse

def ofInspect (line : Given.Line OptionKey) : Invocation :=
  match line.operands, line.value? .model with
  | [schema], some model =>
    if isUsable schema then
      .inspect { schema := Path.ofText schema, model := model, view := line.value? .view }
    else .misuse
  | _, _ => .misuse

def ofServe (line : Given.Line OptionKey) : Invocation :=
  if line.operands.isEmpty then .serve else .misuse

def ofCommand (name : String) (arguments : List String) : Invocation :=
  if name = "generate" then reading generateForms true arguments ofGenerate
  else if name = "inspect" then reading inspectForms true arguments ofInspect
  else if name = "generator" then reading [helpForm] true arguments ofServe
  else reading rootForms false (name :: arguments) fun _ => .misuse

def ofArguments (arguments : List String) : Invocation :=
  reading rootForms false arguments fun line =>
    match line.operands with
    | [] => .misuse
    | name :: rest => ofCommand name rest

end Invocation
end ModelViews.Command
