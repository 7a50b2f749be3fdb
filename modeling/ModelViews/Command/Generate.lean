import ModelViews.Command.Desk
import ModelViews.Command.Invocation
import ModelViews.Generation

namespace ModelViews.Command

def summary (schemas : Schemas) : String :=
  Screen.table ("view", "schemas")
    (("Enum", schemas.enums.length) ::
      schemas.views.map fun (view, rows) => (view.name, rows.length))

def wroteText (count : Nat) (output : Path) : String :=
  "[green]Wrote[/green] " ++ toString count ++ " file(s) to " ++ output.text

def generateOnce (schema : Path) (settings : Settings) (desk : Desk) : Desk × Option Failure :=
  let generated := desk.tree.generate schema settings desk.limits
  let desk := { desk with tree := generated.tree }
  match generated.outcome with
  | .error failure => (desk, some failure)
  | .ok (schemas, paths) =>
    put (.styled (wroteText paths.length settings.output)) (desk.write (summary schemas))

def GenerateRequest.options (request : GenerateRequest) : Json :=
  .obj (("arktypeImportDependencyName", .str request.importName) ::
    match request.ignoredKeys with
    | none => []
    | some keys => [("ignoredKeysOnInputModels", .arr (keys.map .str))])

def GenerateRequest.settings (request : GenerateRequest) : Except SettingsError Settings :=
  Settings.resolve request.options (some (.str request.output))

end ModelViews.Command
