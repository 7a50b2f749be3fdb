import ModelViews.Compilation
import ModelViews.Console.Screen
import ModelViews.Datamodel.Document
import ModelViews.Files.Error
import ModelViews.Json.Reader
import ModelViews.Settings
import ModelViews.Text.Utf8

namespace ModelViews

inductive Failure where
  | directive (error : AnnotationError)
  | document (error : DocumentError)
  | settings (error : SettingsError)
  | noMembers (kind : String)
  | file (error : FileError)
  | noSchema (schema : String)
  | encoding (fault : Text.Utf8.Fault)
  | unreadable (error : Json.ReadError)
  | source (reason : String)
  | screen (fault : Screen.Fault)
  deriving DecidableEq, Repr

namespace Failure

def message : Failure → String
  | directive error => error.message
  | document error => error.message
  | settings error => error.message
  | noMembers kind => "'" ++ kind ++ "' object has no attribute 'get'"
  | file error => error.message
  | noSchema schema => "Schema file not found: " ++ schema
  | encoding fault => fault.message
  | unreadable error => error.message
  | source reason => reason
  | screen fault => fault.message

/-- Whether a failure lies in what the user wrote: a value of the wrong content, or a file that is
not there. A value of the wrong kind and a flaw of the file system do not. -/
def isReported : Failure → Bool
  | directive _ => true
  | document (.problems _) => true
  | document .noDatamodel => true
  | document _ => false
  | settings (.problems _) => true
  | settings (.badLength _ _) => true
  | settings _ => false
  | noMembers _ => false
  | file .badName => true
  | file error => error.isMissing
  | noSchema _ => true
  | encoding _ => true
  | unreadable (.tooDeep _) => false
  | unreadable _ => true
  | source _ => false
  | screen (.tag (.number _)) => true
  | screen (.style _) => true
  | screen _ => false

end Failure
end ModelViews
