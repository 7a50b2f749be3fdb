import ModelViews.Files.Path

namespace ModelViews

inductive LogLevel where
  | debug | info | warning | error
  deriving DecidableEq, Repr

def LogLevel.name : LogLevel → String
  | debug => "DEBUG"
  | info => "INFO"
  | warning => "WARNING"
  | error => "ERROR"

inductive LogEntry where
  | undefinedEnum (enum field : String)
  | compiled (count : Nat) (view : String)
  | wrote (path : Path)
  | published (count : Nat) (output : Path)
  | malformedRequest (reason : String)
  | generationFailed
  | watching (schema : Path)
  | stoppedWatching (schema : Path)
  | changed (schema : Path)
  | regenerationFailed (schema : Path)
  deriving DecidableEq, Repr

namespace LogEntry

def level : LogEntry → LogLevel
  | undefinedEnum _ _ => .warning
  | compiled _ _ => .info
  | wrote _ => .debug
  | published _ _ => .info
  | malformedRequest _ => .warning
  | generationFailed => .error
  | watching _ => .info
  | stoppedWatching _ => .info
  | changed _ => .info
  | regenerationFailed _ => .error

def text : LogEntry → String
  | undefinedEnum enum field =>
    "Enum " ++ enum ++ " referenced by field " ++ field ++ " is not defined; skipping"
  | compiled count view => "Compiled " ++ toString count ++ " " ++ view ++ " schema(s)"
  | wrote path => "Wrote " ++ path.text
  | published count output => "Wrote " ++ toString count ++ " file(s) to " ++ output.text
  | malformedRequest reason => "Discarding malformed request: " ++ reason
  | generationFailed => "Generation failed"
  | watching schema => "Watching " ++ schema.text
  | stoppedWatching schema => "Stopped watching " ++ schema.text
  | changed schema => "Detected change in " ++ schema.text
  | regenerationFailed schema => "Error while regenerating from " ++ schema.text

end LogEntry

structure Logged (ε α : Type) where
  log : List LogEntry
  outcome : Except ε α

namespace Logged

variable {ε α β : Type}

def done (value : α) : Logged ε α :=
  ⟨[], .ok value⟩

def fail (error : ε) : Logged ε α :=
  ⟨[], .error error⟩

def andThen (first : Logged ε α) (next : α → Logged ε β) : Logged ε β :=
  match first.outcome with
  | .error error => ⟨first.log, .error error⟩
  | .ok value => ⟨first.log ++ (next value).log, (next value).outcome⟩

def report (entry : LogEntry) : Logged ε Unit :=
  ⟨[entry], .ok ()⟩

instance : Monad (Logged ε) where
  pure := done
  bind := andThen

def collect (step : α → Logged ε (Option β)) : List α → Logged ε (List β)
  | [] => done []
  | first :: rest => do
    let result ← step first
    let results ← collect step rest
    return result.toList ++ results

end Logged
end ModelViews
