import ModelViews.Files.Path
import ModelViews.Json.Notation

namespace ModelViews

inductive FileFlaw where
  | missing
  | alreadyThere
  | busy
  | notFolder
  | isFolder
  | invalidArgument
  | nameTooLong
  | notEmpty
  deriving DecidableEq, Repr

namespace FileFlaw

def number : FileFlaw → Nat
  | missing => 2
  | busy => 16
  | alreadyThere => 17
  | notFolder => 20
  | isFolder => 21
  | invalidArgument => 22
  | nameTooLong => 36
  | notEmpty => 39

def message : FileFlaw → String
  | missing => "No such file or directory"
  | busy => "Device or resource busy"
  | alreadyThere => "File exists"
  | notFolder => "Not a directory"
  | isFolder => "Is a directory"
  | invalidArgument => "Invalid argument"
  | nameTooLong => "File name too long"
  | notEmpty => "Directory not empty"

end FileFlaw

/-- A flaw of the files with the path as the message shows it, or a path that is no file name. -/
inductive FileError where
  | flawed (flaw : FileFlaw) (shown : String)
  | badName
  deriving DecidableEq, Repr

namespace FileError

def met (flaw : FileFlaw) (path : Path) : FileError :=
  flawed flaw (String.ofList (Json.quotedText path.text))

def inListing (flaw : FileFlaw) (path : Path) : FileError :=
  flawed flaw ("PosixPath(" ++ String.ofList (Json.quotedText path.text) ++ ")")

def brief : FileError → String
  | flawed flaw _ => flaw.message
  | badName => "embedded null byte"

def message : FileError → String
  | flawed flaw shown => "[Errno " ++ toString flaw.number ++ "] " ++ flaw.message ++ ": " ++ shown
  | badName => "embedded null byte"

def isMissing : FileError → Bool
  | flawed .missing _ => true
  | _ => false

end FileError
end ModelViews
