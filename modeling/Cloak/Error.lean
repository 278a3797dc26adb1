import Cloak.Text.Basic

/-! Faults of files and the errors of a run, with their wording. -/

namespace Cloak

/-- Why a file cannot be read or written, or a program not be started. -/
inductive FileFault where
  | notFound
  | notDirectory
  | isDirectory
  | nameTooLong
  | permissionDenied
  | noSpace
  | argumentsTooLong
  | nulInName
  | nulInArgument
  | notUtf8
  | other (message : String)
  deriving DecidableEq, Repr

/-- The fault in words. -/
def FileFault.message : FileFault → String
  | .notFound => "No such file or directory (os error 2)"
  | .notDirectory => "Not a directory (os error 20)"
  | .isDirectory => "Is a directory (os error 21)"
  | .nameTooLong => "File name too long (os error 36)"
  | .permissionDenied => "Permission denied (os error 13)"
  | .noSpace => "No space left on device (os error 28)"
  | .argumentsTooLong => "Argument list too long (os error 7)"
  | .nulInName => "file name contained an unexpected NUL byte"
  | .nulInArgument => "nul byte found in provided data"
  | .notUtf8 => "stream did not contain valid UTF-8"
  | .other message => message

/-- What can go wrong in a run, with the words of the part that failed. -/
inductive Error where
  | missingArgument (what : String)
  | externalTool (tool message : String)
  | seed (message : String)
  | config (message : String)
  | file (fault : FileFault)
  | serialization
  | noFreshName
  | other (message : String)
  deriving DecidableEq, Repr

namespace Error

/-- The error in words. -/
def message : Error → String
  | .missingArgument what => s!"Missing argument: {what}"
  | .externalTool tool message => s!"External tool `{tool}` failed: {message}"
  | .seed message => s!"Seed error: {message}"
  | .config message => s!"Invalid configuration: {message}"
  | .file fault => s!"IO error: {fault.message}"
  | .serialization => "Serialization error: malformed document"
  | .noFreshName => "no fresh name was found"
  | .other message => message

/-- What lies behind an error, in words. -/
def causes : Error → List String
  | .file fault => [fault.message]
  | _ => []

end Error
end Cloak
