/-!
# Errors

Everything that can go wrong outside rendering, by its cause.  The wording is in one place.

## What is here

* `FileError` — why a file could not be read or written.
* `Error`, with its text (`Error.message`) and whether another error stands behind it
  (`Error.hasCause`).
-/

set_option autoImplicit false
namespace Logline

/-- Why a file could not be read or written. -/
inductive FileError where
  | isFolder
  | notText
  | noSpace
  | other (text : String)
  deriving DecidableEq, Repr

/-- The text of a file error. -/
def FileError.message : FileError → String
  | isFolder => "Is a directory (os error 21)"
  | notText => "stream did not contain valid UTF-8"
  | noSpace => "No space left on device (os error 28)"
  | other text => text

/-- What can go wrong. -/
inductive Error where
  /-- No option has this name. -/
  | badOption (name : String)
  /-- The value has the wrong shape for the option of this name. -/
  | badValue (name : String)
  /-- This value stands for neither yes nor no. -/
  | notBool (text : String)
  /-- No preset has this name. -/
  | presetNotFound (name : String)
  | file (cause : FileError)
  /-- The configuration is not a document of its format, or a field has the wrong type; the wording
  is that of the reader of documents. -/
  | configParse (wording : String)
  /-- The host has no place for configurations. -/
  | configDirNotFound
  deriving DecidableEq, Repr

namespace Error

/-- The text of an error. -/
def message : Error → String
  | badOption name => "bad option: " ++ name
  | badValue name => "bad value for option: " ++ name
  | notBool text => "cannot convert to bool: " ++ text
  | presetNotFound name => "preset not found: " ++ name
  | file cause => "I/O error: " ++ cause.message
  | configParse wording => "parse error: " ++ wording
  | configDirNotFound => "config directory not found"

/-- Whether another error stands behind this one. -/
def hasCause : Error → Bool
  | file _ | configParse _ => true
  | _ => false

end Error
end Logline
