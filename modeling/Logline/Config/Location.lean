import Logline.Config
import Logline.Error
import Logline.Toml.Reader

/-!
# Where configurations are

A configuration is a file of the host: one that is named, or the one at the place that hosts keep
configurations at.

## What is here

* `Host` — what the program asks its host: the home of the user, the place for configurations, what
  is at a path, and how documents are refused.
* `Config.path` — where the configuration is unless another one is named, on a host that has a place
  for it.
* `Config.loadFrom` and `Config.load` — reading it.  A missing file is an empty configuration.
-/

set_option autoImplicit false
namespace Logline

/-- What is at a path. -/
inductive Entry where
  /-- Nothing is there, as far as the host lets anyone see. -/
  | missing
  | folder
  | file (content : Bytes)
  /-- Something is there, and the host does not let it be read: what the host says to that. -/
  | unreadable (reason : String)

/-- What the program asks its host. -/
structure Host where
  /-- The home of the user, if the user has one. -/
  home : Option String
  /-- The place for configurations that the environment names, if it names one. -/
  configHome : Option String
  /-- What is at a path. -/
  read : String → Entry
  /-- How the reader of documents words what is wrong with a text that it does not take. -/
  wording : String → String

namespace Host

/-- A path with the home in place of a tilde, if the tilde is its first part and there is a home. -/
def expand (h : Host) (path : String) : String :=
  match h.home, path.toList with
  | some home, ['~'] => home
  | some home, '~' :: '/' :: rest => home ++ String.ofList ('/' :: rest)
  | _, _ => path

/-- A path with one more part. -/
def join (base part : String) : String :=
  if base.toList.getLast? = some '/' then base ++ part else base ++ "/" ++ part

/-- The place for configurations.  A relative path does not name one, and where there is no home
there is no such place, even if one is named. -/
def configFolder? (h : Host) : Option String :=
  h.home.map fun home ↦
    match h.configHome with
    | some path => if path.toList.head? = some '/' then path else join home ".config"
    | none => join home ".config"

end Host

namespace Config

/-- The configuration that the bytes of a file hold; `wording` says what is wrong with a text that
holds none. -/
def ofBytes (wording : String → String) (content : Bytes) : Except Error Config :=
  match content.toText? with
  | none => .error (.file .notText)
  | some text =>
    match (Toml.read? text).bind ofToml? with
    | none => .error (.configParse (wording text))
    | some config => .ok config

/-- The configuration in a named file. -/
def loadFrom (h : Host) (path : String) : Reported (Except Error Config) :=
  match h.read (h.expand path) with
  | .missing => do
    Reported.say .debug "CONFIG" "Config file not found, using defaults"
    pure (.ok {})
  | .folder => pure (.error (.file .isFolder))
  | .file content => pure (ofBytes h.wording content)
  | .unreadable reason => pure (.error (.file (.other reason)))

/-- Where the configuration is unless another one is named. -/
def path (h : Host) : Except Error String :=
  match h.configFolder? with
  | some folder => .ok (Host.join (Host.join folder "patlog") "patlog.toml")
  | none => .error .configDirNotFound

/-- The configuration at its usual place. -/
def load (h : Host) : Reported (Except Error Config) := do
  Reported.say .debug "CONFIG" "Loading config from default location"
  match path h with
  | .error e => pure (.error e)
  | .ok place =>
    match ← loadFrom h place with
    | .ok config => do
      Reported.say .info "CONFIG" ("Config loaded from " ++ place)
      pure (.ok config)
    | .error e => pure (.error e)

end Config
end Logline
