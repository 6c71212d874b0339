import Std.Time.DateTime
import Logline.Program
import Logline.Zone.Named

/-!
# The executable

The outer layer of the program: it asks the host what `Program.run` needs to know, and writes what
`Program.run` says.

## What is here

* `main` — one run.
-/

set_option autoImplicit false
namespace Logline

/-- What help says. -/
def usage : String :=
  "usage: logline [--config PATH] render [-p PATTERN | --preset NAME] [--utc] [-l LEVEL]\n" ++
  "               [--prefix TEXT] [--source TEXT] [--line N] [WORD ...]\n" ++
  "       logline [--config PATH] presets\n" ++
  "       logline [--config PATH] codes\n"

/-- The version of the program. -/
def versionLine : String := "logline 0.1.0\n"

/-- What is wrong with a command line. -/
def Rejection.message : Rejection → String
  | help | version | helpForNothing => ""
  | missingCommand => "error: a command is missing\n\n"
  | unknownCommand => "error: there is no such command\n\n"
  | unknownArgument => "error: there is no such argument\n\n"
  | invalidValue => "error: an option has no value, or one that it cannot have\n\n"
  | invalidNumber => "error: the value of an option is not a number in its range\n\n"
  | unwantedValue => "error: an option is given a value that it does not take\n\n"
  | conflict => "error: an option is given twice, or two options exclude each other\n\n"

/-- What is at a path of the host.  A path that leads through a file (error 20) leads nowhere. -/
def readEntry (path : String) : IO Entry := do
  try
    let content ← IO.FS.readBinFile path
    pure (.file content.toList)
  catch
    | .noFileOrDirectory .. | .inappropriateType _ 20 _ => pure .missing
    | .inappropriateType _ 21 _ => pure .folder
    | .permissionDenied _ number reason =>
      pure (.unreadable (reason ++ " (os error " ++ toString number ++ ")"))
    | e => pure (.unreadable e.toString)

/-- What a run finds around it; it looks at no file but the configuration. -/
def lookAround (i : Invocation) : IO World := do
  let home := (← IO.getEnv "HOME").filter (· ≠ "")
  let configHome ← IO.getEnv "XDG_CONFIG_HOME"
  let blind : Host :=
    { home
      configHome
      read := fun _ ↦ .missing
      wording := fun _ ↦ "this is not a configuration" }
  let path := (i.config <|> (Config.path blind).toOption).map blind.expand
  let entry ← path.elim (pure .missing) readEntry
  let instant := (← Std.Time.Timestamp.now).toNanosecondsSinceUnixEpoch.val
  let second := instant / 1000000000
  let zone := HostZone.ofName (← IO.getEnv "TZ") second
  let now := (Timestamp.ofEpoch? second (instant % 1000000000) zone.offset).getD .epoch
  pure
    { host := { blind with read := fun p ↦ if some p = path then entry else .missing }
      zone
      now
      clock := (now.local?.getD now.utc).clock
      breakdown := fun _ ↦ Bytes.ofText "the program has broken down\n" }

/-- Writes bytes; whether they were taken. -/
def put (stream : IO.FS.Stream) (bytes : Bytes) : IO Bool := do
  try
    stream.write ⟨bytes.toArray⟩
    stream.flush
    pure true
  catch _ => pure false

end Logline

open Logline in
/-- One run of the program. -/
def main (args : List String) : IO UInt32 := do
  let stdout ← IO.getStdout
  let stderr ← IO.getStderr
  match Invocation.read args with
  | .error .help => stdout.putStr usage; pure 0
  | .error .version => stdout.putStr versionLine; pure 0
  | .error e => stderr.putStr (e.message ++ usage); pure (UInt32.ofNat e.exitCode)
  | .ok i =>
    let world ← lookAround i
    let finish := Program.run world i
    let written ← put stdout finish.stdout
    let finish := if written then finish else Program.run { world with writable := false } i
    let _ ← put stderr finish.stderr
    pure (UInt32.ofNat finish.exit)
