import Logline.Request

/-!
# The command line

What a user can ask for on the command line, and the grammar it is written in: a command with
options in front of it and behind it.

## What is here

* `Invocation` and `Action` — a command line that was understood.
* `Rejection` — why one was not, or what it asks for instead of an action; `Rejection.exitCode`.
* `Command` and `Opt` — the commands and which options each of them has.
-/

set_option autoImplicit false
namespace Logline

/-- What the program is to do. -/
inductive Action where
  | render (q : Request)
  | presets
  | codes
  deriving DecidableEq, Repr

/-- A command line that was understood. -/
structure Invocation where
  /-- The configuration that was named. -/
  config : Option String
  action : Action
  deriving DecidableEq, Repr

/-- Why a command line leads to no action. -/
inductive Rejection where
  /-- It asks for help. -/
  | help
  /-- It asks for the version. -/
  | version
  /-- It says nothing, so help is due. -/
  | helpForNothing
  | missingCommand
  | unknownCommand
  | unknownArgument
  /-- An option has no value, or one that is none of its values. -/
  | invalidValue
  /-- The value of an option is no number in its range. -/
  | invalidNumber
  /-- An option that has no value is given one. -/
  | unwantedValue
  /-- An option is given twice, or two options exclude each other. -/
  | conflict
  deriving DecidableEq, Repr

/-- What the program exits with.  To be asked for help or the version is no failure. -/
def Rejection.exitCode : Rejection → Nat
  | help | version => 0
  | _ => 2

/-! ## Options -/

/-- An option. -/
inductive Opt where
  | config
  | pattern
  | preset
  | utc
  | level
  | component
  | source
  | line
  | help
  | version
  deriving DecidableEq, Repr

namespace Opt

/-- The name behind two dashes. -/
def long : Opt → String
  | config => "config"
  | pattern => "pattern"
  | preset => "preset"
  | utc => "utc"
  | level => "level"
  | component => "prefix"
  | source => "source"
  | line => "line"
  | help => "help"
  | version => "version"

/-- The letter behind one dash. -/
def short? : Opt → Option Char
  | pattern => some 'p'
  | level => some 'l'
  | help => some 'h'
  | version => some 'V'
  | _ => none

/-- Whether the option has a value. -/
def hasValue : Opt → Bool
  | utc | help | version => false
  | _ => true

end Opt

/-! ## Commands -/

/-- A place where options can stand: in front of the command, or behind one. -/
inductive Command where
  | root
  | render
  | presets
  | codes
  deriving DecidableEq, Repr

namespace Command

/-- The options that a place has. -/
def options : Command → List Opt
  | root => [.config, .help, .version]
  | render => [.pattern, .preset, .utc, .level, .component, .source, .line, .config, .help]
  | presets | codes => [.config, .help]

/-- The option with a name behind two dashes. -/
def ofLong? (c : Command) (name : String) : Option Opt := c.options.find? fun o ↦ o.long == name

/-- The option with a letter behind one dash. -/
def ofShort? (c : Command) (letter : Char) : Option Opt :=
  c.options.find? fun o ↦ o.short? == some letter

/-- The names of the commands; `none` stands for the request for help on one of them. -/
def names : List (String × Option Command) :=
  [("render", some render), ("presets", some presets), ("codes", some codes), ("help", none)]

/-- What a word means as a command.  Only at the root is there a command to come. -/
def subcommand? (c : Command) (word : String) : Option (Option Command) :=
  if c = root then names.lookup word else none

end Command
end Logline
