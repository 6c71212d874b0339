import Logline.CommandLine

/-!
# Reading a command line

The arguments are read from left to right.  A value that stands behind its option as an argument of
its own is put aside, and looked at only when something else follows it or the command ends; of two
mistakes in a command line, it is this order that decides which one is reported.

## What is here

* `Settings` — the options that have been set in one place, and `Settings.put`.
* `Progress` — the settings and the option that is put aside; `Progress.settle` looks at it.
* `Progress.long`, `Progress.cluster` and `Progress.word` — the three kinds of arguments.
* `Command.scan` — the arguments of a command, and `Invocation.read`, the whole command line.
-/

set_option autoImplicit false
namespace Logline

/-! ## Settings -/

/-- The options that have been set in one place. -/
structure Settings where
  config : Option String := none
  pattern : Option String := none
  preset : Option String := none
  utc : Option Unit := none
  level : Option Level := none
  component : Option String := none
  source : Option String := none
  line : Option UInt32 := none
  words : List String := []

/-- A line number: digits behind a sign or none, in the range of 32 bits. -/
def lineNumber? (s : String) : Option UInt32 :=
  let (negative, ds) := match s.toList with
    | '+' :: rest => (false, rest)
    | '-' :: rest => (true, rest)
    | cs => (false, cs)
  let n := Nat.ofDigitChars 10 ds 0
  if ds ≠ [] ∧ ds.all Char.isDigit ∧ n < 4294967296 ∧ (negative = true → n = 0) then
    some (UInt32.ofNat n)
  else none

namespace Settings

/-- A setting that must not have been made before; only then is its new value looked at. -/
def once {α : Type} (old : Option α) (new : Except Rejection α) : Except Rejection (Option α) :=
  if old.isSome then .error .conflict else some <$> new

/-- The settings with an option set to the text of its value.  An option without a value takes any
text. -/
def put (s : Settings) (o : Opt) (value : String) : Except Rejection Settings :=
  match o with
  | .config => do
    let config ← once s.config (if value = "" then .error .invalidValue else .ok value)
    .ok { s with config }
  | .pattern => do
    let pattern ← once s.pattern (.ok value)
    .ok { s with pattern }
  | .preset => do
    let preset ← once s.preset (.ok value)
    .ok { s with preset }
  | .utc => do
    let utc ← once s.utc (.ok ())
    .ok { s with utc }
  | .level => do
    let level ← once s.level ((Level.ofName? value).elim (.error .invalidValue) .ok)
    .ok { s with level }
  | .component => do
    let component ← once s.component (.ok value)
    .ok { s with component }
  | .source => do
    let source ← once s.source (.ok value)
    .ok { s with source }
  | .line => do
    let line ← once s.line ((lineNumber? value).elim (.error .invalidNumber) .ok)
    .ok { s with line }
  | .help => .error .help
  | .version => .error .version

/-- The request that the settings describe.  A literal pattern and a preset exclude each other. -/
def request (s : Settings) : Except Rejection Request :=
  if s.pattern.isSome ∧ s.preset.isSome then .error .conflict
  else .ok
    { pattern := s.pattern
      preset := s.preset
      utc := s.utc.isSome
      level := s.level.getD .default
      component := s.component.getD ""
      source := s.source.getD ""
      line := s.line.getD 0
      words := s.words }

/-- The action of a command with its settings; none at the root. -/
def action (s : Settings) : Command → Except Rejection Action
  | .root => .error (if s.config.isSome then .missingCommand else .helpForNothing)
  | .render => .render <$> s.request
  | .presets => .ok .presets
  | .codes => .ok .codes

end Settings

/-! ## Arguments one by one -/

/-- An option that is put aside. -/
inductive Pending where
  | none
  /-- The next argument is its value. -/
  | open (o : Opt)
  /-- Its value has not been looked at. -/
  | given (o : Opt) (value : String)

/-- How far a place has been read. -/
structure Progress where
  settings : Settings := {}
  pending : Pending := .none

namespace Progress

/-- The settings with the option that was put aside. -/
def settle (p : Progress) : Except Rejection Settings :=
  match p.pending with
  | .none => .ok p.settings
  | .open _ => .error .invalidValue
  | .given o value => p.settings.put o value

/-- Sets an option at once. -/
def set (p : Progress) (o : Opt) (value : String) : Except Rejection Progress := do
  let settings ← p.settle
  let settings ← settings.put o value
  .ok { settings }

/-- Puts an option aside until its value has come. -/
def await (p : Progress) (o : Opt) : Except Rejection Progress := do
  let settings ← p.settle
  .ok { settings, pending := .open o }

/-- An argument behind two dashes: a name, and maybe an equals sign and a value. -/
def long (p : Progress) (c : Command) (body : List Char) : Except Rejection Progress :=
  let name := String.ofList (body.takeWhile (· ≠ '='))
  match c.ofLong? name, body.dropWhile (· ≠ '=') with
  | none, _ => .error .unknownArgument
  | some o, [] => if o.hasValue then p.await o else p.set o ""
  | some o, _ :: value =>
    if o.hasValue then p.set o (String.ofList value) else .error .unwantedValue

/-- An argument behind one dash: letters of options without a value, and maybe one of an option with
a value at the end.  The value is what is left of the argument, without an equals sign in front, or
the next argument. -/
def cluster (p : Progress) (c : Command) : List Char → Except Rejection Progress
  | [] => .ok p
  | letter :: rest =>
    match c.ofShort? letter with
    | none => .error .unknownArgument
    | some o =>
      if o.hasValue then
        match rest with
        | [] => p.await o
        | '=' :: value => p.set o (String.ofList value)
        | value => p.set o (String.ofList value)
      else do
        let p ← p.set o ""
        p.cluster c rest

/-- An argument that is a word of the message.  Only a command that renders has a message; anywhere
else, what the word is not depends on whether a command could stand there. -/
def word (p : Progress) (c : Command) (behindDashes : Bool) (arg : String) :
    Except Rejection Progress :=
  match c with
  | .render => do
    let settings ← p.settle
    .ok { settings := { settings with words := settings.words ++ [arg] } }
  | .root =>
    .error (if behindDashes ∧ (c.subcommand? arg).isSome then .unknownArgument else .unknownCommand)
  | _ => .error .unknownArgument

end Progress

/-! ## Whole commands -/

/-- The arguments of a place, up to its end or to a command: how far it has been read, and the
command with its arguments.  Two dashes alone end the options. -/
def Command.scan (c : Command) (p : Progress) (behindDashes : Bool) :
    List String → Except Rejection (Progress × Option (Option Command × List String))
  | [] => .ok (p, none)
  | arg :: rest =>
    if behindDashes then do
      let p ← p.word c true arg
      c.scan p true rest
    else
      let isValue := match p.pending with
        | .open _ => true
        | _ => false
      match if isValue then none else c.subcommand? arg with
      | some sub => .ok (p, some (sub, rest))
      | none =>
        match arg.toList with
        | ['-', '-'] => c.scan p true rest
        | '-' :: '-' :: body => do
          let p ← p.long c body
          c.scan p false rest
        | '-' :: letter :: letters => do
          let p ← p.cluster c (letter :: letters)
          c.scan p false rest
        | _ =>
          match p.pending with
          | .open o => c.scan { p with pending := .given o arg } false rest
          | _ => do
            let p ← p.word c false arg
            c.scan p false rest

/-- The request for help on a command.  No command has commands of its own. -/
def helpOn : List String → Rejection
  | [] => .help
  | [word] => if (Command.root.subcommand? word).isSome then .help else .unknownCommand
  | _ => .unknownCommand

/-- The whole command line.  What was put aside in front of the command is looked at last, and a
configuration that is named behind the command comes before one in front of it. -/
def Invocation.read (args : List String) : Except Rejection Invocation := do
  let (before, sub) ← Command.root.scan {} false args
  match sub with
  | none => do
    let settings ← before.settle
    let action ← settings.action .root
    .ok ⟨settings.config, action⟩
  | some (none, rest) => .error (helpOn rest)
  | some (some c, rest) => do
    let (behind, _) ← c.scan {} false rest
    let inner ← behind.settle
    let action ← inner.action c
    let outer ← before.settle
    .ok ⟨inner.config <|> outer.config, action⟩

end Logline
