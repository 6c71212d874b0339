import Logline.CommandLine.Reader
import Mathlib.Data.List.Basic
import Mathlib.Data.List.Forall2
import Mathlib.Data.List.TakeWhile

/-!
# What a command line says

The arguments of a command say two kinds of things: options with their values, and words.  An option
has a name and maybe a letter, and its value stands behind an equals sign, right behind the letter,
or in an argument of its own.  This file says what can be said in which ways, and that a command
line that is understood is taken at its word: what the request holds is what has been said, each
thing once at most, and what has not been said is as the defaults have it.

The reader puts an option aside until its value has come, and sets it when something else follows.
So the settings that it has read lag one option behind the arguments, and what it leads to depends
on whether an option is waiting for its value (`Progress.Leads`).

## What is here

* `Said` — an option by its name, or a word; `Said.Opens` and `Command.Writes` — **the ways to say
  it**.
* `Settings.Stored` — what the values given for an option have to do with its setting, and
  `Settings.Takes` — settings made one after the other.
* `Progress.Leads` — what the arguments that follow lead to; each kind of argument has its step.
* `Command.scan_eq_ok` — **what has been read has been said**.
* `Request.SaidBy` — a request that is taken from what has been said, and
  `Invocation.read_eq_ok_render` — **the command lines that render**.
-/

set_option autoImplicit false
namespace Logline

theorem Except.bind_eq_ok_iff {ε α β : Type} {x : Except ε α} {f : α → Except ε β} {b : β} :
    (x >>= f) = .ok b ↔ ∃ a, x = .ok a ∧ f a = .ok b := by
  cases x with
  | error e => exact iff_of_false nofun nofun
  | ok a => exact ⟨fun h ↦ ⟨a, rfl, h⟩, fun ⟨_, ha, h⟩ ↦ Except.ok.inj ha ▸ h⟩

/-! ## Ways to say it -/

/-- Something that is said on a command line. -/
inductive Said where
  /-- The value of the option with this name; an option without values has the empty one. -/
  | option (name value : String)
  | word (text : String)
  deriving DecidableEq, Repr

namespace Said

/-- The value that is given for the option with a name. -/
def value? (name : String) : Said → Option String
  | option other value => if other = name then some value else none
  | word _ => none

/-- All values that are given for the option with a name. -/
def values (name : String) (said : List Said) : List String := said.filterMap (value? name)

/-- The word that is said. -/
def word? : Said → Option String
  | option _ _ => none
  | word text => some text

/-- The names of the options that say something about an action. -/
def names : List String :=
  ["config", "pattern", "preset", "utc", "level", "prefix", "source", "line"]

/-- The letters that stand for the name of an option. -/
def letters : List (Char × String) := [('p', "pattern"), ('l', "level")]

/-- How the option with a name starts: with the name behind two dashes, or with its letter behind
one. -/
inductive Opens : String → String → Prop where
  | long {name : String} (h : name ∈ names) : Opens ("--" ++ name) name
  | short {letter : Char} {name : String} (h : (letter, name) ∈ letters) :
    Opens ("-" ++ letter.toString) name

/-- An argument that starts with a dash and goes on behind it; it is neither a word nor a value of
its own. -/
def Dashed (arg : String) : Prop := ∃ c cs, arg.toList = '-' :: c :: cs

end Said

open Said in
/-- **The ways to say something** behind a command, or in front of it at the root.  Words are for
the command that renders. -/
inductive Command.Writes (c : Command) : List Said → List String → Prop where
  | nil : Writes c [] []
  /-- Behind two dashes alone there are only words. -/
  | dashes {texts : List String} (h : texts = [] ∨ c = .render) :
    Writes c (texts.map .word) ("--" :: texts)
  | word {text : String} {said : List Said} {args : List String} (hc : c = .render)
    (h : ¬ Dashed text) (later : Writes c said args) : Writes c (.word text :: said) (text :: args)
  /-- A value behind an equals sign. -/
  | joined {start name value : String} {said : List Said} {args : List String}
    (h : Opens start name) (later : Writes c said args) :
    Writes c (.option name value :: said) ((start ++ "=" ++ value) :: args)
  /-- A value right behind a letter. -/
  | attached {letter : Char} {name value : String} {said : List Said} {args : List String}
    (h : (letter, name) ∈ letters) (hne : value ≠ "") (heq : value.toList.head? ≠ some '=')
    (later : Writes c said args) :
    Writes c (.option name value :: said) (("-" ++ letter.toString ++ value) :: args)
  /-- A value in an argument of its own. -/
  | next {start name value : String} {said : List Said} {args : List String}
    (h : Opens start name) (hflag : name ≠ "utc") (hvalue : ¬ Dashed value)
    (later : Writes c said args) :
    Writes c (.option name value :: said) (start :: value :: args)
  /-- The one option without a value. -/
  | utc {said : List Said} {args : List String} (later : Writes c said args) :
    Writes c (.option "utc" "" :: said) ("--utc" :: args)

/-- A text writes a line number: digits behind a sign or none, and only zero behind a minus sign. -/
def WritesLine (text : String) (n : UInt32) : Prop :=
  ∃ ds, (text.toList = ds ∨ text.toList = '+' :: ds ∨ text.toList = '-' :: ds ∧ n = 0) ∧ ds ≠ [] ∧
    (∀ c ∈ ds, c.isDigit = true) ∧ Nat.ofDigitChars 10 ds 0 = n.toNat

theorem lineNumber?_eq_some {text : String} {n : UInt32} (h : lineNumber? text = some n) :
    WritesLine text n := by
  have hrange : ∀ {ds : List Char} {negative : Bool}, (if ds ≠ [] ∧ ds.all Char.isDigit ∧
      Nat.ofDigitChars 10 ds 0 < 4294967296 ∧ (negative = true → Nat.ofDigitChars 10 ds 0 = 0) then
        some (UInt32.ofNat (Nat.ofDigitChars 10 ds 0)) else none) = some n →
      ds ≠ [] ∧ (∀ c ∈ ds, c.isDigit = true) ∧ Nat.ofDigitChars 10 ds 0 = n.toNat ∧
        (negative = true → n = 0) := by
    intro ds negative hite
    obtain ⟨⟨hne, hdigits, hlt, hzero⟩, hn⟩ := Option.ite_none_right_eq_some.mp hite
    obtain rfl := Option.some.inj hn
    refine ⟨hne, List.all_eq_true.mp hdigits, (UInt32.toNat_ofNat_of_lt' hlt).symm, fun hneg ↦ ?_⟩
    rw [hzero hneg]
    rfl
  rw [lineNumber?] at h
  split at h
  next negative ds hparts =>
  obtain ⟨hne, hdigits, hvalue, hzero⟩ := hrange h
  refine ⟨ds, ?_, hne, hdigits, hvalue⟩
  split at hparts
  · next rest htext =>
    cases hparts
    exact .inr (.inl htext)
  · next rest htext =>
    cases hparts
    exact .inr (.inr ⟨htext, hzero rfl⟩)
  · cases hparts
    exact .inl rfl

/-! ## Settings -/

theorem Opt.long_inj {o o' : Opt} (h : o.long = o'.long) : o = o' := by
  revert h
  cases o <;> cases o' <;> decide

namespace Settings

/-- What the values given for an option have to do with its setting.  The option without values only
counts. -/
def Stored (s : Settings) : Opt → List String → Prop
  | .config, values => values = s.config.toList
  | .pattern, values => values = s.pattern.toList
  | .preset, values => values = s.preset.toList
  | .utc, values => values.length = s.utc.toList.length
  | .level, values => values = s.level.toList.map Level.name
  | .component, values => values = s.component.toList
  | .source, values => values = s.source.toList
  | .line, values => List.Forall₂ WritesLine values s.line.toList
  | .help, values | .version, values => values = []

theorem stored_empty (o : Opt) : Stored {} o [] := by
  cases o <;> first | rfl | exact .nil

/-- An option that has not been set has not been given a value. -/
theorem Stored.eq_nil {s : Settings} {o : Opt} (h : s.Stored o []) {values : List String}
    (hvalues : s.Stored o values) : values = [] := by
  cases o with
  | utc => exact List.eq_nil_of_length_eq_zero (Eq.trans hvalues (Eq.symm h))
  | line =>
    cases hline : s.line with
    | none => rw [Stored, hline] at hvalues; cases hvalues; rfl
    | some n => rw [Stored, hline] at h; cases h
  | _ => exact Eq.trans hvalues (Eq.symm h)

theorem once_eq_ok {α : Type} {old new : Option α} {value : Except Rejection α}
    (h : once old value = .ok new) : old = none ∧ ∃ a, value = .ok a ∧ new = some a := by
  rw [once] at h
  cases old with
  | some a => cases h
  | none =>
    cases value with
    | error e => cases h
    | ok a => exact ⟨rfl, a, rfl, (Except.ok.inj h).symm⟩

section Put

variable {s s' : Settings} {o : Opt} {value : String}

theorem stored_of_put (h : s.put o value = .ok s') : s.Stored o [] := by
  cases o with
  | help | version => cases h
  | _ =>
    obtain ⟨new, honce, -⟩ := Except.bind_eq_ok_iff.mp h
    simp [Stored, (once_eq_ok honce).1]

theorem stored_put (h : s.put o value = .ok s') : s'.Stored o [value] := by
  cases o with
  | help | version => cases h
  | config =>
    obtain ⟨new, honce, hs⟩ := Except.bind_eq_ok_iff.mp h
    obtain ⟨-, a, ha, rfl⟩ := once_eq_ok honce
    obtain rfl := Except.ok.inj hs
    split at ha
    · cases ha
    · exact congrArg (fun v ↦ [v]) (Except.ok.inj ha)
  | level =>
    obtain ⟨new, honce, hs⟩ := Except.bind_eq_ok_iff.mp h
    obtain ⟨-, l, hl, rfl⟩ := once_eq_ok honce
    obtain rfl := Except.ok.inj hs
    cases hname : Level.ofName? value with
    | none => rw [hname] at hl; cases hl
    | some l' =>
      rw [hname] at hl
      obtain rfl := Except.ok.inj hl
      have heq : l'.name = value := by simpa using List.find?_some hname
      exact congrArg (fun v ↦ [v]) heq.symm
  | line =>
    obtain ⟨new, honce, hs⟩ := Except.bind_eq_ok_iff.mp h
    obtain ⟨-, n, hn, rfl⟩ := once_eq_ok honce
    obtain rfl := Except.ok.inj hs
    cases hline : lineNumber? value with
    | none => rw [hline] at hn; cases hn
    | some n' =>
      rw [hline] at hn
      obtain rfl := Except.ok.inj hn
      exact .cons (lineNumber?_eq_some hline) .nil
  | _ =>
    obtain ⟨new, honce, hs⟩ := Except.bind_eq_ok_iff.mp h
    obtain ⟨-, a, ha, rfl⟩ := once_eq_ok honce
    cases ha
    obtain rfl := Except.ok.inj hs
    rfl

theorem stored_put_of_ne (h : s.put o value = .ok s') {o' : Opt} (hne : o' ≠ o)
    {values : List String} (hvalues : s.Stored o' values) : s'.Stored o' values := by
  cases o with
  | help | version => cases h
  | _ =>
    obtain ⟨new, -, hs⟩ := Except.bind_eq_ok_iff.mp h
    obtain rfl := Except.ok.inj hs
    cases o' <;> first | exact hvalues | exact absurd rfl hne

theorem words_put (h : s.put o value = .ok s') : s'.words = s.words := by
  cases o with
  | help | version => cases h
  | _ =>
    obtain ⟨new, -, hs⟩ := Except.bind_eq_ok_iff.mp h
    obtain rfl := Except.ok.inj hs
    rfl

end Put

/-- Settings made one after the other, as they are said. -/
inductive Takes : Settings → List Said → Settings → Prop where
  | nil {s : Settings} : Takes s [] s
  | option {s s' t : Settings} {o : Opt} {value : String} {said : List Said}
    (h : s.put o value = .ok s') (later : Takes s' said t) :
    Takes s (.option o.long value :: said) t
  | word {s t : Settings} {text : String} {said : List Said}
    (later : Takes { s with words := s.words ++ [text] } said t) : Takes s (.word text :: said) t

theorem values_append_option (o o' : Opt) (value : String) (before : List Said) :
    Said.values o.long (before ++ [.option o'.long value]) =
      Said.values o.long before ++ if o' = o then [value] else [] := by
  rw [Said.values, Said.values, List.filterMap_append, List.filterMap_cons, Said.value?]
  by_cases h : o' = o
  · rw [if_pos (congrArg Opt.long h), if_pos h]
    rfl
  · rw [if_neg (mt Opt.long_inj h), if_neg h]
    rfl

theorem values_append_word (name text : String) (before : List Said) :
    Said.values name (before ++ [.word text]) = Said.values name before := by
  rw [Said.values, Said.values, List.filterMap_append]
  exact List.append_nil _

/-- **What settings hold** is what has been said so far, `before` and since. -/
theorem Takes.stored {s t : Settings} {said : List Said} (h : s.Takes said t) (before : List Said)
    (hs : ∀ o, s.Stored o (Said.values o.long before)) :
    (∀ o, t.Stored o (Said.values o.long (before ++ said))) ∧
      t.words = s.words ++ said.filterMap Said.word? := by
  induction h generalizing before with
  | nil => simpa using hs
  | @option s s' t o value said hput later ih =>
    have hnext : ∀ o', s'.Stored o' (Said.values o'.long (before ++ [.option o.long value])) := by
      intro o'
      rw [values_append_option]
      by_cases h : o = o'
      · subst h
        rw [if_pos rfl, (stored_of_put hput).eq_nil (hs o)]
        exact stored_put hput
      · rw [if_neg h, List.append_nil]
        exact stored_put_of_ne hput (Ne.symm h) (hs o')
    obtain ⟨hstored, hwords⟩ := ih _ hnext
    rw [List.append_assoc] at hstored
    exact ⟨hstored, hwords.trans (congrArg (· ++ _) (words_put hput))⟩
  | @word s t text said later ih =>
    have hnext : ∀ o, Stored { s with words := s.words ++ [text] } o
        (Said.values o.long (before ++ [.word text])) := by
      intro o
      rw [values_append_word]
      have ho := hs o
      cases o <;> exact ho
    obtain ⟨hstored, hwords⟩ := ih _ hnext
    rw [List.append_assoc] at hstored
    exact ⟨hstored, hwords.trans (List.append_assoc _ _ _)⟩

end Settings

/-! ## Arguments -/

/-- Where the arguments of a place stop: at their end, or in front of a word that is a command. -/
def Command.Stops (c : Command) (args front : List String) :
    Option (Option Command × List String) → Prop
  | none => args = front
  | some (sub, rest) => ∃ word, c.subcommand? word = some sub ∧ args = front ++ word :: rest

theorem Command.Stops.cons {c : Command} {args front : List String}
    {tail : Option (Option Command × List String)} (h : c.Stops args front tail) (arg : String) :
    c.Stops (arg :: args) (arg :: front) tail := by
  cases tail with
  | none => exact congrArg (arg :: ·) h
  | some tail =>
    obtain ⟨word, hword, rfl⟩ := h
    exact ⟨word, hword, rfl⟩

namespace Progress

/-- What the arguments that follow say, and the settings that they lead to.  An option that is
waiting for its value is said by the first of them. -/
inductive Leads (c : Command) (p : Progress) (s' : Settings) : List Said → List String → Prop where
  | settled {s : Settings} {said : List Said} {front : List String} (h : p.settle = .ok s)
    (hwrites : c.Writes said front) (htakes : s.Takes said s') : Leads c p s' said front
  | value {o : Opt} {v : String} {said : List Said} {front : List String}
    (h : p.pending = .open o) (hv : ¬ Said.Dashed v) (hwrites : c.Writes said front)
    (htakes : p.settings.Takes (.option o.long v :: said) s') :
    Leads c p s' (.option o.long v :: said) (v :: front)

section Leads

variable {c : Command} {p p₁ : Progress} {s' : Settings} {o : Opt} {arg value : String}
  {said : List Said} {front : List String}

/-- What has been set at once has been said by one argument. -/
theorem Leads.of_set (hset : p.set o value = .ok p₁) (h : p₁.Leads c s' said front)
    (hsay : ∀ {said : List Said} {front : List String}, c.Writes said front →
      c.Writes (.option o.long value :: said) (arg :: front)) :
    p.Leads c s' (.option o.long value :: said) (arg :: front) := by
  obtain ⟨s, hs, hset⟩ := Except.bind_eq_ok_iff.mp hset
  obtain ⟨s₁, hput, hp⟩ := Except.bind_eq_ok_iff.mp hset
  obtain rfl := Except.ok.inj hp
  cases h with
  | settled h hwrites htakes =>
    obtain rfl := Except.ok.inj h
    exact .settled hs (hsay hwrites) (.option hput htakes)
  | value h => cases h

/-- What has been put aside takes the next argument for its value. -/
theorem Leads.of_await (hawait : p.await o = .ok p₁) (h : p₁.Leads c s' said front)
    (hopens : Said.Opens arg o.long) (hvalue : o.hasValue = true) :
    p.Leads c s' said (arg :: front) := by
  obtain ⟨s, hs, hp⟩ := Except.bind_eq_ok_iff.mp hawait
  obtain rfl := Except.ok.inj hp
  cases h with
  | settled h => cases h
  | value h hv hwrites htakes =>
    obtain rfl := Pending.open.inj h
    have hflag : o.long ≠ "utc" := by
      revert hvalue
      cases o <;> decide
    exact .settled hs (.next hopens hflag hv hwrites) htakes

/-- What has been given for an option that waited is its value. -/
theorem Leads.of_given (hopen : p.pending = .open o) (hv : ¬ Said.Dashed value)
    (h : Leads c { p with pending := .given o value } s' said front) :
    p.Leads c s' (.option o.long value :: said) (value :: front) := by
  cases h with
  | settled h hwrites htakes => exact .value hopen hv hwrites (.option h htakes)
  | value h => cases h

/-- A word is understood only behind the command that renders. -/
theorem word_eq_ok {behindDashes : Bool} (h : p.word c behindDashes arg = .ok p₁) :
    c = .render ∧ ∃ s, p.settle = .ok s ∧
      p₁ = { settings := { s with words := s.words ++ [arg] } } := by
  cases c with
  | render =>
    obtain ⟨s, hs, hp⟩ := Except.bind_eq_ok_iff.mp h
    exact ⟨rfl, s, hs, (Except.ok.inj hp).symm⟩
  | root | presets | codes => cases h

theorem Leads.of_word (hword : p.word c false arg = .ok p₁) (h : p₁.Leads c s' said front)
    (harg : ¬ Said.Dashed arg) : p.Leads c s' (.word arg :: said) (arg :: front) := by
  obtain ⟨hc, s, hs, rfl⟩ := word_eq_ok hword
  cases h with
  | settled h hwrites htakes =>
    obtain rfl := Except.ok.inj h
    exact .settled hs (.word hc harg hwrites) (.word htakes)
  | value h => cases h

/-- Only one option without a value can be set. -/
theorem eq_utc_of_set (hset : p.set o value = .ok p₁) (hvalue : o.hasValue = false) : o = .utc := by
  obtain ⟨s, -, hset⟩ := Except.bind_eq_ok_iff.mp hset
  cases o with
  | utc => rfl
  | help | version => cases hset
  | _ => cases hvalue

/-- An argument behind two dashes is the name of an option, alone or in front of its value. -/
theorem long_eq_ok {body : List Char} (h : p.long c body = .ok p₁)
    (harg : arg.toList = '-' :: '-' :: body) :
    (∃ o, arg = "--" ++ o.long ∧ o.hasValue = true ∧ p.await o = .ok p₁) ∨
    (arg = "--utc" ∧ p.set .utc "" = .ok p₁) ∨
    ∃ o value, arg = "--" ++ o.long ++ "=" ++ value ∧ p.set o value = .ok p₁ := by
  have hbody : body.takeWhile (· ≠ '=') ++ body.dropWhile (· ≠ '=') = body :=
    List.takeWhile_append_dropWhile
  rw [long] at h
  cases hfind : c.ofLong? (String.ofList (body.takeWhile (· ≠ '='))) with
  | none => rw [hfind] at h; cases h
  | some o =>
    have hname : o.long.toList = body.takeWhile (· ≠ '=') := by
      have heq : o.long = String.ofList (body.takeWhile (· ≠ '=')) := by
        simpa using List.find?_some hfind
      rw [heq, String.toList_ofList]
    rw [hfind] at h
    cases hrest : body.dropWhile (· ≠ '=') with
    | nil =>
      have harg : arg = "--" ++ o.long := by
        rw [hrest, List.append_nil] at hbody
        rw [← String.toList_inj, harg, String.toList_append, hname, hbody]
        rfl
      simp only [hrest] at h
      split at h
      · exact .inl ⟨o, harg, ‹_›, h⟩
      · obtain rfl := eq_utc_of_set h (Bool.eq_false_iff.mpr ‹_›)
        exact .inr (.inl ⟨harg, h⟩)
    | cons equals value =>
      have hequals : equals = '=' := by
        have hhead := List.head?_dropWhile_not (· ≠ '=') body
        rw [hrest] at hhead
        simpa using hhead
      have harg : arg = "--" ++ o.long ++ "=" ++ String.ofList value := by
        rw [hrest, hequals] at hbody
        rw [← String.toList_inj, harg, ← hbody, ← hname]
        simp only [String.toList_append, String.toList_ofList, List.append_assoc]
        rfl
      simp only [hrest] at h
      split at h
      · exact .inr (.inr ⟨o, _, harg, h⟩)
      · cases h

/-- An argument behind one dash is the letter of an option, alone or in front of its value. -/
theorem cluster_eq_ok {letter : Char} {rest : List Char} (h : p.cluster c (letter :: rest) = .ok p₁)
    (harg : arg.toList = '-' :: letter :: rest) :
    ∃ o, (letter, o.long) ∈ Said.letters ∧
      ((arg = "-" ++ letter.toString ∧ o.hasValue = true ∧ p.await o = .ok p₁) ∨
      ∃ value, p.set o value = .ok p₁ ∧ (arg = "-" ++ letter.toString ++ "=" ++ value ∨
        arg = "-" ++ letter.toString ++ value ∧ value ≠ "" ∧ value.toList.head? ≠ some '=')) := by
  rw [cluster] at h
  cases hfind : c.ofShort? letter with
  | none => rw [hfind] at h; cases h
  | some o =>
    rw [hfind] at h
    have hshort : o.short? = some letter := by simpa using List.find?_some hfind
    have hvalue : o.hasValue = true := by
      by_contra hnot
      rw [Bool.not_eq_true] at hnot
      simp only [hnot, Bool.false_eq_true, if_false] at h
      obtain ⟨p₂, hset, -⟩ := Except.bind_eq_ok_iff.mp h
      cases (eq_utc_of_set hset hnot).symm ▸ hshort
    have hletter : (letter, o.long) ∈ Said.letters := by
      cases o with
      | pattern | level =>
        obtain rfl := Option.some.inj hshort
        decide
      | help | version => cases hvalue
      | _ => cases hshort
    have harg' : arg = "-" ++ letter.toString ++ String.ofList rest := by
      rw [← String.toList_inj, harg]
      simp
    refine ⟨o, hletter, ?_⟩
    simp only [hvalue, if_true] at h
    split at h
    · exact .inl ⟨by simpa using harg', hvalue, h⟩
    · next value =>
      refine .inr ⟨_, h, .inl ?_⟩
      rw [harg', ← String.toList_inj]
      simp
    · next value hnil hequals =>
      refine .inr ⟨_, h, .inr ⟨harg', ?_, ?_⟩⟩
      · simpa using hnil
      · rw [String.toList_ofList]
        intro hhead
        obtain ⟨tail, htail⟩ := List.head?_eq_some_iff.mp hhead
        exact hequals tail htail

theorem mem_names_of_set (hset : p.set o value = .ok p₁) : o.long ∈ Said.names := by
  obtain ⟨s, -, hset⟩ := Except.bind_eq_ok_iff.mp hset
  cases o with
  | help | version => cases hset
  | _ => decide

theorem mem_names_of_hasValue (h : o.hasValue = true) : o.long ∈ Said.names := by
  revert h
  cases o <;> decide

theorem Leads.of_long {body : List Char} (hlong : p.long c body = .ok p₁)
    (h : p₁.Leads c s' said front) (harg : arg.toList = '-' :: '-' :: body) :
    ∃ said, p.Leads c s' said (arg :: front) := by
  obtain ⟨o, rfl, hvalue, hawait⟩ | ⟨rfl, hset⟩ | ⟨o, value, rfl, hset⟩ := long_eq_ok hlong harg
  · exact ⟨_, h.of_await hawait (.long (mem_names_of_hasValue hvalue)) hvalue⟩
  · exact ⟨_, h.of_set hset .utc⟩
  · exact ⟨_, h.of_set hset (.joined (.long (mem_names_of_set hset)))⟩

theorem Leads.of_cluster {letter : Char} {rest : List Char}
    (hcluster : p.cluster c (letter :: rest) = .ok p₁) (h : p₁.Leads c s' said front)
    (harg : arg.toList = '-' :: letter :: rest) : ∃ said, p.Leads c s' said (arg :: front) := by
  obtain ⟨o, hletter, ⟨rfl, hvalue, hawait⟩ | ⟨value, hset, rfl | ⟨rfl, hne, hequals⟩⟩⟩ :=
    cluster_eq_ok hcluster harg
  · exact ⟨_, h.of_await hawait (.short hletter) hvalue⟩
  · exact ⟨_, h.of_set hset (.joined (.short hletter))⟩
  · exact ⟨_, h.of_set hset (.attached hletter hne hequals)⟩

end Leads

/-- Behind two dashes alone there are only words. -/
theorem takes_of_scan {c : Command} {p p' : Progress} {args : List String}
    {tail : Option (Option Command × List String)} {s' : Settings}
    (h : c.scan p true args = .ok (p', tail)) (hs : p'.settle = .ok s') :
    tail = none ∧ (args = [] ∨ c = .render) ∧
      ∃ s, p.settle = .ok s ∧ s.Takes (args.map .word) s' := by
  induction args generalizing p with
  | nil =>
    obtain ⟨rfl, rfl⟩ := Prod.mk.inj (Except.ok.inj h)
    exact ⟨rfl, .inl rfl, s', hs, .nil⟩
  | cons arg rest ih =>
    obtain ⟨p₁, hword, hscan⟩ := Except.bind_eq_ok_iff.mp h
    obtain ⟨hc, s, hsettle, rfl⟩ := word_eq_ok hword
    obtain ⟨htail, -, s₁, hs₁, htakes⟩ := ih hscan
    obtain rfl := Except.ok.inj hs₁
    exact ⟨htail, .inr hc, s, hsettle, .word htakes⟩

end Progress

/-- **What has been read has been said.** -/
theorem Command.scan_eq_ok {c : Command} {p p' : Progress} {args : List String}
    {tail : Option (Option Command × List String)} {s' : Settings}
    (h : c.scan p false args = .ok (p', tail)) (hs : p'.settle = .ok s') :
    ∃ front said, c.Stops args front tail ∧ p.Leads c s' said front := by
  induction args generalizing p with
  | nil =>
    obtain ⟨rfl, rfl⟩ := Prod.mk.inj (Except.ok.inj h)
    exact ⟨[], [], rfl, .settled hs .nil .nil⟩
  | cons arg rest ih =>
    -- What the first argument does to the progress is one of the steps above.
    have hstep : ∀ {p₁ : Progress}, c.scan p₁ false rest = .ok (p', tail) →
        (∀ {said front}, p₁.Leads c s' said front → ∃ said, p.Leads c s' said (arg :: front)) →
        ∃ front said, c.Stops (arg :: rest) front tail ∧ p.Leads c s' said front := by
      intro p₁ hscan hleads
      obtain ⟨front, said, hstops, hlater⟩ := ih hscan
      obtain ⟨said, hall⟩ := hleads hlater
      exact ⟨arg :: front, said, hstops.cons arg, hall⟩
    rw [scan] at h
    simp only [Bool.false_eq_true, if_false] at h
    split at h
    · next sub hsub =>
      obtain ⟨rfl, rfl⟩ := Prod.mk.inj (Except.ok.inj h)
      have hsub := (Option.ite_none_left_eq_some.mp hsub).2
      exact ⟨[], [], ⟨arg, hsub, rfl⟩, .settled hs .nil .nil⟩
    · split at h
      · next harg =>
        obtain ⟨rfl, hwords, s, hsettle, htakes⟩ := Progress.takes_of_scan h hs
        obtain rfl : arg = "--" := String.toList_inj.mp harg
        exact ⟨_, _, rfl, .settled hsettle (.dashes hwords) htakes⟩
      · next body hnot harg =>
        obtain ⟨p₁, hlong, hscan⟩ := Except.bind_eq_ok_iff.mp h
        exact hstep hscan fun hlater ↦ hlater.of_long hlong harg
      · next letter letters hnot hnot' harg =>
        obtain ⟨p₁, hcluster, hscan⟩ := Except.bind_eq_ok_iff.mp h
        exact hstep hscan fun hlater ↦ hlater.of_cluster hcluster harg
      · next hnot hlong hcluster =>
        have hdashed : ¬ Said.Dashed arg := fun ⟨letter, letters, harg⟩ ↦
          hcluster letter letters harg
        split at h
        · next o hopen => exact hstep h fun hlater ↦ ⟨_, hlater.of_given hopen hdashed⟩
        · obtain ⟨p₁, hword, hscan⟩ := Except.bind_eq_ok_iff.mp h
          exact hstep hscan fun hlater ↦ ⟨_, hlater.of_word hword hdashed⟩

/-! ## Requests -/

/-- A value that is given once at most; when it is not given, it is the default. -/
def Said.Once (name : String) (said : List Said) (default value : String) : Prop :=
  values name said = [] ∧ value = default ∨ values name said = [value]

/-- **A request that is taken from what has been said**: each of its parts is the value of an option
of its own, and a part that has not been said is as the defaults have it. -/
structure Request.SaidBy (q : Request) (said : List Said) : Prop where
  pattern : Said.values "pattern" said = q.pattern.toList
  preset : Said.values "preset" said = q.preset.toList
  exclusive : q.pattern = none ∨ q.preset = none
  utc : (Said.values "utc" said).length = q.utc.toNat
  level : Said.Once "level" said "info" q.level.name
  component : Said.Once "prefix" said "" q.component
  source : Said.Once "source" said "" q.source
  line : Said.values "line" said = [] ∧ q.line = 0 ∨
    ∃ text, Said.values "line" said = [text] ∧ WritesLine text q.line
  words : q.words = said.filterMap Said.word?

theorem Said.once_of_toList {name default : String} {said : List Said} {setting : Option String}
    (h : values name said = setting.toList) : Once name said default (setting.getD default) := by
  cases setting with
  | none => exact .inl ⟨h, rfl⟩
  | some value => exact .inr h

/-- The request that settings describe is taken from what has been said, if they are. -/
theorem Settings.saidBy_of_request {s : Settings} {q : Request} {said : List Said}
    (h : s.request = .ok q) (hs : ∀ o, s.Stored o (Said.values o.long said))
    (hwords : s.words = said.filterMap Said.word?) : q.SaidBy said := by
  rw [request] at h
  split at h
  · cases h
  next hexclusive =>
  obtain rfl := Except.ok.inj h
  have hlevel : Said.Once "level" said "info" (s.level.getD .default).name := by
    have hstored : Said.values "level" said = (s.level.map Level.name).toList := by
      rw [Option.toList_map]
      exact hs .level
    have honce : Said.Once "level" said "info" _ := Said.once_of_toList hstored
    cases hl : s.level with
    | none => rwa [hl] at honce
    | some l => rwa [hl] at honce
  have hline : Said.values "line" said = [] ∧ s.line.getD 0 = 0 ∨
      ∃ text, Said.values "line" said = [text] ∧ WritesLine text (s.line.getD 0) := by
    have hstored : List.Forall₂ WritesLine (Said.values "line" said) s.line.toList := hs .line
    cases hl : s.line with
    | none =>
      rw [hl] at hstored
      exact .inl ⟨List.forall₂_nil_right_iff.mp hstored, rfl⟩
    | some n =>
      rw [hl] at hstored
      obtain ⟨text, rest, htext, hrest, heq⟩ := List.forall₂_cons_right_iff.mp hstored
      rw [List.forall₂_nil_right_iff.mp hrest] at heq
      exact .inr ⟨text, heq, htext⟩
  exact
    { pattern := hs .pattern
      preset := hs .preset
      exclusive := by
        simpa [Option.isSome_iff_ne_none, or_iff_not_imp_left] using hexclusive
      utc := by
        have hstored : (Said.values "utc" said).length = s.utc.toList.length := hs .utc
        cases hu : s.utc <;> simp [hu, hstored]
      level := hlevel
      component := Said.once_of_toList (hs .component)
      source := Said.once_of_toList (hs .source)
      line := hline
      words := hwords }

/-- What a place says from its first argument on. -/
theorem Progress.Leads.stored_of_start {c : Command} {s' : Settings} {said : List Said}
    {front : List String} (h : Leads c {} s' said front) :
    c.Writes said front ∧ (∀ o, s'.Stored o (Said.values o.long said)) ∧
      s'.words = said.filterMap Said.word? := by
  cases h with
  | settled h hwrites htakes =>
    obtain rfl := Except.ok.inj h
    exact ⟨hwrites, htakes.stored [] Settings.stored_empty⟩
  | value h => cases h

/-- Only its own name stands for the command that renders. -/
theorem Command.eq_of_subcommand? {word : String}
    (h : Command.root.subcommand? word = some (some .render)) : word = "render" := by
  obtain ⟨before, after, hnames, -⟩ := List.lookup_eq_some_iff.mp h
  have hmem : (word, some Command.render) ∈ names :=
    hnames ▸ List.mem_append_right before (List.mem_cons_self ..)
  simpa [names] using hmem

theorem Said.values_append (name : String) (said later : List Said) :
    values name (said ++ later) = values name said ++ values name later :=
  List.filterMap_append

/-- The settings behind the command that renders make a request. -/
theorem Settings.action_eq_render {s : Settings} {c : Command} {q : Request}
    (h : s.action c = .ok (.render q)) : c = .render ∧ s.request = .ok q := by
  cases c with
  | render =>
    refine ⟨rfl, ?_⟩
    rw [action] at h
    cases hrequest : s.request with
    | error e => rw [hrequest] at h; cases h
    | ok q' =>
      rw [hrequest] at h
      exact congrArg Except.ok (Action.render.inj (Except.ok.inj h))
  | root | presets | codes => cases h

/-- A command line that renders is read in two parts, in front of the command and behind it. -/
theorem Invocation.exists_scans {args : List String} {i : Invocation} {q : Request}
    (h : Invocation.read args = .ok i) (hi : i.action = .render q) :
    ∃ before behind : Progress, ∃ outer inner : Settings, ∃ rest tail,
      Command.root.scan {} false args = .ok (before, some (some .render, rest)) ∧
      Command.render.scan {} false rest = .ok (behind, tail) ∧
      before.settle = .ok outer ∧ behind.settle = .ok inner ∧ inner.request = .ok q ∧
      i.config = (inner.config <|> outer.config) := by
  obtain ⟨⟨before, tail⟩, hroot, h⟩ := Except.bind_eq_ok_iff.mp h
  cases tail with
  | none =>
    obtain ⟨s, -, h⟩ := Except.bind_eq_ok_iff.mp h
    obtain ⟨action, haction, -⟩ := Except.bind_eq_ok_iff.mp h
    cases haction
  | some tail =>
    obtain ⟨c, rest⟩ := tail
    cases c with
    | none => cases h
    | some c =>
      obtain ⟨⟨behind, tail'⟩, hscan, h⟩ := Except.bind_eq_ok_iff.mp h
      obtain ⟨inner, hinner, h⟩ := Except.bind_eq_ok_iff.mp h
      obtain ⟨action, haction, h⟩ := Except.bind_eq_ok_iff.mp h
      obtain ⟨outer, houter, h⟩ := Except.bind_eq_ok_iff.mp h
      obtain rfl := Except.ok.inj h
      obtain rfl : action = .render q := hi
      obtain ⟨rfl, hrequest⟩ := Settings.action_eq_render haction
      exact ⟨before, behind, outer, inner, rest, tail', hroot, hscan, houter, hinner, hrequest, rfl⟩

/-- **The command lines that render**: what stands behind the command makes the request, and a
configuration may be named in front of the command or behind it, where it comes first. -/
theorem Invocation.read_eq_ok_render {args : List String} {i : Invocation} {q : Request}
    (h : Invocation.read args = .ok i) (hi : i.action = .render q) :
    ∃ before behind : List Said, ∃ front back : List String,
      args = front ++ "render" :: back ∧ Command.root.Writes before front ∧
      Command.render.Writes behind back ∧ q.SaidBy behind ∧
      i.config = (Said.values "config" (behind ++ before)).head? := by
  obtain ⟨p, p', outer, inner, rest, tail, hroot, hscan, houter, hinner, hrequest, hconfig⟩ :=
    exists_scans h hi
  obtain ⟨front, before, ⟨word, hword, hargs⟩, hbefore⟩ := Command.scan_eq_ok hroot houter
  obtain ⟨back, behind, hback, hbehind⟩ := Command.scan_eq_ok hscan hinner
  obtain ⟨hwrites, houterStored, -⟩ := hbefore.stored_of_start
  obtain ⟨hwrites', hinnerStored, hwords⟩ := hbehind.stored_of_start
  obtain rfl : rest = back := by
    cases tail with
    | none => exact hback
    | some tail =>
      obtain ⟨word, hword, -⟩ := hback
      cases hword
  obtain rfl := Command.eq_of_subcommand? hword
  refine ⟨before, behind, front, rest, hargs, hwrites, hwrites',
    Settings.saidBy_of_request hrequest hinnerStored hwords, ?_⟩
  have hin : Said.values "config" behind = inner.config.toList := hinnerStored .config
  have hout : Said.values "config" before = outer.config.toList := houterStored .config
  rw [hconfig, Said.values_append, hin, hout]
  cases inner.config <;> cases outer.config <;> rfl

end Logline
