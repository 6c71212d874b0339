import Logline.Calendar
import Logline.Toml.Text
import Logline.Toml.Value

/-!
# Scalars

Values without parts: strings, truth values, numbers and points in time.

## What is here

* `Scalar.integer` — decimal with a sign, or hexadecimal, octal or binary without one; in the range
  of 64 bits with a sign.
* `Scalar.float` — with a fraction, an exponent or both, or one of the words for infinity and for no
  number at all.
* `Scalar.dateTime` — a date, a time of day, or both and maybe an offset.
* `Scalar.value` — any of them, or a string or a truth value.
-/

set_option autoImplicit false
namespace Logline
namespace Toml
namespace Scalar

/-! ## Numbers -/

/-- Digits with at most one underscore between two of them; the underscores are left out. -/
def digitsWith (isDigit : Char → Bool) : List Char → List Char × List Char
  | [] => ([], [])
  | c :: rest =>
    if isDigit c then
      let (ds, rest') := digitsWith isDigit rest
      (c :: ds, rest')
    else if c = '_' && (rest.head?.map isDigit).getD false then digitsWith isDigit rest
    else ([], c :: rest)

/-- Digits of a kind with underscores between them; the first one is a digit. -/
def digits (isDigit : Char → Bool) : Scan (List Char) := do
  match ← Scan.peek? with
  | some c => if isDigit c then fun cs ↦ some (digitsWith isDigit cs) else failure
  | none => failure

/-- A sign or none: whether it is a minus sign. -/
def sign : Scan Bool := do
  match ← Scan.attempt (Scan.oneOf fun c ↦ c = '+' || c = '-') with
  | some c => pure (c = '-')
  | none => pure false

/-- The digits of a decimal integer.  Only zero itself starts with a zero. -/
def decimalDigits : Scan (List Char) := do
  match ← Scan.peek? with
  | some '0' => Scan.exactly (· = '0') 1
  | _ => digits Char.isDigit

/-- A decimal integer. -/
def decimal : Scan Int := do
  let negative ← sign
  let n : Int := Nat.ofDigitChars 10 (← decimalDigits) 0
  pure (if negative then -n else n)

/-- An integer in another base, behind its letters. -/
def based (start : String) (base : Nat) (isDigit : Char → Bool) : Scan Int := do
  Scan.exact start
  let ds ← digits isDigit
  pure (ds.foldl (fun acc d ↦ base * acc + Text.hexValue d) 0 : Nat)

/-- An integer in the range of 64 bits. -/
def integer : Scan Int := do
  let n ← based "0x" 16 Char.isHexDigit <|> based "0o" 8 (fun c ↦ '0' ≤ c && c ≤ '7') <|>
    based "0b" 2 (fun c ↦ c = '0' || c = '1') <|> decimal
  if -9223372036854775808 ≤ n ∧ n < 9223372036854775808 then pure n else failure

/-- Whether the number `0.d₁d₂d₃…` times ten to the power `point` rounds to infinity: whether it is
at least half a step above the largest floating-point number. -/
def overflows (ds : List Char) (point : Int) : Bool :=
  let significant := ds.dropWhile (· = '0')
  let point := point - (ds.length - significant.length : Nat)
  if significant = [] then false
  else if 310 < point then true
  else if point < 300 then false
  else
    let n := Nat.ofDigitChars 10 significant 0
    let exponent := point - significant.length
    let bound := Nat.pow 2 1024 - Nat.pow 2 970
    decide (bound * Nat.pow 10 (-exponent).toNat ≤ n * Nat.pow 10 exponent.toNat)

/-- A point and the digits behind it. -/
def fraction : Scan (List Char) := do
  Scan.char '.'
  digits Char.isDigit

/-- The letter of an exponent, its sign and its digits. -/
def exponent : Scan Int := do
  let _ ← Scan.oneOf fun c ↦ c = 'e' || c = 'E'
  let negative ← sign
  let n : Int := Nat.ofDigitChars 10 (← digits Char.isDigit) 0
  pure (if negative then -n else n)

/-- A number with a fraction, an exponent or both.  It must not round to infinity, unless it is
negative. -/
def number : Scan Unit := do
  let negative ← sign
  let whole ← decimalDigits
  let after ← Scan.attempt fraction
  let power ← Scan.attempt exponent
  if after = none ∧ power = none then failure
  else if !negative && overflows (whole ++ after.getD []) (whole.length + power.getD 0) then failure
  else pure ()

/-- A word for infinity or for no number at all, with a sign or none. -/
def word : Scan Unit := do
  let _ ← sign
  Scan.exact "inf" <|> Scan.exact "nan"

/-- A floating-point number. -/
def float : Scan Unit := number <|> word

/-! ## Points in time -/

/-- Digits of fixed number whose value is in a range. -/
def field (count low high : Nat) : Scan Nat := do
  let n := Nat.ofDigitChars 10 (← Scan.exactly Char.isDigit count) 0
  if low ≤ n ∧ n ≤ high then pure n else failure

/-- A date that exists. -/
def date : Scan Unit := do
  let year ← field 4 0 9999
  Scan.char '-'
  let month ← field 2 1 12
  Scan.char '-'
  let _ ← field 2 1 (Date.monthLength year month)

/-- A time of day, with a sixtieth second and a fraction allowed. -/
def time : Scan Unit := do
  let _ ← field 2 0 23
  Scan.char ':'
  let _ ← field 2 0 59
  Scan.char ':'
  let _ ← field 2 0 60
  let _ ← Scan.attempt do
    Scan.char '.'
    let _ ← Scan.many1 Char.isDigit

/-- An offset from universal time. -/
def offset : Scan Unit :=
  (do let _ ← Scan.oneOf fun c ↦ c = 'Z' || c = 'z') <|> do
    let _ ← Scan.oneOf fun c ↦ c = '+' || c = '-'
    let _ ← field 2 0 23
    Scan.char ':'
    let _ ← field 2 0 59

/-- A date with a time behind it or none, or a time. -/
def dateTime : Scan Unit :=
  (do
    date
    let _ ← Scan.attempt do
      let _ ← Scan.oneOf fun c ↦ c = 'T' || c = 't' || c = ' '
      time
      let _ ← Scan.attempt offset) <|> time

/-! ## Any scalar -/

/-- A truth value. -/
def boolean : Scan Bool :=
  (do Scan.exact "true"; pure true) <|> do Scan.exact "false"; pure false

/-- A value without parts. -/
def value : Scan Value :=
  Value.string <$> Text.string <|> Value.boolean <$> boolean <|>
    Value.dateTime <$> Scan.written dateTime <|> Value.float <$> Scan.written float <|>
    Value.integer <$> integer

end Scalar
end Toml
end Logline
