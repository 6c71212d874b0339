import Logline.Json.Reader
import Logline.Json.Writer
import Mathlib.Data.List.Basic
import Mathlib.Data.List.TakeWhile

/-!
# Documents written and read back

The compact form of a document reads back as the document, unless it holds a floating-point number,
an integer of more than 64 bits, or more nested arrays and objects than a reader follows.

Reading takes two steps, and so does the argument.  The characters that are written for a value read
as the tokens of the value, whatever comes behind them, as long as it can stand behind a value: a
number or a word only ends where something else comes.  And the tokens of a value lead the reader
from where a value may start to where it has the value, whatever is open around it.

## What is here

* `Json.Numeral.text` and `Json.Numeral.read?_text` — a numeral as it is written, and that it reads
  back; `Json.Number.read?_integerText` — so does an integer.
* `Json.Token.Reads` — characters read as tokens, with its rules for putting one piece behind
  another.  `Json.Token.readFrom?_quoted` is the one for strings.
* `Json.tokens` — the tokens of a document; `Json.Exact` — the documents that this is about.
* `Json.Token.reads_chars` and `Json.Await.builds_tokens` — the two halves.
* `Json.read?_compact` — **writing a document loses nothing**.
-/

set_option autoImplicit false
namespace Logline
namespace Json

/-! ## Numbers -/

theorem head?_toDigits_ne_zero {n : Nat} (h : 0 < n) : (Nat.toDigits 10 n).head? ≠ some '0' := by
  induction n using Nat.strongRecOn with
  | ind n ih =>
    rcases Nat.lt_or_ge n 10 with hlt | hge
    · have hdigit : ∀ m < 10, 0 < m → [Nat.digitChar m].head? ≠ some '0' := by decide
      rw [Nat.toDigits_of_lt_base hlt]
      exact hdigit n hlt h
    · rw [Nat.toDigits_of_base_le (by decide) hge,
        List.head?_append_of_ne_nil _ Nat.toDigits_ne_nil]
      exact ih (n / 10) (by omega) (by omega)

/-- Digits end where something else comes. -/
theorem digits_append {ds rest : List Char} (hdigit : ∀ c ∈ ds, c.isDigit = true)
    (hrest : ∀ c ∈ rest.head?, c.isDigit = false) :
    (ds ++ rest).takeWhile Char.isDigit = ds ∧ (ds ++ rest).dropWhile Char.isDigit = rest := by
  rw [List.takeWhile_append_of_pos hdigit, List.dropWhile_append_of_pos hdigit]
  cases rest with
  | nil => exact ⟨List.append_nil ds, rfl⟩
  | cons c rest =>
    have hc : ¬ c.isDigit = true := Bool.eq_false_iff.mp (hrest c rfl)
    rw [List.takeWhile_cons_of_neg hc, List.dropWhile_cons_of_neg hc, List.append_nil]
    exact ⟨rfl, rfl⟩

namespace Numeral

/-- What is written behind the whole part: a point and the fraction, and a letter and the exponent
with its sign, each of them if it is there. -/
def tail (fraction : Option (List Char)) (exponent : Option Int) : List Char :=
  fraction.elim [] ('.' :: ·) ++ exponent.elim [] fun e ↦
    'e' :: (if e < 0 then '-' else '+') :: Nat.toDigits 10 e.natAbs

/-- A numeral as it is written. -/
def text (n : Numeral) : List Char :=
  (if n.negative then ['-'] else []) ++ n.whole ++ tail n.fraction n.exponent

/-- A numeral that can be written: it has digits in front of the point, which start with a zero only
if that is alone, and a fraction has digits as well. -/
structure Proper (n : Numeral) : Prop where
  whole_ne_nil : n.whole ≠ []
  isDigit : ∀ c ∈ n.whole, c.isDigit = true
  zero : n.whole.head? = some '0' → n.whole = ['0']
  fraction : ∀ ds ∈ n.fraction, ds ≠ [] ∧ ∀ c ∈ ds, c.isDigit = true

theorem readExponent?_toDigits (e : Int) :
    readExponent? ((if e < 0 then '-' else '+') :: Nat.toDigits 10 e.natAbs) = some e := by
  have hds : Nat.toDigits 10 e.natAbs ≠ [] ∧ (Nat.toDigits 10 e.natAbs).all Char.isDigit = true :=
    ⟨Nat.toDigits_ne_nil, List.all_eq_true.mpr fun c hc ↦
      Nat.isDigit_of_mem_toDigits (by decide) (by decide) hc⟩
  split
  · simp only [readExponent?, if_pos hds, Nat.ofDigitChars_ten_toDigits, if_true]
    congr 1
    omega
  · simp only [readExponent?, if_pos hds, Nat.ofDigitChars_ten_toDigits, Bool.false_eq_true,
      if_false]
    congr 1
    omega

theorem not_isDigit_of_mem_head?_tail (fraction : Option (List Char)) (exponent : Option Int) :
    ∀ c ∈ (tail fraction exponent).head?, c.isDigit = false := by
  cases fraction <;> cases exponent <;> simp [tail]

theorem readRest?_tail {fraction : Option (List Char)}
    (h : ∀ ds ∈ fraction, ds ≠ [] ∧ ∀ c ∈ ds, c.isDigit = true) (exponent : Option Int) :
    readRest? (tail fraction exponent) = some (fraction, exponent) := by
  have hexponent : ∀ e : Int, tail none (some e) =
      'e' :: (if e < 0 then '-' else '+') :: Nat.toDigits 10 e.natAbs := fun _ ↦ rfl
  cases fraction with
  | none =>
    cases exponent with
    | none => rfl
    | some e =>
      rw [hexponent, readRest?]
      · simp [readExponent?_toDigits]
      · intro ds hds
        exact absurd (List.cons.inj hds).1 (by decide)
  | some ds =>
    obtain ⟨hne, hdigit⟩ := h ds rfl
    have htail : tail (some ds) exponent = '.' :: (ds ++ tail none exponent) := rfl
    obtain ⟨htake, hdrop⟩ := digits_append hdigit (not_isDigit_of_mem_head?_tail none exponent)
    rw [htail, readRest?]
    simp only [htake, hdrop, Option.some.injEq, hne, if_false]
    cases exponent with
    | none => rfl
    | some e => simp [hexponent, readExponent?_toDigits]

/-- **A numeral reads as it is written.** -/
theorem read?_text {n : Numeral} (h : n.Proper) : read? n.text = some n := by
  obtain ⟨negative, whole, fraction, exponent⟩ := n
  obtain ⟨hne, hdigit, hzero, hfraction⟩ := h
  obtain ⟨htake, hdrop⟩ :=
    digits_append hdigit (not_isDigit_of_mem_head?_tail fraction exponent)
  have hbody : read? (text ⟨negative, whole, fraction, exponent⟩) =
      let body := whole ++ tail fraction exponent
      let whole := body.takeWhile Char.isDigit
      if whole = [] ∨ whole.head? = some '0' ∧ whole ≠ ['0'] then none
      else (readRest? (body.dropWhile Char.isDigit)).map fun (fraction, exponent) ↦
        ⟨negative, whole, fraction, exponent⟩ := by
    cases negative with
    | true => rfl
    | false =>
      rw [text, read?]
      · rfl
      · -- A digit is no minus sign.
        intro rest hrest
        obtain ⟨d, ds, rfl⟩ := List.exists_cons_of_ne_nil hne
        obtain rfl := (List.cons.inj hrest).1
        exact absurd (hdigit '-' List.mem_cons_self) (by decide)
  simp only [hbody, htake, hdrop, readRest?_tail hfraction, Option.map_some]
  exact if_neg (by rintro (h | ⟨h, h'⟩); exacts [hne h, h' (hzero h)])

theorem le_ofDigitChars (acc : Nat) (ds : List Char) : acc ≤ Nat.ofDigitChars 10 ds acc := by
  induction ds generalizing acc with
  | nil => exact Nat.le_refl acc
  | cons c ds ih =>
    rw [Nat.ofDigitChars_cons]
    exact Nat.le_trans (by omega) (ih _)

/-- Digits whose value has 64 bits are all looked at. -/
theorem absorb_eq {acc : Nat} {ds : List Char}
    (h : Nat.ofDigitChars 10 ds acc < 18446744073709551616) :
    absorb acc ds = (Nat.ofDigitChars 10 ds acc, []) := by
  induction ds generalizing acc with
  | nil => rfl
  | cons c ds ih =>
    have hsplit : Nat.ofDigitChars 10 (c :: ds) acc =
        Nat.ofDigitChars 10 ds (Nat.ofDigitChars 10 [c] acc) := rfl
    rw [hsplit] at h ⊢
    rw [absorb, if_pos (Nat.lt_of_le_of_lt (le_ofDigitChars _ ds) h), ih h]

end Numeral

/-- **An integer of 64 bits, with or without a sign, reads back.** -/
theorem Number.read?_integerText {n : Int} (h0 : -9223372036854775808 ≤ n)
    (h1 : n < 18446744073709551616) : Number.read? (integerText n) = some (.integer n) := by
  have hzero : (Nat.toDigits 10 n.natAbs).head? = some '0' → Nat.toDigits 10 n.natAbs = ['0'] := by
    intro hhead
    obtain hn | hn := Nat.eq_zero_or_pos n.natAbs
    · rw [hn, Nat.toDigits_zero]
    · exact absurd hhead (head?_toDigits_ne_zero hn)
  have hdigit : ∀ c ∈ Nat.toDigits 10 n.natAbs, c.isDigit = true := fun c hc ↦
    Nat.isDigit_of_mem_toDigits (by decide) (by decide) hc
  have htext : integerText n =
      Numeral.text ⟨decide (n < 0), Nat.toDigits 10 n.natAbs, none, none⟩ := by
    rw [integerText]
    split <;> simp [Numeral.text, Numeral.tail, *]
  have hvalue : Numeral.absorb 0 (Nat.toDigits 10 n.natAbs) = (n.natAbs, []) := by
    rw [Numeral.absorb_eq (by rw [Nat.ofDigitChars_ten_toDigits]; omega),
      Nat.ofDigitChars_ten_toDigits]
  have hfraction : ∀ ds ∈ (none : Option (List Char)), ds ≠ [] ∧ ∀ c ∈ ds, c.isDigit = true := nofun
  rw [Number.read?, htext, Numeral.read?_text ⟨Nat.toDigits_ne_nil, hdigit, hzero, hfraction⟩,
    Option.bind_some, Numeral.toNumber?, hvalue]
  simp only [decide_eq_true_eq]
  rw [if_pos ⟨trivial, trivial, trivial, fun h ↦ by omega⟩]
  split
  · congr 2
    omega
  · congr 2
    omega

/-! ## From characters to tokens -/

namespace Token

theorem readFrom?_cons (m : Mode) (c : Char) (rest : List Char) :
    readFrom? m (c :: rest) =
      (m.step c).bind fun s ↦ (readFrom? s.2 rest).map (s.1 ++ ·) := by
  rw [readFrom?]
  cases m.step c with
  | none => rfl
  | some s => exact Option.map_eq_bind.symm

/-- A character that completes no token. -/
theorem readFrom?_of_step {m m' : Mode} {c : Char} (h : m.step c = some ([], m'))
    (rest : List Char) : readFrom? m (c :: rest) = readFrom? m' rest := by
  rw [readFrom?_cons, h, Option.bind_some]
  exact Option.map_id'

/-- A mode that ends here owes its tokens, and what follows is read on its own. -/
theorem readFrom?_of_next {m : Mode} {rest : List Char}
    (h : ∀ c ∈ rest.head?, m.step c = m.next c) :
    readFrom? m rest = m.finish.bind fun owed ↦ (readFrom? .blank rest).map (owed ++ ·) := by
  cases rest with
  | nil =>
    have hblank : readFrom? .blank [] = some [] := rfl
    simp only [hblank, Option.map_some, List.append_nil, Option.bind_fun_some]
    rfl
  | cons c rest =>
    have hblank : Mode.step .blank c = Mode.start c := rfl
    rw [readFrom?_cons, readFrom?_cons, h c rfl, hblank, Mode.next]
    cases m.finish with
    | none => rfl
    | some owed =>
      cases Mode.start c with
      | none => rfl
      | some s => simp [Function.comp_def, List.append_assoc]

/-! ### Strings -/

/-- A character behind a backslash. -/
theorem readFrom?_escape {c d : Char} (h : escaped? d = some c) (hu : d ≠ 'u')
    (read rest : List Char) :
    readFrom? (.text read) ('\\' :: d :: rest) = readFrom? (.text (c :: read)) rest := by
  have hslash : Mode.step (.text read) '\\' = some ([], .escape read) := rfl
  have hstep : Mode.step (.escape read) d = some ([], .text (c :: read)) := by
    rw [Mode.step, if_neg hu, h]
    rfl
  rw [readFrom?_of_step hslash, readFrom?_of_step hstep]

/-- A character behind a backslash, as four hexadecimal digits. -/
theorem readFrom?_unit {a b c d : Char} {n : Nat} (h : hexValue? [a, b, c, d] = some n)
    (hn : n < 0xD800) (read rest : List Char) :
    readFrom? (.text read) ('\\' :: 'u' :: a :: b :: c :: d :: rest) =
      readFrom? (.text (Char.ofNat n :: read)) rest := by
  have hslash : Mode.step (.text read) '\\' = some ([], .escape read) := rfl
  have hu : Mode.step (.escape read) 'u' = some ([], .unit read none []) := rfl
  have ha : Mode.step (.unit read none []) a = some ([], .unit read none [a]) := rfl
  have hb : Mode.step (.unit read none [a]) b = some ([], .unit read none [b, a]) := rfl
  have hc : Mode.step (.unit read none [b, a]) c = some ([], .unit read none [c, b, a]) := rfl
  have hd : Mode.step (.unit read none [c, b, a]) d = some ([], .text (Char.ofNat n :: read)) := by
    show (hexValue? [a, b, c, d]).bind (Mode.closeUnit read none) = _
    rw [h, Option.bind_some, Mode.closeUnit, if_neg (by omega), if_neg (by omega)]
  rw [readFrom?_of_step hslash, readFrom?_of_step hu, readFrom?_of_step ha, readFrom?_of_step hb,
    readFrom?_of_step hc, readFrom?_of_step hd]

/-- One character of a string, escaped or not. -/
theorem readFrom?_quotedChar (c : Char) (read rest : List Char) :
    readFrom? (.text read) (quotedChar c ++ rest) = readFrom? (.text (c :: read)) rest := by
  fun_cases quotedChar c with
  | case1 => exact readFrom?_escape (by decide : escaped? '"' = some '"') (by decide) read rest
  | case2 => exact readFrom?_escape (by decide : escaped? '\\' = some '\\') (by decide) read rest
  | case3 => exact readFrom?_escape (by decide : escaped? 'b' = some '\x08') (by decide) read rest
  | case4 => exact readFrom?_escape (by decide : escaped? 'f' = some '\x0C') (by decide) read rest
  | case5 => exact readFrom?_escape (by decide : escaped? 'n' = some '\n') (by decide) read rest
  | case6 => exact readFrom?_escape (by decide : escaped? 'r' = some '\r') (by decide) read rest
  | case7 => exact readFrom?_escape (by decide : escaped? 't' = some '\t') (by decide) read rest
  | case8 _ hlt =>
    have hvalue : ∀ n < 0x20,
        hexValue? ['0', '0', Nat.digitChar (n / 16), Nat.digitChar (n % 16)] = some n := by decide
    have h := readFrom?_unit (hvalue c.toNat hlt) (by omega) read rest
    rw [Char.ofNat_toNat] at h
    rw [if_pos hlt]
    exact h
  | case9 _ hge hquote hslash =>
    have hstep : Mode.step (.text read) c = some ([], .text (c :: read)) := by
      rw [Mode.step, if_neg hquote, if_neg hslash, if_neg hge]
    rw [if_neg hge]
    exact readFrom?_of_step hstep rest

/-- A string is one token. -/
theorem readFrom?_quoted (s : String) (rest : List Char) :
    readFrom? .blank (quoted s ++ rest) = (readFrom? .blank rest).map (.text s :: ·) := by
  have hchars : ∀ cs read, readFrom? (.text read) (cs.flatMap quotedChar ++ '"' :: rest) =
      (readFrom? .blank rest).map (.text (String.ofList (read.reverse ++ cs)) :: ·) := by
    intro cs
    induction cs with
    | nil =>
      intro read
      rw [List.append_nil, List.flatMap_nil, List.nil_append, readFrom?_cons]
      rfl
    | cons c cs ih =>
      intro read
      rw [List.flatMap_cons, List.append_assoc, readFrom?_quotedChar, ih, List.reverse_cons,
        List.append_assoc]
      rfl
  have hopen : Mode.step .blank '"' = some ([], .text []) := rfl
  have h := hchars s.toList []
  rw [List.reverse_nil, List.nil_append, String.ofList_toList] at h
  rw [quoted, List.append_assoc, List.cons_append, readFrom?_of_step hopen]
  exact h

/-! ### Words and numbers -/

/-- Characters that a mode only collects. -/
theorem readFrom?_collect {mode : List Char → Mode} {cs : List Char}
    (h : ∀ c ∈ cs, ∀ read, (mode read).step c = some ([], mode (c :: read)))
    (read rest : List Char) :
    readFrom? (mode read) (cs ++ rest) = readFrom? (mode (cs.reverse ++ read)) rest := by
  induction cs generalizing read with
  | nil => rfl
  | cons c cs ih =>
    rw [List.forall_mem_cons] at h
    rw [List.cons_append, readFrom?_of_step (h.1 read), ih h.2, List.reverse_cons,
      List.append_assoc]
    rfl

/-! ### Tokens in front of others -/

/-- What may stand behind a value: nothing, a comma, or the end of what the value is in. -/
def Closes (rest : List Char) : Prop := ∀ c ∈ rest.head?, c = ',' ∨ c = ']' ∨ c = '\x7d'

theorem Closes.cons {c : Char} (h : c = ',' ∨ c = ']' ∨ c = '\x7d') (rest : List Char) :
    Closes (c :: rest) := by
  intro d hd
  rw [List.head?_cons, Option.mem_some_iff] at hd
  exact hd ▸ h

/-- The characters read as the tokens, in front of anything that may stand behind a value. -/
def Reads (cs : List Char) (ts : List Token) : Prop :=
  ∀ rest, Closes rest → readFrom? .blank (cs ++ rest) = (readFrom? .blank rest).map (ts ++ ·)

namespace Reads

theorem nil : Reads [] [] := fun _ _ ↦ Option.map_id'.symm

theorem append {cs cs' : List Char} {ts ts' : List Token} (h : Reads cs ts) (h' : Reads cs' ts')
    (hcloses : ∀ rest, Closes rest → Closes (cs' ++ rest)) : Reads (cs ++ cs') (ts ++ ts') := by
  intro rest hrest
  rw [List.append_assoc, h _ (hcloses rest hrest), h' rest hrest, Option.map_map]
  simp only [Function.comp_def, List.append_assoc]

/-- A character that is a token on its own. -/
theorem mark {c : Char} {t : Token} (hc : Mode.start c = some ([t], .blank)) {cs : List Char}
    {ts : List Token} (h : Reads cs ts) : Reads (c :: cs) (t :: ts) := by
  intro rest hrest
  have hblank : Mode.step .blank c = some ([t], .blank) := hc
  rw [List.cons_append, readFrom?_cons, hblank, Option.bind_some, h rest hrest, Option.map_map]
  rfl

theorem quoted {cs : List Char} {ts : List Token} (h : Reads cs ts) (s : String) :
    Reads (Json.quoted s ++ cs) (.text s :: ts) := by
  intro rest hrest
  rw [List.append_assoc, readFrom?_quoted, h rest hrest, Option.map_map]
  rfl

/-- All but the first of several have a comma in front. -/
theorem separated {cs : List Char} {ts : List Token} (h : Reads cs ts) (first : Bool) :
    Reads ((if first then [] else [',']) ++ cs) ((if first then [] else [.comma]) ++ ts) := by
  cases first with
  | true => exact h
  | false => exact h.mark rfl

end Reads

/-- A token whose mode collects characters until something else comes. -/
theorem reads_collect {mode : List Char → Mode} {c : Char} {cs : List Char} {ts : List Token}
    (hstart : Mode.start c = some ([], mode [c]))
    (hcollect : ∀ d ∈ cs, ∀ read, (mode read).step d = some ([], mode (d :: read)))
    (hnext : ∀ d, d = ',' ∨ d = ']' ∨ d = '\x7d' → ∀ read, (mode read).step d = (mode read).next d)
    (hfinish : (mode (c :: cs).reverse).finish = some ts) : Reads (c :: cs) ts := by
  intro rest hrest
  have hblank : Mode.step .blank c = some ([], mode [c]) := hstart
  rw [List.cons_append, readFrom?_of_step hblank, readFrom?_collect hcollect, ← List.reverse_cons,
    readFrom?_of_next (fun d hd ↦ hnext d (hrest d hd) _), hfinish, Option.bind_some]

/-- A word is one token. -/
theorem reads_word {c : Char} {cs : List Char} {v : Json}
    (hstart : Mode.start c = some ([], .word [c])) (hlower : cs.all Char.isLower = true)
    (hv : scalarOfWord? (c :: cs) = some v) : Reads (c :: cs) [.scalar v] := by
  refine reads_collect hstart (fun d hd read ↦ if_pos (List.all_eq_true.mp hlower d hd)) ?_ ?_
  · rintro d (rfl | rfl | rfl) read <;> rfl
  · rw [Mode.finish, List.reverse_reverse, hv]
    rfl

theorem start_of_isDigit {c : Char} (h : c.isDigit = true) :
    Mode.start c = some ([], .number [c]) := by
  unfold Mode.start
  split
  case h_12 => exact if_pos (.inr h)
  all_goals exact absurd h (by decide)

/-- An integer is one token. -/
theorem reads_integerText {n : Int} (h0 : -9223372036854775808 ≤ n)
    (h1 : n < 18446744073709551616) : Reads (integerText n) [.scalar (.number (.integer n))] := by
  have hdigit : ∀ c ∈ Nat.toDigits 10 n.natAbs, c.isDigit = true := fun c hc ↦
    Nat.isDigit_of_mem_toDigits (by decide) (by decide) hc
  obtain ⟨c, cs, htext, hstart, hcs⟩ : ∃ c cs, integerText n = c :: cs ∧
      Mode.start c = some ([], .number [c]) ∧ ∀ d ∈ cs, d.isDigit = true := by
    rw [integerText]
    split
    · exact ⟨_, _, rfl, rfl, hdigit⟩
    · cases hds : Nat.toDigits 10 n.natAbs with
      | nil => exact absurd hds Nat.toDigits_ne_nil
      | cons c cs =>
        rw [hds, List.forall_mem_cons] at hdigit
        exact ⟨c, cs, rfl, start_of_isDigit hdigit.1, hdigit.2⟩
  have hvalue := Number.read?_integerText h0 h1
  rw [htext] at hvalue ⊢
  refine reads_collect hstart (fun d hd read ↦ if_pos (.inl (hcs d hd))) ?_ ?_
  · rintro d (rfl | rfl | rfl) read <;> rfl
  · rw [Mode.finish, List.reverse_reverse, hvalue]
    rfl

end Token

/-! ## Documents as tokens -/

mutual

/-- The tokens of a document. -/
def tokens : Json → List Token
  | string s => [.text s]
  | array items => .openArray :: itemTokens true items ++ [.closeArray]
  | object members => .openObject :: memberTokens true members ++ [.closeObject]
  | v => [.scalar v]

/-- The tokens of the items of an array, with a comma in front of each but the first. -/
def itemTokens (first : Bool) : List Json → List Token
  | [] => []
  | v :: rest => (if first then [] else [.comma]) ++ tokens v ++ itemTokens false rest

/-- The tokens of the members of an object, with a comma in front of each but the first. -/
def memberTokens (first : Bool) : List (String × Json) → List Token
  | [] => []
  | (k, v) :: rest =>
    (if first then [] else [.comma]) ++ .text k :: .colon :: tokens v ++ memberTokens false rest

end

/-- The documents that the compact form is exact about: every number is an integer of 64 bits, with
or without a sign, and at most `depth` arrays and objects are around a value. -/
inductive Exact : Nat → Json → Prop where
  | null {depth : Nat} : Exact depth .null
  | bool {depth : Nat} {b : Bool} : Exact depth (.bool b)
  | integer {depth : Nat} {n : Int} (h0 : -9223372036854775808 ≤ n)
    (h1 : n < 18446744073709551616) : Exact depth (.number (.integer n))
  | string {depth : Nat} {s : String} : Exact depth (.string s)
  | array {depth : Nat} {items : List Json} (h : ∀ v ∈ items, Exact depth v) :
    Exact (depth + 1) (.array items)
  | object {depth : Nat} {members : List (String × Json)} (h : ∀ m ∈ members, Exact depth m.2) :
    Exact (depth + 1) (.object members)

namespace Token

theorem closes_itemChars (items : List Json) {rest : List Char} (h : Closes rest) :
    Closes (itemChars false items ++ rest) := by
  cases items with
  | nil => exact h
  | cons v items => exact .cons (.inl rfl) _

theorem closes_memberChars (members : List (String × Json)) {rest : List Char} (h : Closes rest) :
    Closes (memberChars false members ++ rest) := by
  cases members with
  | nil => exact h
  | cons m members => exact .cons (.inl rfl) _

theorem reads_itemChars {items : List Json} (h : ∀ v ∈ items, Reads (chars v) (tokens v))
    (first : Bool) : Reads (itemChars first items) (itemTokens first items) := by
  induction items generalizing first with
  | nil => exact Reads.nil
  | cons v items ih =>
    rw [List.forall_mem_cons] at h
    rw [itemChars, itemTokens]
    exact (h.1.separated first).append (ih h.2 false) (fun _ ↦ closes_itemChars items)

theorem reads_memberChars {members : List (String × Json)}
    (h : ∀ m ∈ members, Reads (chars m.2) (tokens m.2)) (first : Bool) :
    Reads (memberChars first members) (memberTokens first members) := by
  induction members generalizing first with
  | nil => exact Reads.nil
  | cons m members ih =>
    obtain ⟨k, v⟩ := m
    rw [List.forall_mem_cons] at h
    have hmember : Reads (quoted k ++ ':' :: chars v) (.text k :: .colon :: tokens v) :=
      (h.1.mark rfl).quoted k
    rw [memberChars, memberTokens, List.append_assoc (if first = true then [] else [','])]
    exact (hmember.separated first).append (ih h.2 false) (fun _ ↦ closes_memberChars members)

/-- **The compact form of a document reads as its tokens.** -/
theorem reads_chars {depth : Nat} {v : Json} (h : Exact depth v) : Reads (chars v) (tokens v) := by
  induction h with
  | null => exact reads_word rfl rfl rfl
  | @bool _ b =>
    cases b with
    | true => exact reads_word rfl rfl rfl
    | false => exact reads_word rfl rfl rfl
  | integer h0 h1 => exact reads_integerText h0 h1
  | @string _ s =>
    have h := Reads.nil.quoted s
    rw [List.append_nil] at h
    exact h
  | array _ ih =>
    exact ((reads_itemChars ih true).mark rfl).append (Reads.nil.mark rfl)
      (fun _ _ ↦ .cons (.inr (.inl rfl)) _)
  | object _ ih =>
    exact ((reads_memberChars ih true).mark rfl).append (Reads.nil.mark rfl)
      (fun _ _ ↦ .cons (.inr (.inr rfl)) _)

end Token

/-! ## From tokens to documents -/

namespace Await

theorem run_cons (a : Await) (stack : List Frame) (t : Token) (rest : List Token) :
    run a stack (t :: rest) = (a.step stack t).bind fun s ↦ run s.1 s.2 rest := by
  rw [run]
  rfl

theorem run_of_step {a a' : Await} {stack stack' : List Frame} {t : Token}
    (h : a.step stack t = some (a', stack')) (rest : List Token) :
    run a stack (t :: rest) = run a' stack' rest := by
  rw [run_cons, h, Option.bind_some]

/-- Where an array may end, a value may start. -/
theorem run_item (v : Json) (stack : List Frame) (rest : List Token) :
    run .item stack (tokens v ++ rest) = run .value stack (tokens v ++ rest) := by
  cases v <;> rfl

/-- The tokens are those of a value: read where one may start, they lead to it. -/
def Builds (room : Nat) (ts : List Token) (v : Json) : Prop :=
  ∀ stack rest, stack.length + room ≤ maxDepth →
    run .value stack (ts ++ rest) = run (.done v) stack rest

/-- The items of an array behind the one that has just been read, and its end. -/
theorem run_items {room : Nat} {items : List Json} (h : ∀ v ∈ items, Builds room (tokens v) v)
    {stack : List Frame} (hstack : stack.length + (room + 1) ≤ maxDepth) (rest : List Token)
    (seen : List Json) (v : Json) :
    run (.done v) (.array seen :: stack) (itemTokens false items ++ .closeArray :: rest) =
      run (.done (.array (seen.reverse ++ v :: items))) stack rest := by
  induction items generalizing seen v with
  | nil =>
    rw [itemTokens, List.nil_append, run_of_step rfl, List.reverse_cons]
  | cons w items ih =>
    rw [List.forall_mem_cons] at h
    have hroom : (Frame.array (v :: seen) :: stack).length + room ≤ maxDepth := by
      rw [List.length_cons]
      omega
    have hitems := ih h.2 (v :: seen) w
    rw [List.reverse_cons, List.append_assoc, List.singleton_append] at hitems
    simp only [itemTokens, Bool.false_eq_true, if_false, List.append_assoc, List.cons_append,
      List.nil_append]
    rw [run_of_step rfl, h.1 _ _ hroom, hitems]

/-- The members of an object behind the one that has just been read, and its end. -/
theorem run_members {room : Nat} {members : List (String × Json)}
    (h : ∀ m ∈ members, Builds room (tokens m.2) m.2) {stack : List Frame}
    (hstack : stack.length + (room + 1) ≤ maxDepth) (rest : List Token)
    (seen : List (String × Json)) (k : String) (v : Json) :
    run (.done v) (.object seen k :: stack) (memberTokens false members ++ .closeObject :: rest) =
      run (.done (.object (seen.reverse ++ (k, v) :: members))) stack rest := by
  induction members generalizing seen k v with
  | nil =>
    rw [memberTokens, List.nil_append, run_of_step rfl, List.reverse_cons]
  | cons m members ih =>
    obtain ⟨l, w⟩ := m
    rw [List.forall_mem_cons] at h
    have hroom : (Frame.object ((k, v) :: seen) l :: stack).length + room ≤ maxDepth := by
      rw [List.length_cons]
      omega
    have hmembers := ih h.2 ((k, v) :: seen) l w
    rw [List.reverse_cons, List.append_assoc, List.singleton_append] at hmembers
    simp only [memberTokens, Bool.false_eq_true, if_false, List.append_assoc, List.cons_append,
      List.nil_append]
    rw [run_of_step rfl, run_of_step rfl, run_of_step rfl, h.1 _ _ hroom, hmembers]

/-- **The tokens of a document build it.** -/
theorem builds_tokens {depth : Nat} {v : Json} (h : Exact depth v) : Builds depth (tokens v) v := by
  induction h with
  | null | bool | integer h0 h1 | string => exact fun stack rest _ ↦ run_of_step rfl rest
  | @array depth items _ ih =>
    intro stack rest hstack
    have hopen : Await.step .value stack .openArray = some (.item, .array [] :: stack) :=
      if_pos (by omega)
    cases items with
    | nil =>
      exact (run_of_step hopen _).trans (run_of_step rfl _)
    | cons v items =>
      rw [List.forall_mem_cons] at ih
      have hroom : (Frame.array [] :: stack).length + depth ≤ maxDepth := by
        rw [List.length_cons]
        omega
      simp only [tokens, itemTokens, if_true, List.append_assoc, List.cons_append,
        List.nil_append]
      rw [run_of_step hopen, run_item, ih.1 _ _ hroom]
      exact run_items ih.2 hstack rest [] v
  | @object depth members _ ih =>
    intro stack rest hstack
    have hopen : Await.step .value stack .openObject = some (.key [] true, stack) :=
      if_pos (by omega)
    cases members with
    | nil =>
      exact (run_of_step hopen _).trans (run_of_step rfl _)
    | cons m members =>
      obtain ⟨k, v⟩ := m
      rw [List.forall_mem_cons] at ih
      have hroom : (Frame.object [] k :: stack).length + depth ≤ maxDepth := by
        rw [List.length_cons]
        omega
      simp only [tokens, memberTokens, if_true, List.append_assoc, List.cons_append,
        List.nil_append]
      rw [run_of_step hopen, run_of_step rfl, run_of_step rfl, ih.1 _ _ hroom]
      exact run_members ih.2 hstack rest [] k v

end Await

/-- **Writing a document loses nothing**: its compact form reads back as the document. -/
theorem read?_compact {v : Json} (h : Exact maxDepth v) : read? (compact v) = some v := by
  have htokens := Token.reads_chars h [] (by rintro c ⟨⟩)
  have hblank : Token.readFrom? .blank [] = some [] := rfl
  have hrun := Await.builds_tokens h [] [] (Nat.le_of_eq (Nat.zero_add _))
  rw [List.append_nil] at hrun
  rw [List.append_nil, hblank, Option.map_some, List.append_nil] at htokens
  rw [read?, Token.read?, compact, String.toList_ofList, htokens, Option.bind_some, hrun]
  rfl

end Json
end Logline
