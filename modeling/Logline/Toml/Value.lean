/-!
# Values of a configuration document

Configurations are written in TOML 1.0.

## What is here

* `Toml.Value` — a value.  Numbers with a fraction and points in time are kept as they were written;
  no configuration asks what they are worth.
* `Value.same` — whether two values are the same; `Value.same_iff` says that it is their equality.
-/

set_option autoImplicit false
namespace Logline
namespace Toml

/-- A value of a document. -/
inductive Value where
  | string (s : String)
  | integer (n : Int)
  | float (written : String)
  | boolean (b : Bool)
  | dateTime (written : String)
  | array (items : List Value)
  | table (entries : List (String × Value))

instance : Inhabited Value := ⟨.boolean false⟩

/-! ## Equality -/

mutual

/-- Whether two values are the same. -/
def Value.same : Value → Value → Bool
  | .string s, .string t | .float s, .float t | .dateTime s, .dateTime t => s == t
  | .integer m, .integer n => m == n
  | .boolean a, .boolean b => a == b
  | .array items, .array items' => sameItems items items'
  | .table entries, .table entries' => sameEntries entries entries'
  | _, _ => false

/-- Whether two lists of items are the same. -/
def Value.sameItems : List Value → List Value → Bool
  | [], [] => true
  | v :: items, v' :: items' => v.same v' && sameItems items items'
  | _, _ => false

/-- Whether two lists of entries are the same. -/
def Value.sameEntries : List (String × Value) → List (String × Value) → Bool
  | [], [] => true
  | (k, v) :: entries, (k', v') :: entries' => k == k' && v.same v' && sameEntries entries entries'
  | _, _ => false

end

mutual

theorem Value.same_iff : ∀ v w : Value, v.same w = true ↔ v = w
  | .string s, w => by cases w <;> simp [Value.same]
  | .integer n, w => by cases w <;> simp [Value.same]
  | .float s, w => by cases w <;> simp [Value.same]
  | .boolean b, w => by cases w <;> simp [Value.same]
  | .dateTime s, w => by cases w <;> simp [Value.same]
  | .array items, w => by cases w <;> simp [Value.same, Value.sameItems_iff items]
  | .table entries, w => by cases w <;> simp [Value.same, Value.sameEntries_iff entries]

theorem Value.sameItems_iff : ∀ items items' : List Value,
    Value.sameItems items items' = true ↔ items = items'
  | [], items' => by cases items' <;> simp [Value.sameItems]
  | v :: items, items' => by
    cases items' <;> simp [Value.sameItems, Value.same_iff v, Value.sameItems_iff items]

theorem Value.sameEntries_iff : ∀ entries entries' : List (String × Value),
    Value.sameEntries entries entries' = true ↔ entries = entries'
  | [], entries' => by cases entries' <;> simp [Value.sameEntries]
  | (k, v) :: entries, entries' => by
    cases entries' <;> simp [Value.sameEntries, Value.same_iff v, Value.sameEntries_iff entries,
      Prod.ext_iff, and_assoc]

end

instance : DecidableEq Value := fun v w ↦ decidable_of_iff _ (Value.same_iff v w)

end Toml
end Logline
