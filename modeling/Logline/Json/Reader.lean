import Logline.Json.Token

/-!
# Reading a document

The second half of reading a document: its tokens, one after the other, become a value.  The reader
keeps the open arrays and objects on a stack, so it is a recursion on the tokens alone.

## What is here

* `Frame` — an open array or object, with what it holds so far.
* `Await` — what may come next.
* `Await.step` — what one token does; `Json.read?` runs it over the tokens of a text.
* `maxDepth` — how many arrays and objects may be open at once.
-/

set_option autoImplicit false
namespace Logline
namespace Json

/-- An array or object that is open around the next value.  Its parts are in reverse. -/
inductive Frame where
  | array (items : List Json)
  | object (members : List (String × Json)) (key : String)

/-- What may come next. -/
inductive Await where
  /-- A value. -/
  | value
  /-- The first item of an array, or its end. -/
  | item
  /-- A key of an object; its end too if `first`. -/
  | key (members : List (String × Json)) (first : Bool)
  /-- The colon behind a key. -/
  | colon (members : List (String × Json)) (key : String)
  /-- What may follow a complete value. -/
  | done (v : Json)

/-- No document has more arrays and objects around a value. -/
def maxDepth : Nat := 127

namespace Await

/-- What the first token of a value does. -/
def openValue (stack : List Frame) : Token → Option (Await × List Frame)
  | .scalar v => some (done v, stack)
  | .text s => some (done (.string s), stack)
  | .openArray => if stack.length < maxDepth then some (item, .array [] :: stack) else none
  | .openObject => if stack.length < maxDepth then some (key [] true, stack) else none
  | _ => none

/-- What the token behind a complete value does. -/
def closeValue (v : Json) : List Frame → Token → Option (Await × List Frame)
  | .array items :: stack, .comma => some (value, .array (v :: items) :: stack)
  | .array items :: stack, .closeArray => some (done (.array (v :: items).reverse), stack)
  | .object members k :: stack, .comma => some (key ((k, v) :: members) false, stack)
  | .object members k :: stack, .closeObject =>
    some (done (.object ((k, v) :: members).reverse), stack)
  | _, _ => none

/-- What a token does to what may come next and to the open arrays and objects. -/
def step (a : Await) (stack : List Frame) (t : Token) : Option (Await × List Frame) :=
  match a, t with
  | value, t => openValue stack t
  | item, .closeArray =>
    match stack with
    | .array items :: rest => some (done (.array items.reverse), rest)
    | _ => none
  | item, t => openValue stack t
  | key members true, .closeObject => some (done (.object members.reverse), stack)
  | key members _, .text k => some (colon members k, stack)
  | key _ _, _ => none
  | colon members k, .colon => some (value, .object members k :: stack)
  | colon _ _, _ => none
  | done v, t => closeValue v stack t

/-- The value of the tokens from a state on. -/
def run (a : Await) (stack : List Frame) : List Token → Option Json
  | [] =>
    match a, stack with
    | done v, [] => some v
    | _, _ => none
  | t :: rest => do
    let (a', stack') ← a.step stack t
    run a' stack' rest

end Await

/-- The document that a text holds. -/
def read? (s : String) : Option Json := (Token.read? s).bind (Await.run .value [])

end Json
end Logline
