import Logline.Json.Number

/-!
# Documents

Option values arrive as JSON documents.

## What is here

* `Json` — a document, its members in the order they were written.
* `Json.canonical` — the document with the members of every object sorted by key, the last one kept
  where a key is repeated.
-/

set_option autoImplicit false
namespace Logline

/-- A JSON document. -/
inductive Json where
  | null
  | bool (b : Bool)
  | number (n : Json.Number)
  | string (s : String)
  | array (items : List Json)
  | object (members : List (String × Json))

namespace Json

instance : Inhabited Json := ⟨null⟩

/-- Puts a member at its place among sorted ones; one that is there already under its key stays. -/
def insertMember {α : Type} (key : String) (value : α) : List (String × α) → List (String × α)
  | [] => [(key, value)]
  | (k, v) :: rest =>
    if key = k then (k, v) :: rest
    else if key < k then (key, value) :: (k, v) :: rest
    else (k, v) :: insertMember key value rest

mutual

/-- The document with the members of every object in order of their keys, each key once with the
value it was given last.  Keys are ordered by their code points, which is the order of their UTF-8
bytes. -/
def canonical : Json → Json
  | array items => array (canonicalItems items)
  | object members => object (canonicalMembers members)
  | other => other

/-- `canonical` for the items of an array. -/
def canonicalItems : List Json → List Json
  | [] => []
  | v :: rest => canonical v :: canonicalItems rest

/-- `canonical` for the members of an object: later members come first and keep their places. -/
def canonicalMembers : List (String × Json) → List (String × Json)
  | [] => []
  | (k, v) :: rest => insertMember k (canonical v) (canonicalMembers rest)

end

end Json
end Logline
