import Logline.Toml.Value

/-!
# Tables of a document

A document is a tree of tables that its lines add to.  A table can come into being in three ways,
and what may be added to it later depends on how it did.

## What is here

* `Origin` and `Node` — the tree while it is built.
* `Node.descend` — goes down a path, makes the tables that are missing, and does something at its
  end.
* `Document.addTable`, `Document.addItem` and `Document.addValue` — the three kinds of lines.
* `Node.value` — the finished tree as a value.
-/

set_option autoImplicit false
namespace Logline
namespace Toml

/-- How a table came into being. -/
inductive Origin where
  /-- By a header of its own. -/
  | header
  /-- As a table above one that has a header. -/
  | implied
  /-- By a path in front of an equals sign. -/
  | dotted
  deriving DecidableEq

/-- A part of the tree: a value, a table, or the tables under one header in double brackets. -/
inductive Node where
  | value (v : Value)
  | table (origin : Origin) (entries : List (String × Node))
  | tables (items : List (List (String × Node)))

instance : Inhabited Node := ⟨.value default⟩

/-- What is in a table. -/
abbrev Entries := List (String × Node)

/-- Puts a node under a key, in place of the one that is there, or behind all others. -/
def Entries.put (key : String) (node : Node) : Entries → Entries
  | [] => [(key, node)]
  | (k, n) :: rest => if k = key then (k, node) :: rest else (k, n) :: put key node rest

/-- Goes down a path from a table and changes the table at its end.  Tables that are missing are
made, as `made`.  A path goes through a list of tables by its last one.  A path in front of an
equals sign, which makes dotted tables, must not go through a table that has a header. -/
def Node.descend (made : Origin) (change : Origin → Entries → Option Entries) (origin : Origin)
    (entries : Entries) : List String → Option Entries
  | [] => change origin entries
  | k :: ks =>
    match entries.lookup k with
    | none => do
      let sub ← descend made change made [] ks
      some (entries.put k (.table made sub))
    | some (.value _) => none
    | some (.table o sub) =>
      if made = .dotted ∧ o = .header then none
      else do
        let sub' ← descend made change o sub ks
        some (entries.put k (.table o sub'))
    | some (.tables items) =>
      match items.getLast? with
      | none => none
      | some sub => do
        let sub' ← descend made change .header sub ks
        some (entries.put k (.tables (items.dropLast ++ [sub'])))

/-- A document while it is read: its tree, and the path of the table that lines add to. -/
structure Document where
  entries : Entries
  current : List String

namespace Document

/-- A document without a line. -/
def empty : Document := ⟨[], []⟩

/-- Changes the table at the end of a path from the root. -/
def change (d : Document) (path : List String) (f : Origin → Entries → Option Entries) :
    Option Entries :=
  Node.descend .implied f .header d.entries path

/-- A header.  A table gets one header at most, and only if no path of keys has made it. -/
def addTable (d : Document) (path : List String) : Option Document :=
  match path.getLast? with
  | none => none
  | some key => do
    let entries ← d.change path.dropLast fun _ entries ↦
      match entries.lookup key with
      | none => some (entries.put key (.table .header []))
      | some (.table .implied sub) => some (entries.put key (.table .header sub))
      | some _ => none
    some ⟨entries, path⟩

/-- A header in double brackets: one more table under its path. -/
def addItem (d : Document) (path : List String) : Option Document :=
  match path.getLast? with
  | none => none
  | some key => do
    let entries ← d.change path.dropLast fun _ entries ↦
      match entries.lookup key with
      | none => some (entries.put key (.tables [[]]))
      | some (.tables items) => some (entries.put key (.tables (items ++ [[]])))
      | some _ => none
    some ⟨entries, path⟩

/-- A value under the last key of a path.  The keys before it lead to a dotted table. -/
def addValue (d : Document) (path : List String) (v : Value) : Option Document :=
  match path.getLast? with
  | none => none
  | some key => do
    let put (origin : Origin) (entries : Entries) : Option Entries :=
      if path.dropLast ≠ [] ∧ origin ≠ .dotted then none
      else match entries.lookup key with
        | none => some (entries.put key (.value v))
        | some _ => none
    let entries ← d.change d.current fun origin entries ↦
      Node.descend .dotted put origin entries path.dropLast
    some { d with entries }

end Document

/-! ## Inline tables -/

/-- Adds a value to an inline table.  Its tree is like a document's, but a table that is written
between braces is a value and gets no more entries. -/
def Entries.addValue (entries : Entries) (path : List String) (v : Value) : Option Entries :=
  (Document.addValue ⟨entries, []⟩ path v).map (·.entries)

/-! ## The finished tree -/

mutual

/-- A node as a value. -/
def Node.toValue : Node → Value
  | .value v => v
  | .table _ entries => .table (toEntries entries)
  | .tables items => .array (toItems items)

/-- The entries of a table as values. -/
def Node.toEntries : Entries → List (String × Value)
  | [] => []
  | (k, n) :: rest => (k, n.toValue) :: toEntries rest

/-- A list of tables as values. -/
def Node.toItems : List Entries → List Value
  | [] => []
  | entries :: rest => .table (toEntries entries) :: toItems rest

end

end Toml
end Logline
