/-
# TOML tables

A document is built up statement by statement.  A table may be mentioned before it is declared:

| origin | by | may still be |
| --- | --- | --- |
| implied | the name of a table inside it | declared, extended |
| extended | a key with dots in the section that is read | extended in that section |
| declared | a header of its own | nothing |

An extended table counts as declared once the section has ended.  A value, also a list or a table
in braces, is complete: nothing can be added to it.
-/

import TypeFiles.Value

namespace TypeFiles
namespace Toml

/-- How a table came about. -/
inductive Origin where
  | implied
  | extended
  | declared
  deriving DecidableEq, Repr

/-- What stands under a key. -/
inductive Item where
  | value (v : Value)
  | table (origin : Origin) (entries : List (String × Item))
  /-- Several tables, of which the last one is still open. -/
  | tables (before : List Value) (last : List (String × Item))

/-- The entries of a table, in the order they were written. -/
abbrev Entries := List (String × Item)

mutual

/-- The value of an item. -/
def Item.toValue : Item → Value
  | .value v => v
  | .table _ entries => .mapping (entriesValue entries)
  | .tables before last => .list (before ++ [.mapping (entriesValue last)])

/-- The values of the entries of a table. -/
def entriesValue : List (String × Item) → List (Value × Value)
  | [] => []
  | (k, item) :: rest => (.text k, item.toValue) :: entriesValue rest

end

namespace Entries

/-- The item under a key. -/
def find? (entries : Entries) (key : String) : Option Item := entries.lookup key

/-- The entries with another item under a key; a new key goes to the end. -/
def put (entries : Entries) (key : String) (item : Item) : Entries :=
  if (entries.find? key).isSome then
    entries.map fun (k, v) => if k == key then (k, item) else (k, v)
  else entries ++ [(key, item)]

/-- Change the table at the end of a path that was named by a header.  Tables on the way that are
not there are implied; of several tables the last one is entered. -/
def alter (change : Entries → Option Entries) : List String → Entries → Option Entries
  | [], entries => change entries
  | key :: path, entries =>
    match entries.find? key with
    | none => (alter change path []).map fun inner => entries.put key (.table .implied inner)
    | some (.table origin inner) =>
      (alter change path inner).map fun inner => entries.put key (.table origin inner)
    | some (.tables before last) =>
      (alter change path last).map fun last => entries.put key (.tables before last)
    | some (.value _) => none

/-- Declare the table under a key. -/
def declare (key : String) (entries : Entries) : Option Entries :=
  match entries.find? key with
  | none => some (entries.put key (.table .declared []))
  | some (.table .implied inner) => some (entries.put key (.table .declared inner))
  | _ => none

/-- Start one more of the tables under a key. -/
def append (key : String) (entries : Entries) : Option Entries :=
  match entries.find? key with
  | none => some (entries.put key (.tables [] []))
  | some (.tables before last) =>
    some (entries.put key (.tables (before ++ [.mapping (entriesValue last)]) []))
  | _ => none

/-- Put a value under a key with dots, the last part of which is given apart. -/
def insert (value : Value) (last : String) : List String → Entries → Option Entries
  | [], entries =>
    match entries.find? last with
    | none => some (entries.put last (.value value))
    | some _ => none
  | key :: path, entries =>
    match entries.find? key with
    | none => (insert value last path []).map fun inner => entries.put key (.table .extended inner)
    | some (.table .declared _) => none
    | some (.table _ inner) =>
      (insert value last path inner).map fun inner => entries.put key (.table .extended inner)
    | _ => none

end Entries

mutual

/-- An item once the section that is read has ended. -/
def Item.settled : Item → Item
  | .value v => .value v
  | .table origin entries =>
    .table (if origin = .extended then .declared else origin) (settledEntries entries)
  | .tables before last => .tables before (settledEntries last)

/-- The entries of a table once the section that is read has ended. -/
def settledEntries : List (String × Item) → List (String × Item)
  | [] => []
  | (k, item) :: rest => (k, item.settled) :: settledEntries rest

end

end Toml
end TypeFiles
