/-
# Recordsmith.Toml.Basic — TOML tables and how they grow

A TOML document is one table, written piecemeal: by `[headers]`, by keys with
dots, and by inline tables. What may be added where depends on how a table came
to be, which every table remembers as its `Origin`:

* a table written inline is closed for good;
* a table with a header of its own, and one that only lies on the way to a
  header, can be entered by further headers; the latter can still get a header
  of its own, once, and then moves to the place of that header;
* a table made by a dotted key grows by dotted keys of the same section.

`Table.assign`, `Table.addSection` and `Table.addElement` are the three ways to
grow; each fails rather than define anything twice.
-/
import Recordsmith.Decimal

namespace Recordsmith.Toml

set_option autoImplicit false

/-- How a table came to be. -/
inductive Origin where
  | header
  | wayside
  | dotted
  | inline
deriving DecidableEq, Repr

/-- A TOML value. Of a date or time only its presence is kept, a float that is
infinite or not a number has no decimal, and an integer whose digits make no number
has no value. -/
inductive Node where
  | text (value : String)
  | integer (value : Option Int)
  | float (value : Option Decimal)
  | bool (value : Bool)
  | moment
  | array (items : List Node)
  | tables (items : List (List (String × Node)))
  | table (origin : Origin) (entries : List (String × Node))

/-- The entries of a table in the order they are defined. -/
abbrev Table := List (String × Node)

/-- A key with dots: the tables on the way, and the name in the last of them. -/
structure Key where
  path : List String
  name : String
deriving DecidableEq, Repr

namespace Table

/-- The value of a key. -/
def get? (table : Table) (key : String) : Option Node :=
  List.lookup key table

/-- Give a key a value, in its place or at the end. -/
def put (key : String) (node : Node) : Table → Table
  | [] => [(key, node)]
  | (other, old) :: rest =>
      if other = key then (key, node) :: rest else (other, old) :: put key node rest

/-- Take a key out. -/
def erase (table : Table) (key : String) : Table :=
  table.filter fun (other, _) => other ≠ key

/-- Change the table at the end of a path. Missing tables on the way are made with
origin `created`; an array of tables leads to its last one. `change` is told how
the table it gets came to be, which for the empty path is `own`. -/
def update (created : Origin) (change : Origin → Table → Option Table) (own : Origin) :
    List String → Table → Option Table
  | [], table => change own table
  | key :: path, table =>
      match table.get? key with
      | none =>
          (update created change created path []).map fun inner =>
            table.put key (.table created inner)
      | some (.table origin inner) =>
          if origin = .inline ∨ (created = .dotted ∧ origin = .header) then none
          else
            (update created change origin path inner).map fun inner =>
              table.put key (.table origin inner)
      | some (.tables items) =>
          items.getLast?.bind fun inner =>
            (update created change .header path inner).map fun inner =>
              table.put key (.tables (items.dropLast ++ [inner]))
      | some _ => none

/-- Give a dotted key of a section its value. -/
def assign (key : Key) (value : Node) (table : Table) : Option Table :=
  table.update .dotted
    (fun origin inner =>
      if key.path ≠ [] ∧ origin ≠ .dotted then none
      else if (inner.get? key.name).isSome then none
      else some (inner ++ [(key.name, value)]))
    .header key.path

/-- Start the section of a `[header]`. -/
def addSection (key : Key) (table : Table) : Option Table :=
  table.update .wayside
    (fun _ inner =>
      match inner.get? key.name with
      | none => some (inner ++ [(key.name, .table .header [])])
      | some (.table .wayside entries) =>
          some (inner.erase key.name ++ [(key.name, .table .header entries)])
      | some _ => none)
    .header key.path

/-- Start a new element of the array of tables of a `[[header]]`. -/
def addElement (key : Key) (table : Table) : Option Table :=
  table.update .wayside
    (fun _ inner =>
      match inner.get? key.name with
      | none => some (inner ++ [(key.name, .tables [[]])])
      | some (.tables items) => some (inner.put key.name (.tables (items ++ [[]])))
      | some _ => none)
    .header key.path

/-- The inline table with these entries. -/
def inline? (entries : List (Key × Node)) : Option Node :=
  (entries.foldlM (fun table (key, value) => assign key value table) []).map (.table .inline)

end Table

end Recordsmith.Toml
