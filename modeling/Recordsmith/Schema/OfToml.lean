/-
# Recordsmith.Schema.OfToml — outlines in TOML

The document is a table of records. A record is a table with a key `fields`, or
an array that starts with the field list. Field entries may be the tables of an
array of tables. Numbers are interpreted wherever a value is looked at: under
the other keys of a record an integer may have up to 128 bits, within a field
entry up to 64, its digits must make a number, and no float may be beyond the
doubles. What stands behind the field list in an array is not looked at.
-/
import Recordsmith.Schema.FieldEntry
import Recordsmith.Toml.Reader

namespace Recordsmith.Outline

open Recordsmith.Toml

set_option autoImplicit false

/-- Integers with or without a sign that fit into this many bits. -/
def fitsBits (bits : Nat) (value : Int) : Bool :=
  -(Nat.pow 2 (bits - 1) : Int) ≤ value && value < (Nat.pow 2 bits : Int)

mutual

/-- Whether all numbers in a value are in range. -/
def tomlReadable (bits : Nat) : Node → Bool
  | .text _ => true
  | .integer none => false
  | .integer (some value) => fitsBits bits value
  | .float none => true
  | .float (some value) => value.fitsDouble
  | .bool _ => true
  | .moment => true
  | .array items => tomlAllReadable bits items
  | .tables items => tomlTablesReadable bits items
  | .table _ entries => tomlEntriesReadable bits entries

def tomlAllReadable (bits : Nat) : List Node → Bool
  | [] => true
  | item :: rest => tomlReadable bits item && tomlAllReadable bits rest

def tomlEntriesReadable (bits : Nat) : List (String × Node) → Bool
  | [] => true
  | (_, value) :: rest => tomlReadable bits value && tomlEntriesReadable bits rest

def tomlTablesReadable (bits : Nat) : List (List (String × Node)) → Bool
  | [] => true
  | table :: rest => tomlEntriesReadable bits table && tomlTablesReadable bits rest

end

/-- The text of a value that is a string. -/
def tomlText? : Node → Option String
  | .text value => some value
  | _ => none

/-- A field entry that is a table. -/
def tomlTable? (table : Table) : Option FieldEntry :=
  if tomlEntriesReadable 64 table then
    FieldEntry.ofMembers? (table.map fun (key, value) => (key, tomlText? value))
  else none

/-- A field entry. -/
def tomlEntry? : Node → Option FieldEntry
  | .text value => some (.declared value)
  | .table _ entries => tomlTable? entries
  | _ => none

/-- A field list. -/
def tomlFields? : Node → Option (List FieldEntry)
  | .array items => items.mapM tomlEntry?
  | .tables items => items.mapM tomlTable?
  | _ => none

/-- A record. -/
def tomlRecord? : Node → Option (List FieldEntry)
  | .array (fields :: _) => tomlFields? fields
  | .table _ entries =>
      if entries.all fun (key, value) => key = "fields" ∨ tomlReadable 128 value then
        (Table.get? entries "fields").bind tomlFields?
      else none
  | _ => none

/-- The outline that a document gives. -/
def ofToml? (document : Table) : Option Outline :=
  document.mapM fun (name, value) => (tomlRecord? value).map fun entries => (name, entries)

end Recordsmith.Outline
