/-
# Recordsmith.Schema.FieldEntry — fields as a document gives them

In a schema document a record is a list of field entries. An entry is a text
that declares the field, or a table with a `type` (also spelled `dart_type`) and
a `name`; other keys of the table are ignored, and neither of these may occur
twice.
-/
import Recordsmith.Record.Basic

namespace Recordsmith

set_option autoImplicit false

/-- A field as a document gives it. -/
inductive FieldEntry where
  | declared (text : String)
  | typed (type name : String)
deriving DecidableEq, Repr

/-- The records of a document in order, with their entries. -/
abbrev Outline := List (String × List FieldEntry)

namespace FieldEntry

/-- The entry that a table with these keys makes; a value that is no text is `none`. -/
def ofMembers? (members : List (String × Option String)) : Option FieldEntry :=
  match members.filter (fun (key, _) => key = "type" ∨ key = "dart_type"),
    members.filter (fun (key, _) => key = "name") with
  | [(_, some type)], [(_, some name)] => some (.typed type name)
  | _, _ => none

/-- The field at this place of a record. -/
def toField (record : String) (index : Nat) : FieldEntry → Except SchemaError Field
  | .declared text => Field.ofDeclaration record index text
  | .typed type name => Field.ofParts record name type

/-- The fields that entries make, the first of them at place `index`. -/
def toFields (record : String) : Nat → List FieldEntry → Except SchemaError (List Field)
  | _, [] => .ok []
  | index, entry :: rest =>
      match entry.toField record index with
      | .error cause => .error cause
      | .ok field =>
          match toFields record (index + 1) rest with
          | .error cause => .error cause
          | .ok fields => .ok (field :: fields)

end FieldEntry

end Recordsmith
