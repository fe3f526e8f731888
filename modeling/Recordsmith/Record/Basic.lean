/-
# Recordsmith.Record.Basic — fields and records

A record has a name and at least one field, and no two fields of one name; all
names are identifiers. These are parts of the types `Field` and `Record`, so
whatever holds a record need not check them again. `Field.ofParts`,
`Field.ofDeclaration` and `Record.ofFields` are the ways to build them and say
which fault is reported first.
-/
import Recordsmith.Record.Declaration
import Recordsmith.Schema.Error
import Recordsmith.TypeExpr.Parser

namespace Recordsmith

open Recordsmith.Text

set_option autoImplicit false

/-- A named value of a record. -/
structure Field where
  name : String
  type : TypeExpr
  name_valid : isIdentifier name.toList = true

namespace Field

/-- The field with this name and type text. The name is checked first. -/
def ofParts (record name type : String) : Except SchemaError Field :=
  if valid : isIdentifier name.toList then
    match TypeExpr.parse type with
    | .error cause => .error (.invalidType record name cause)
    | .ok type => .ok ⟨name, type, valid⟩
  else .error (.invalidName record name)

/-- The field that a text of the form `<type> <name>` declares. -/
def ofDeclaration (record : String) (index : Nat) (text : String) : Except SchemaError Field :=
  match Declaration.split? text.toList with
  | none => .error (.invalidField record index text)
  | some (type, name) => ofParts record (String.ofList name) (String.ofList type)

end Field

/-- A named, nonempty list of fields with distinct names. -/
structure Record where
  name : String
  fields : List Field
  name_valid : isIdentifier name.toList = true
  fields_ne_nil : fields ≠ []
  names_nodup : (fields.map Field.name).Nodup

namespace Record

/-- The record with this name and these fields. The name is checked first, then
that there is a field, then that no name repeats. -/
def ofFields (name : String) (fields : List Field) : Except SchemaError Record :=
  if valid : isIdentifier name.toList then
    if nonempty : fields ≠ [] then
      match unrepeated : firstRepeat? (fields.map Field.name) with
      | some field => .error (.duplicateField name field)
      | none => .ok ⟨name, fields, valid, nonempty, firstRepeat?_eq_none.1 unrepeated⟩
    else .error (.emptyRecord name)
  else .error (.invalidName name name)

/-- The field with this name. -/
def field? (record : Record) (name : String) : Option Field :=
  record.fields.find? (·.name == name)

/-- The records that the fields refer to, first occurrence first. -/
def references (record : Record) : List String :=
  distinct (record.fields.flatMap fun field => field.type.references)

end Record

end Recordsmith
