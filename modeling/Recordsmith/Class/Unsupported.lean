/-
# Recordsmith.Class.Unsupported — types without code

Code can be generated for scalars, lists and maps with `String` keys, at any
depth. Other containers, and maps whose key is anything but the plain, not
nullable `String`, are refused. `Field.validate` follows the elements of lists
and the values of maps from the root and refuses the first type on this way that
is refused; the two checks it makes are also made, one by one, by the functions
that write the members of a field.
-/
import Recordsmith.Record.Basic
import Recordsmith.TypeExpr.Printer

namespace Recordsmith

set_option autoImplicit false

/-- Why no code can be generated for a type. -/
inductive TypeFault where
  | unknownContainer (container : String)
  | nonStringKey (key : String)
deriving DecidableEq, Repr

/-- A field whose type has a fault. -/
structure Unsupported where
  fault : TypeFault
  record : String
  field : String
deriving DecidableEq, Repr

/-- The sentence shown for an unsupported field. -/
def Unsupported.message (unsupported : Unsupported) : String :=
  let place := unsupported.record ++ "." ++ unsupported.field
  match unsupported.fault with
  | .unknownContainer container =>
      "unknown container " ++ container ++ " in " ++ place ++ "; only List and Map are supported"
  | .nonStringKey key => "maps need plain String keys, got " ++ key ++ " in " ++ place

/-- The plain type `String`, the only one for the keys of a map. -/
def TypeExpr.isKey (type : TypeExpr) : Bool :=
  type.builtin? = some .string && !type.nullable

namespace Field

/-- Refuse the keys of a map, unless they are plain strings. -/
def checkKey (record : Record) (field : Field) (key : TypeExpr) : Except Unsupported Unit :=
  if key.isKey then .ok () else .error ⟨.nonStringKey key.render, record.name, field.name⟩

/-- What is said of a container that is neither a list nor a map. -/
def unknownContainer (record : Record) (field : Field) (container : String) : Unsupported :=
  ⟨.unknownContainer container, record.name, field.name⟩

/-- Refuse a type that no member can be generated for. -/
def validate (record : Record) (field : Field) : TypeExpr → Except Unsupported Unit
  | .scalar _ _ => .ok ()
  | .list element _ => validate record field element
  | .map key value _ => do
      field.checkKey record key
      validate record field value
  | .generic name _ _ => .error (field.unknownContainer record name)

end Field

end Recordsmith
