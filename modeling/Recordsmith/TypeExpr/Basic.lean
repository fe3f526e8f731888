/-
# Recordsmith.TypeExpr.Basic — field types

A field's type is a scalar, a list, a map with key and value types, or some
other name applied to arguments. Each position carries its own null mark. The
scalars are the eight *builtins* and the names of records; a record is
*referenced* wherever its name stands as a scalar, map keys and arguments of
unknown containers included.

* `references` lists the referenced records in the order they are read;
* `isExtension` says that there is one.
-/
import Recordsmith.Distinct

namespace Recordsmith

set_option autoImplicit false

/-- The scalar types that every schema knows. -/
inductive Builtin where
  | string
  | int
  | double
  | num
  | bool
  | dateTime
  | dynamic
  | object
deriving DecidableEq, Repr

namespace Builtin

/-- The spelling of a builtin in a schema and in Dart. -/
def name : Builtin → String
  | .string => "String"
  | .int => "int"
  | .double => "double"
  | .num => "num"
  | .bool => "bool"
  | .dateTime => "DateTime"
  | .dynamic => "dynamic"
  | .object => "Object"

/-- Every builtin, in the order of its declaration. -/
def all : List Builtin :=
  [.string, .int, .double, .num, .bool, .dateTime, .dynamic, .object]

/-- The builtin with this spelling. -/
def ofName? (name : String) : Option Builtin :=
  all.find? (·.name == name)

/-- Only dates have a JSON form other than themselves. -/
def needsConversion : Builtin → Bool
  | .dateTime => true
  | _ => false

end Builtin

/-- The type of a field; every position says whether it may be null. -/
inductive TypeExpr where
  | scalar (name : String) (nullable : Bool)
  | list (element : TypeExpr) (nullable : Bool)
  | map (key value : TypeExpr) (nullable : Bool)
  | generic (name : String) (args : List TypeExpr) (nullable : Bool)
deriving Repr

/-- The containers that generated code can read and write. -/
inductive Container where
  | list
  | map
deriving DecidableEq, Repr

/-- The spelling of a container. -/
def Container.name : Container → String
  | .list => "List"
  | .map => "Map"

namespace TypeExpr

/-- The identifier at the root. -/
def name : TypeExpr → String
  | .scalar name _ => name
  | .list _ _ => Container.list.name
  | .map _ _ _ => Container.map.name
  | .generic name _ _ => name

/-- Whether the whole value may be null. -/
def nullable : TypeExpr → Bool
  | .scalar _ nullable => nullable
  | .list _ nullable => nullable
  | .map _ _ nullable => nullable
  | .generic _ _ nullable => nullable

/-- The type arguments, in the order they are written. -/
def args : TypeExpr → List TypeExpr
  | .scalar _ _ => []
  | .list element _ => [element]
  | .map key value _ => [key, value]
  | .generic _ args _ => args

/-- The container at the root, if generated code can handle it. -/
def container? : TypeExpr → Option Container
  | .list _ _ => some .list
  | .map _ _ _ => some .map
  | _ => none

/-- The builtin that the root names. -/
def builtin? : TypeExpr → Option Builtin
  | .scalar name _ => Builtin.ofName? name
  | _ => none

mutual

/-- The scalar names that are no builtins, in reading order, with repetitions. -/
def recordNames : TypeExpr → List String
  | .scalar name _ => if (Builtin.ofName? name).isNone then [name] else []
  | .list element _ => recordNames element
  | .map key value _ => recordNames key ++ recordNames value
  | .generic _ args _ => recordNamesOfAll args

def recordNamesOfAll : List TypeExpr → List String
  | [] => []
  | arg :: rest => recordNames arg ++ recordNamesOfAll rest

end

/-- The referenced records, first occurrence first. -/
def references (type : TypeExpr) : List String :=
  distinct type.recordNames

mutual

/-- Whether a record is named anywhere in the type. -/
def isExtension : TypeExpr → Bool
  | .scalar name _ => (Builtin.ofName? name).isNone
  | .list element _ => isExtension element
  | .map key value _ => isExtension key || isExtension value
  | .generic _ args _ => anyExtension args

def anyExtension : List TypeExpr → Bool
  | [] => false
  | arg :: rest => isExtension arg || anyExtension rest

end

end TypeExpr

end Recordsmith
