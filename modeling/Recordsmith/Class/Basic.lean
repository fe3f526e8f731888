/-
# Recordsmith.Class.Basic — the class of a record

The members of a class have a fixed order: the fields, the constructor,
`fromMap`, `fromJson` and `toMap`; then, if wanted, the accessors `fields`,
`getAttr` and `setAttr`; then, if wanted, `operator ==`, `hashCode` and `copy`.

`assemble` goes over the fields once for every member that asks something of
them: first for `fromMap`, then for `toMap`, then, if the group is wanted, for
`operator ==`, for `copy` and for `hashCode`. The first field that is refused on
this way ends it.
-/
import Recordsmith.Class.Member
import Recordsmith.Dart.Render

namespace Recordsmith

open Recordsmith.Dart

set_option autoImplicit false

/-- The groups of members that may be left out. -/
structure ClassOptions where
  accessors : Bool := true
  valueSemantics : Bool := true
deriving DecidableEq, Repr

namespace Class

/-- The Dart type of decoded JSON objects. -/
def mapType : String := "Map<String, dynamic>"

/-- The signature of a method. -/
def method (result : Option String) (name : String) (params : List Expr) : Expr :=
  .signature [] result name params

/-- A parameter, or a field without initial value. -/
def typed (type name : String) : Expr :=
  .declaration [] type name

/-- The field declarations. -/
def declarations (record : Record) : List Expr :=
  record.fields.map fun field => typed field.type.render field.name

/-- The constructor, with one positional parameter for each field. -/
def constructor (record : Record) : Expr :=
  method none record.name (record.fields.map fun field => (Expr.ident "this").dot field.name)

/-- The factory that builds an object from a decoded map, by these arguments of the
constructor. -/
def fromMapWith (record : Record) (args : List Expr) : Expr :=
  .arrow
    ((method none (record.name ++ ".fromMap") [typed mapType "raw"]).modifier "factory")
    ((Expr.ident record.name).invoke args)

/-- The factory that builds an object from JSON text. -/
def fromJson (record : Record) : Expr :=
  .arrow
    ((method none (record.name ++ ".fromJson") [typed "String" "json"]).modifier "factory")
    ((Expr.ident record.name).method "fromMap"
      [(Expr.ident "jsonDecode").invoke [.ident "json"]])

/-- The method that gives the map to encode, with these entries. -/
def toMapWith (entries : List Expr) : Expr :=
  Expr.overriding (.arrow (method (some mapType) "toMap" []) (.mapLit none entries))

/-- What an accessor does with a name that is no field. -/
def unknownField : Expr :=
  .raise
    ((Expr.ident "ArgumentError").method "value"
      [.ident "name", .str "name", .str "unknown field"])

/-- The parameters of the accessors, which hide fields of these names. -/
def accessorParams : List String := ["name", "value"]

/-- The list of the field names. -/
def fieldNames (record : Record) : Expr :=
  (((typed "List<String>" "fields").modifier "static").modifier "const").initialise
    (.listLit none (record.fields.map fun field => .str field.name))

/-- The method that reads a field by its name. -/
def getAttr (record : Record) : Expr :=
  let arms := record.fields.map fun field =>
    Expr.caseArm (.str field.name) [.ret (Member.reference accessorParams field.name)] false
  .block (method (some "dynamic") "getAttr" [typed "String" "name"])
    [.switch (.ident "name") (arms ++ [.defaultArm [unknownField] false])]

/-- The method that sets a field by its name. -/
def setAttr (record : Record) : Expr :=
  let arms := record.fields.map fun field =>
    Expr.caseArm (.str field.name)
      [.binary .assignment (Member.reference accessorParams field.name) (.ident "value")] true
  .block (method (some "void") "setAttr" [typed "String" "name", typed "dynamic" "value"])
    [.switch (.ident "name") (arms ++ [.defaultArm [unknownField] false])]

/-- The operator that compares an object with `other`. -/
def equalityWith (comparison : Expr) : Expr :=
  Expr.overriding
    (.arrow (method (some "bool") "operator ==" [typed "Object" "other"]) comparison)

/-- Comparison: the type first, then field by field. -/
def comparison (record : Record) : Except Unsupported Expr :=
  record.fields.foldlM
    (fun term field => return .binary .conjunction term (← Member.equality record field))
    (.binary .isType (.ident "other") (.ident record.name))

/-- The number of arguments that `Object.hash` takes. -/
def maxHashArgs : Nat := 20

/-- The hash of several values in order. -/
def combinedHash (terms : List Expr) : Expr :=
  if terms.length ≤ maxHashArgs then (Expr.ident "Object").method "hash" terms
  else (Expr.ident "Object").method "hashAll" [.listLit none terms]

/-- The hash of all fields in order. One field alone is hashed without combination. -/
def fieldHash (record : Record) : Except Unsupported Expr :=
  match record.fields with
  | [field] => do
      let term ← Member.hash record field
      return if field.type.container?.isNone then term.dot "hashCode" else term
  | fields => return combinedHash (← fields.mapM (Member.hash record))

/-- The getter of the hash code. -/
def hashCodeWith (hash : Expr) : Expr :=
  Expr.overriding (.arrow (.getter [] (some "int") "hashCode") hash)

/-- The method that copies an object, by these arguments of the constructor. -/
def copyWith (record : Record) (args : List Expr) : Expr :=
  .arrow (method (some record.name) "copy" []) ((Expr.ident record.name).invoke args)

/-- The members that read and set fields by name. -/
def accessors (record : Record) : List Expr :=
  [fieldNames record, getAttr record, setAttr record]

/-- The members that make objects comparable values. -/
def valueMembers (record : Record) : Except Unsupported (List Expr) := do
  let compared ← comparison record
  let copied ← record.fields.mapM (Member.copy record)
  let hashed ← fieldHash record
  return [equalityWith compared, hashCodeWith hashed, copyWith record copied]

/-- The class of a record, or what is said of the first field that is refused. -/
def assemble (options : ClassOptions) (record : Record) : Except Unsupported Expr := do
  let read ← record.fields.mapM (Member.fromMap record)
  let written ← record.fields.mapM fun field =>
    return .entry (.str field.name) (← Member.toMap record field)
  let values ← if options.valueSemantics then valueMembers record else pure []
  return .block ((Expr.classHead record.name none []).implementing "JsonBase")
    (declarations record ++
      [constructor record, fromMapWith record read, fromJson record, toMapWith written] ++
      (if options.accessors then accessors record else []) ++ values)

/-- The lines of the class of a record. -/
def lines (options : ClassOptions) (indent : Indent) (record : Record) :
    Except Unsupported (List String) :=
  (assemble options record).map (Expr.lines indent)

end Class

end Recordsmith
