/-
# Recordsmith.Proofs.Dart.Value — what generated code computes with

The objects a generated class meets: `null`, the builtins, dates, lists, the
iterables that `map` gives, maps with their entries in order, map entries,
instances of generated classes, and any other object. `Value.fits` says that an
object passes the run-time check for a type, `Value.isOf` the same for a type
written in the code, `Value.isInstance` for the class behind `is`. A `dynamic`
accepts everything, `null` too; for all other types `null` passes only where the
type is nullable.

What the code takes from the language's own library stays open: a `Runtime` is
any choice of `==`, of `identical`, of hash codes and of a text form for dates.
-/
import Mathlib.Data.Multiset.Basic
import Recordsmith.Proofs.TypeExpr.Canonical

namespace Recordsmith.Dart

set_option autoImplicit false

/-- An object. The fields of an instance stand in the order of its constructor. -/
inductive Value (Date : Type) where
  | null
  | bool (truth : Bool)
  | int (number : Int)
  | double (bits : UInt64)
  | str (text : String)
  | date (moment : Date)
  | list (items : List (Value Date))
  | iterable (items : List (Value Date))
  | map (entries : List (String × Value Date))
  | entry (key : String) (value : Value Date)
  | object (type : String) (fields : List (String × Value Date))
  | other (identity : Nat)

/-- Why an evaluation has no result. -/
inductive Failure where
  /-- A member of `null`, or `!` on it. -/
  | nullCheck
  /-- An object of the wrong type. -/
  | typeCheck
  /-- A name that stands for nothing, or for nothing that can be used like this. -/
  | unbound (name : String)
  /-- The text of no date. -/
  | notADate (text : String)
  /-- Calls into other classes nested deeper than was looked at. -/
  | tooDeep
deriving DecidableEq, Repr

/-- A value, unless the evaluation fails. -/
abbrev Outcome (Date : Type) := Except Failure (Value Date)

/-- The part of the language's library that generated code calls. -/
structure Runtime (Date : Type) where
  /-- `==` on objects other than `null`. -/
  same : Value Date → Value Date → Bool
  /-- `identical` on objects other than `null`. -/
  identical : Value Date → Value Date → Bool
  hashCode : Value Date → Int
  /-- `Object.hash`, from the hash codes of its arguments. -/
  hash : List Int → Int
  /-- `Object.hashAll`, from the hash codes of the elements. -/
  hashAll : List Int → Int
  /-- `Object.hashAllUnordered`, from the hash codes of the elements. -/
  hashAllUnordered : Multiset Int → Int
  /-- `toIso8601String` -/
  iso : Date → String
  /-- `DateTime.parse` -/
  parseDate : String → Option Date

namespace Value

variable {Date : Type}

/-- Whether this is `null`. -/
def isNull : Value Date → Bool
  | .null => true
  | _ => false

@[simp] theorem isNull_eq_true {value : Value Date} : value.isNull = true ↔ value = .null := by
  cases value <;> simp [isNull]

@[simp] theorem isNull_eq_false {value : Value Date} : value.isNull = false ↔ value ≠ .null := by
  cases value <;> simp [isNull]

/-- The objects of a builtin type. -/
def ofBuiltin : Builtin → Value Date → Bool
  | .string, .str _ => true
  | .int, .int _ => true
  | .double, .double _ => true
  | .num, .int _ => true
  | .num, .double _ => true
  | .bool, .bool _ => true
  | .dateTime, .date _ => true
  | .dynamic, _ => true
  | .object, value => !value.isNull
  | _, _ => false

/-- The instances of a class. -/
def ofClass (type : String) : Value Date → Bool
  | .object actual _ => actual == type
  | _ => false

/-- The run-time check for a type. -/
def fits : TypeExpr → Value Date → Bool
  | .scalar name nullable, value =>
      (nullable && value.isNull) ||
        match Builtin.ofName? name with
        | some builtin => value.ofBuiltin builtin
        | none => value.ofClass name
  | .list element nullable, value =>
      (nullable && value.isNull) ||
        match value with
        | .list items => items.all (fits element)
        | _ => false
  | .map key inner nullable, value =>
      (nullable && value.isNull) ||
        match value with
        | .map entries => entries.all fun entry => fits key (.str entry.1) && fits inner entry.2
        | _ => false
  | .generic _ _ nullable, value => nullable && value.isNull

/-- The type that a text in the code stands for; a bare `List` holds anything. -/
def typeOf? (text : String) : Option TypeExpr :=
  match TypeExpr.parse text with
  | .ok type => some type
  | .error _ =>
      if text = Container.list.name then some (.list (.scalar Builtin.dynamic.name false) false)
      else none

/-- The run-time check for a type written in the code. -/
def isOf (text : String) (value : Value Date) : Bool :=
  match typeOf? text with
  | some type => value.fits type
  | none => false

/-- The test behind `is`: a class hides whatever else its name may stand for. -/
def isInstance (type : String) (value : Value Date) : Bool :=
  value.ofClass type || value.isOf type

theorem isInstance_object (type : String) (fields : List (String × Value Date)) :
    (Value.object type fields).isInstance type = true := by
  simp [isInstance, ofClass]

theorem isOf_render {type : TypeExpr} (formed : type.WellFormed) (value : Value Date) :
    value.isOf type.render = value.fits type := by
  rw [isOf, typeOf?, TypeExpr.parse_render formed]

end Value

namespace Runtime

variable {Date : Type}

/-- `==`: only `null` equals `null`. -/
def equal (rt : Runtime Date) : Value Date → Value Date → Bool
  | .null, right => right.isNull
  | left, .null => left.isNull
  | left, right => rt.same left right

/-- `identical`, with `null` identical to itself. -/
def isIdentical (rt : Runtime Date) : Value Date → Value Date → Bool
  | .null, right => right.isNull
  | left, .null => left.isNull
  | left, right => rt.identical left right

end Runtime

end Recordsmith.Dart
