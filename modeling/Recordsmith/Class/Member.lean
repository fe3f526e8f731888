/-
# Recordsmith.Class.Member — one field in each member of its class

For every field there are five expressions:

* `fromMap` reads it out of the decoded map `raw`;
* `toMap` writes it for the encoder;
* `equality` compares it with the field of `other`;
* `hash` is what it adds to the hash code, in accord with `equality`;
* `copy` is what a copy of the object gets for it.

They follow the field's type. Builtins other than dates pass as they are; dates
and records are converted, within containers by a `map` whose parameters are
numbered by depth so that none hides another. Comparison, hash and copy look one
level into a container.

Each of the five first validates the type of the field. The three that take the
type apart check again what they meet on their way: `decode` and `encode` the
keys of maps and the names of other containers, `copy` the latter.
-/
import Recordsmith.Class.Unsupported
import Recordsmith.Dart.Expr

namespace Recordsmith.Member

open Recordsmith.Dart
open Recordsmith.Dart.Expr

set_option autoImplicit false

/-- A field as the body of a member sees it: with `this.` if a parameter of the
member has its name. -/
def reference (params : List String) (name : String) : Expr :=
  if name ∈ params then (Expr.ident "this").dot name else .ident name

/-- `value == null ? null : expr` for a nullable value, else `expr`. -/
def unlessNull (nullable : Bool) (value expr : Expr) : Expr :=
  if nullable then .conditional value.isNull Expr.null expr else expr

/-- The name of a lambda parameter at a depth: `elt`, `elt1`, `elt2` and so on. -/
def paramName (base : String) (depth : Nat) : String :=
  if depth = 0 then base else base ++ toString depth

/-- A builtin whose JSON form is its Dart value. -/
def isPlain (type : TypeExpr) : Bool :=
  match type.builtin? with
  | some builtin => !builtin.needsConversion
  | none => false

/-- Whether the JSON form of a value differs from the value. -/
def needsConversion : TypeExpr → Bool
  | .scalar name nullable => !isPlain (.scalar name nullable)
  | .list element _ => needsConversion element
  | .map _ value _ => needsConversion value
  | .generic _ _ _ => true

/-- The lambda that turns an entry of a map into a `MapEntry` with another value. -/
def entryLambda (key value : String) (body : Expr) : Expr :=
  .lambda [key, value] ((Expr.ident "MapEntry").invoke [.ident key, body])

/-- The value of a type, given the expression for its JSON form. -/
def decode (record : Record) (field : Field) :
    TypeExpr → Expr → Nat → Except Unsupported Expr
  | .scalar name nullable, value, _ =>
      match Builtin.ofName? name with
      | some .dateTime =>
          return unlessNull nullable value ((Expr.ident "DateTime").method "parse" [value])
      | some _ => return if nullable then value else .bang value
      | none => return unlessNull nullable value ((Expr.ident name).method "fromMap" [value])
  | .list element nullable, value, depth =>
      if isPlain element then
        return unlessNull nullable value (.listLit (some element.render) [.spread value])
      else do
        let elt := paramName "elt" depth
        let body ← decode record field element (.ident elt) (depth + 1)
        return unlessNull nullable value
          ((Expr.call ((value.cast "List").dot "map") [element.render]
            [.lambda [elt] body]).method "toList" [])
  | .map key inner nullable, value, depth => do
      field.checkKey record key
      if isPlain inner then
        return unlessNull nullable value
          (.mapLit (some (key.render, inner.render)) [.spread value])
      else
        let k := paramName "key" depth
        let v := paramName "val" depth
        let body ← decode record field inner (.ident v) (depth + 1)
        return unlessNull nullable value
          (.call ((value.cast "Map<String, dynamic>").dot "map") [key.render, inner.render]
            [entryLambda k v body])
  | .generic name _ _, _, _ => .error (field.unknownContainer record name)

/-- The JSON form of a value of a type. -/
def encode (record : Record) (field : Field) (type : TypeExpr) (value : Expr) (depth : Nat) :
    Except Unsupported Expr :=
  if needsConversion type then
    match type with
    | .scalar name nullable =>
        if (Builtin.ofName? name).isSome then
          return (Expr.member value "toIso8601String" nullable).invoke []
        else return (Expr.member value "toMap" nullable).invoke []
    | .list element nullable => do
        let elt := paramName "elt" depth
        let body ← encode record field element (.ident elt) (depth + 1)
        return ((Expr.member value "map" nullable).invoke [.lambda [elt] body]).method "toList" []
    | .map key inner nullable => do
        field.checkKey record key
        let k := paramName "key" depth
        let v := paramName "val" depth
        let body ← encode record field inner (.ident v) (depth + 1)
        return (Expr.member value "map" nullable).invoke [entryLambda k v body]
    | .generic name _ _ => .error (field.unknownContainer record name)
  else return value

/-- The hash of a container that is not null: of a list by the order of its elements,
of a map regardless of the order of its entries. -/
def containerHash (container : Container) (target : Expr) : Expr :=
  match container with
  | .list => (Expr.ident "Object").method "hashAll" [target]
  | .map =>
      let kv := Expr.ident "kv"
      (Expr.ident "Object").method "hashAllUnordered"
        [(target.dot "entries").method "map"
          [.lambda ["kv"] ((Expr.ident "Object").method "hash" [kv.dot "key", kv.dot "value"])]]

/-- The expression that reads a field out of `raw`: the argument of the constructor in
`fromMap`. -/
def fromMap (record : Record) (field : Field) : Except Unsupported Expr := do
  field.validate record field.type
  decode record field field.type (.index (.ident "raw") (.str field.name)) 0

/-- The expression that writes a field: the value in the map of `toMap`. -/
def toMap (record : Record) (field : Field) : Except Unsupported Expr := do
  field.validate record field.type
  encode record field field.type (reference [] field.name) 0

/-- The expression that compares a field: its term in `operator ==`. -/
def equality (record : Record) (field : Field) : Except Unsupported Expr := do
  field.validate record field.type
  let own := reference ["other"] field.name
  let other := (Expr.ident "other").dot field.name
  match field.type.container? with
  | some .list => return (Expr.ident "listEquals").invoke [own, other]
  | some .map => return (Expr.ident "mapEquals").invoke [own, other]
  | none => return .binary .equals own other

/-- The expression that a field adds to the hash code: its term in `hashCode`. A null
container counts as 0. -/
def hash (record : Record) (field : Field) : Except Unsupported Expr := do
  field.validate record field.type
  let value := reference [] field.name
  match field.type.container? with
  | none => return value
  | some container =>
      if field.type.nullable then
        return .conditional value.isNull (.ident "0") (containerHash container (.bang value))
      else return containerHash container value

/-- The expression that copies a field: the argument of the constructor in `copy`. -/
def copy (record : Record) (field : Field) : Except Unsupported Expr := do
  field.validate record field.type
  let value := reference [] field.name
  let items := Expr.spread (if field.type.nullable then .bang value else value)
  match field.type with
  | .scalar name nullable =>
      if (Builtin.ofName? name).isSome then return value
      else return (Expr.member value "copy" nullable).invoke []
  | .list element nullable =>
      return unlessNull nullable value (.listLit (some element.render) [items])
  | .map key inner nullable =>
      return unlessNull nullable value (.mapLit (some (key.render, inner.render)) [items])
  | .generic name _ _ => .error (field.unknownContainer record name)

end Recordsmith.Member
