/-
# Recordsmith.Proofs.Class.Synthesis — code is written where validation passes

The five expressions of a field and the members of a class are written by functions
that may refuse: each validates the type first, some check it again while they take
it apart, and the options decide which of them run. Here they are compared with
total ones, that write the same without a check.

* `fault?` is the fault that validation finds (`Field.validate_eq`); `unsupported?`
  is that of a field, and of the first field of a record that has one;
* a type without fault passes every later check: `decode_eq_ok`, `encode_eq_ok`;
* so each of the five gives its total expression, or the fault of the field
  (`Member.fromMap_eq` and its like), and a pass over the fields ends at the first
  field with a fault (`mapM_eq`, `foldlM_eq`);
* all passes end at the same field, so it does not matter which of them run:
  `Class.assemble_eq` holds for all options.

Proofs about classes start from `assemble_eq` and the total expressions.
-/
import Recordsmith.Class.Basic

namespace Recordsmith

open Recordsmith.Dart

set_option autoImplicit false

/-! ## Faults -/

/-- The outermost fault of a type. -/
def TypeExpr.fault? : TypeExpr → Option TypeFault
  | .scalar _ _ => none
  | .list element _ => fault? element
  | .map key value _ => if key.isKey then fault? value else some (.nonStringKey key.render)
  | .generic name _ _ => some (.unknownContainer name)

/-- The fault of a field of a record. -/
def Field.unsupported? (record : Record) (field : Field) : Option Unsupported :=
  field.type.fault?.map fun fault => ⟨fault, record.name, field.name⟩

/-- The fault of the first field that has one. -/
def Record.unsupported? (record : Record) : Option Unsupported :=
  record.fields.findSome? (Field.unsupported? record)

/-! ## Results that depend on a refusal -/

theorem map_elim_ok {α β : Type} (f : α → β) (value : α) (refusal : Option Unsupported) :
    (refusal.elim (.ok value) .error : Except Unsupported α).map f =
      refusal.elim (.ok (f value)) .error := by
  cases refusal with
  | none => rfl
  | some unsupported => rfl

theorem bind_elim_ok {α β : Type} (refusal : Option Unsupported) (value : α)
    (next : α → Except Unsupported β) :
    (refusal.elim (.ok value) .error >>= next) = refusal.elim (next value) .error := by
  cases refusal with
  | none => rfl
  | some unsupported => rfl

theorem elim_error_elim {α : Type} (refusal : Option Unsupported) (result : Except Unsupported α) :
    refusal.elim (refusal.elim result .error) .error = refusal.elim result .error := by
  cases refusal with
  | none => rfl
  | some unsupported => rfl

section Passes

variable {α β : Type} {checked : Field → Except Unsupported α} {total : Field → α}
  {refusal : Field → Option Unsupported}
  (each : ∀ field, checked field = (refusal field).elim (.ok (total field)) .error)

include each

/-- A pass over fields that collects what each gives ends at the first that is refused. -/
theorem mapM_eq (fields : List Field) :
    fields.mapM checked = (fields.findSome? refusal).elim (.ok (fields.map total)) .error := by
  induction fields with
  | nil => rfl
  | cons field rest ih =>
    rw [List.mapM_cons, each, ih, List.findSome?_cons]
    cases refusal field with
    | some unsupported => rfl
    | none =>
      rw [Option.elim_none, List.map_cons]
      cases rest.findSome? refusal with
      | some unsupported => rfl
      | none => rfl

/-- So does one that combines them as it goes on. -/
theorem foldlM_eq (combine : β → α → β) (fields : List Field) (start : β) :
    fields.foldlM (fun result field => return combine result (← checked field)) start =
      (fields.findSome? refusal).elim
        (.ok (fields.foldl (fun result field => combine result (total field)) start)) .error := by
  induction fields generalizing start with
  | nil => rfl
  | cons field rest ih =>
    rw [List.foldlM_cons, each, List.findSome?_cons]
    cases refusal field with
    | some unsupported => rfl
    | none => exact ih _

end Passes

/-! ## Fields -/

theorem Field.validate_eq (record : Record) (field : Field) (type : TypeExpr) :
    field.validate record type =
      (type.fault?.map (⟨·, record.name, field.name⟩)).elim (.ok ()) .error := by
  fun_induction TypeExpr.fault? type with
  | case1 name nullable => rfl
  | case2 element nullable ih => exact ih
  | case3 key value nullable isKey ih =>
    rw [Field.validate, Field.checkKey, if_pos isKey]
    exact ih
  | case4 key value nullable notKey =>
    rw [Field.validate, Field.checkKey, if_neg notKey]
    rfl
  | case5 name args nullable => rfl

/-- A member that is written behind validation is refused for the fault of the field. -/
theorem Field.validate_bind {α : Type} {record : Record} {field : Field} {written : α}
    {writing : Except Unsupported α}
    (whole : field.type.fault? = none → writing = .ok written) :
    (field.validate record field.type >>= fun _ => writing) =
      (field.unsupported? record).elim (.ok written) .error := by
  rw [Field.validate_eq, Field.unsupported?]
  cases found : field.type.fault? with
  | none => exact whole found
  | some fault => rfl

namespace Member

open Recordsmith.Dart.Expr

/-- The value of a supported type, given the expression for its JSON form. -/
def decoded : TypeExpr → Expr → Nat → Expr
  | .scalar name nullable, value, _ =>
      match Builtin.ofName? name with
      | some .dateTime =>
          unlessNull nullable value ((Expr.ident "DateTime").method "parse" [value])
      | some _ => if nullable then value else .bang value
      | none => unlessNull nullable value ((Expr.ident name).method "fromMap" [value])
  | .list element nullable, value, depth =>
      unlessNull nullable value
        (if isPlain element then .listLit (some element.render) [.spread value]
         else
          let elt := paramName "elt" depth
          (Expr.call ((value.cast "List").dot "map") [element.render]
            [.lambda [elt] (decoded element (.ident elt) (depth + 1))]).method "toList" [])
  | .map key inner nullable, value, depth =>
      unlessNull nullable value
        (if isPlain inner then .mapLit (some (key.render, inner.render)) [.spread value]
         else
          let k := paramName "key" depth
          let v := paramName "val" depth
          .call ((value.cast "Map<String, dynamic>").dot "map") [key.render, inner.render]
            [entryLambda k v (decoded inner (.ident v) (depth + 1))])
  | .generic _ _ _, value, _ => value

/-- The JSON form of a value of a supported type. -/
def encoded : TypeExpr → Expr → Nat → Expr
  | .scalar name nullable, value, _ =>
      match Builtin.ofName? name with
      | some .dateTime => (Expr.member value "toIso8601String" nullable).invoke []
      | some _ => value
      | none => (Expr.member value "toMap" nullable).invoke []
  | .list element nullable, value, depth =>
      if needsConversion element then
        let elt := paramName "elt" depth
        ((Expr.member value "map" nullable).invoke
          [.lambda [elt] (encoded element (.ident elt) (depth + 1))]).method "toList" []
      else value
  | .map _ inner nullable, value, depth =>
      if needsConversion inner then
        let k := paramName "key" depth
        let v := paramName "val" depth
        (Expr.member value "map" nullable).invoke
          [entryLambda k v (encoded inner (.ident v) (depth + 1))]
      else value
  | .generic _ _ _, value, _ => value

/-- The argument of the constructor in `fromMap`. -/
def fromMapExpr (field : Field) : Expr :=
  decoded field.type (.index (.ident "raw") (.str field.name)) 0

/-- The value in the map of `toMap`. -/
def toMapExpr (field : Field) : Expr :=
  encoded field.type (.ident field.name) 0

/-- The term of the field in `operator ==`. -/
def equalityExpr (field : Field) : Expr :=
  let own := reference ["other"] field.name
  let other := (Expr.ident "other").dot field.name
  match field.type.container? with
  | some .list => (Expr.ident "listEquals").invoke [own, other]
  | some .map => (Expr.ident "mapEquals").invoke [own, other]
  | none => .binary .equals own other

/-- The term of the field in `hashCode`; a null container counts as 0. -/
def hashExpr (field : Field) : Expr :=
  let value := Expr.ident field.name
  match field.type.container? with
  | none => value
  | some container =>
      if field.type.nullable then
        .conditional value.isNull (.ident "0") (containerHash container (.bang value))
      else containerHash container value

/-- The argument of the constructor in `copy`. -/
def copyExpr (field : Field) : Expr :=
  let value := Expr.ident field.name
  let items := Expr.spread (if field.type.nullable then .bang value else value)
  match field.type with
  | .scalar name nullable =>
      if (Builtin.ofName? name).isSome then value
      else (Expr.member value "copy" nullable).invoke []
  | .list element nullable => unlessNull nullable value (.listLit (some element.render) [items])
  | .map key inner nullable =>
      unlessNull nullable value (.mapLit (some (key.render, inner.render)) [items])
  | .generic _ _ _ => value

theorem reference_nil (name : String) : reference [] name = .ident name :=
  if_neg List.not_mem_nil

theorem checkKey_eq_ok {record : Record} {field : Field} {key value : TypeExpr} {nullable : Bool}
    (whole : (TypeExpr.map key value nullable).fault? = none) :
    field.checkKey record key = .ok () ∧ value.fault? = none := by
  rw [TypeExpr.fault?] at whole
  split at whole
  · next isKey => exact ⟨if_pos isKey, whole⟩
  · cases whole

/-- A type without fault is read without a refusal. -/
theorem decode_eq_ok (record : Record) (field : Field) {type : TypeExpr}
    (whole : type.fault? = none) (value : Expr) (depth : Nat) :
    decode record field type value depth = .ok (decoded type value depth) := by
  fun_induction decoded type value depth with
  | case1 name nullable value depth isDate => simp [decode, isDate, pure, Except.pure]
  | case2 name value depth builtin other named =>
    simp [decode, named, pure, Except.pure]
  | case3 name nullable value depth builtin other named notNull =>
    simp [decode, named, notNull, pure, Except.pure]
  | case4 name nullable value depth custom => simp [decode, custom, pure, Except.pure]
  | case5 element nullable value depth ih =>
    rw [decode]
    split
    · rfl
    · dsimp only
      rw [ih whole]
      rfl
  | case6 key inner nullable value depth ih =>
    obtain ⟨checked, innerWhole⟩ := checkKey_eq_ok whole
    rw [decode, checked]
    split
    · rfl
    · dsimp only
      rw [ih innerWhole]
      rfl
  | case7 name args nullable value depth => cases whole

theorem needsConversion_scalar (name : String) (nullable : Bool) :
    needsConversion (.scalar name nullable) =
      (Builtin.ofName? name).all Builtin.needsConversion := by
  rw [needsConversion, isPlain, TypeExpr.builtin?]
  cases Builtin.ofName? name with
  | none => rfl
  | some builtin => exact Bool.not_not _

/-- A type without fault is written without a refusal. -/
theorem encode_eq_ok (record : Record) (field : Field) {type : TypeExpr}
    (whole : type.fault? = none) (value : Expr) (depth : Nat) :
    encode record field type value depth = .ok (encoded type value depth) := by
  fun_induction encoded type value depth with
  | case1 name nullable value depth isDate =>
    simp [encode, needsConversion_scalar, isDate, Builtin.needsConversion, pure, Except.pure]
  | case2 name nullable value depth builtin other named =>
    have kept : builtin.needsConversion = false := by
      rw [Builtin.needsConversion]
      exact other
    simp [encode, needsConversion_scalar, named, kept, pure, Except.pure]
  | case3 name nullable value depth custom =>
    simp [encode, needsConversion_scalar, custom, pure, Except.pure]
  | case4 element nullable value depth converts elt ih =>
    rw [encode, needsConversion, if_pos converts]
    dsimp only
    rw [ih whole]
    rfl
  | case5 element nullable value depth kept => rw [encode, needsConversion, if_neg kept]; rfl
  | case6 key inner nullable value depth converts k v ih =>
    obtain ⟨checked, innerWhole⟩ := checkKey_eq_ok whole
    rw [encode, needsConversion, if_pos converts, checked]
    dsimp only
    rw [ih innerWhole]
    rfl
  | case7 key inner nullable value depth kept => rw [encode, needsConversion, if_neg kept]; rfl
  | case8 name args nullable value depth => cases whole

section Outcomes

variable (record : Record) (field : Field)

theorem fromMap_eq :
    fromMap record field = (field.unsupported? record).elim (.ok (fromMapExpr field)) .error :=
  Field.validate_bind fun whole => decode_eq_ok record field whole _ 0

theorem toMap_eq :
    toMap record field = (field.unsupported? record).elim (.ok (toMapExpr field)) .error := by
  apply Field.validate_bind
  intro whole
  rw [reference_nil, encode_eq_ok record field whole, toMapExpr]

theorem equality_eq :
    equality record field = (field.unsupported? record).elim (.ok (equalityExpr field)) .error := by
  apply Field.validate_bind
  intro whole
  rw [equalityExpr]
  rcases field.type.container? with _ | container
  · rfl
  · cases container <;> rfl

theorem hash_eq :
    hash record field = (field.unsupported? record).elim (.ok (hashExpr field)) .error := by
  apply Field.validate_bind
  intro whole
  rw [hashExpr, reference_nil]
  cases field.type.container? with
  | none => rfl
  | some container =>
    dsimp only
    split <;> rfl

theorem copy_eq :
    copy record field = (field.unsupported? record).elim (.ok (copyExpr field)) .error := by
  apply Field.validate_bind
  intro whole
  rw [copyExpr, reference_nil]
  cases type : field.type with
  | scalar name nullable => dsimp only; split <;> rfl
  | list element nullable => rfl
  | map key inner nullable => rfl
  | generic name args nullable =>
    rw [type] at whole
    cases whole

end Outcomes

end Member

/-! ## Classes -/

namespace Class

/-- The factory that builds an object from a decoded map. -/
def fromMap (record : Record) : Expr :=
  fromMapWith record (record.fields.map Member.fromMapExpr)

/-- The method that gives the map to encode. -/
def toMap (record : Record) : Expr :=
  toMapWith (record.fields.map fun field => .entry (.str field.name) (Member.toMapExpr field))

/-- Comparison: the type first, then field by field. -/
def equality (record : Record) : Expr :=
  equalityWith (record.fields.foldl
    (fun term field => .binary .conjunction term (Member.equalityExpr field))
    (.binary .isType (.ident "other") (.ident record.name)))

/-- The hash of all fields in order. -/
def hashExpr (record : Record) : Expr :=
  match record.fields with
  | [field] =>
      if field.type.container?.isNone then (Member.hashExpr field).dot "hashCode"
      else Member.hashExpr field
  | fields => combinedHash (fields.map Member.hashExpr)

/-- The getter of the hash code. -/
def hashCode (record : Record) : Expr :=
  hashCodeWith (hashExpr record)

/-- The method that copies an object. -/
def copy (record : Record) : Expr :=
  copyWith record (record.fields.map Member.copyExpr)

/-- The members that every class has. -/
def coreMembers (record : Record) : List Expr :=
  declarations record ++
    [constructor record, fromMap record, fromJson record, toMap record]

/-- The members that make objects comparable values. -/
def valueSemantics (record : Record) : List Expr :=
  [equality record, hashCode record, copy record]

/-- All members of a class. -/
def members (options : ClassOptions) (record : Record) : List Expr :=
  coreMembers record ++
    (if options.accessors then accessors record else []) ++
    (if options.valueSemantics then valueSemantics record else [])

/-- The class of a record whose fields are supported. -/
def ofRecord (options : ClassOptions) (record : Record) : Expr :=
  .block ((Expr.classHead record.name none []).implementing "JsonBase") (members options record)

section Passes

variable (record : Record)

theorem mapM_fromMap :
    record.fields.mapM (Member.fromMap record) =
      record.unsupported?.elim (.ok (record.fields.map Member.fromMapExpr)) .error :=
  mapM_eq (Member.fromMap_eq record) record.fields

theorem mapM_copy :
    record.fields.mapM (Member.copy record) =
      record.unsupported?.elim (.ok (record.fields.map Member.copyExpr)) .error :=
  mapM_eq (Member.copy_eq record) record.fields

theorem mapM_toMap :
    (record.fields.mapM fun field =>
        return Expr.entry (.str field.name) (← Member.toMap record field)) =
      record.unsupported?.elim
        (.ok (record.fields.map fun field => .entry (.str field.name) (Member.toMapExpr field)))
        .error := by
  apply mapM_eq
  intro field
  rw [Member.toMap_eq]
  exact bind_elim_ok _ _ _

theorem comparison_eq :
    comparison record = record.unsupported?.elim
      (.ok (record.fields.foldl
        (fun term field => .binary .conjunction term (Member.equalityExpr field))
        (.binary .isType (.ident "other") (.ident record.name)))) .error :=
  foldlM_eq (Member.equality_eq record) (Expr.binary .conjunction) record.fields _

theorem fieldHash_eq :
    fieldHash record = record.unsupported?.elim (.ok (hashExpr record)) .error := by
  rw [fieldHash, hashExpr, Record.unsupported?]
  rcases record.fields with _ | ⟨first, _ | ⟨second, rest⟩⟩
  · rfl
  · dsimp only
    rw [Member.hash_eq, bind_elim_ok, List.findSome?_singleton]
    rfl
  · dsimp only
    rw [mapM_eq (Member.hash_eq record), bind_elim_ok]
    rfl

/-- The three passes for the values of a class are refused for the same field. -/
theorem valueMembers_eq :
    valueMembers record = record.unsupported?.elim (.ok (valueSemantics record)) .error := by
  rw [valueMembers, comparison_eq, mapM_copy, fieldHash_eq]
  simp only [bind_elim_ok, elim_error_elim]
  rfl

/-- **Refusal does not depend on the options.** The class of a record is its total one, or it
is refused for the first field with a fault, whatever the passes are that the options ask for. -/
theorem assemble_eq (options : ClassOptions) :
    assemble options record = record.unsupported?.elim (.ok (ofRecord options record)) .error := by
  rw [assemble, mapM_fromMap, mapM_toMap, valueMembers_eq, ofRecord, members]
  cases record.unsupported? with
  | some unsupported => rfl
  | none => cases options.valueSemantics <;> rfl

end Passes

end Class

end Recordsmith
