/-
# Recordsmith.Proofs.Class.JsonForm — what is written for a value, and read back

`JsonForm` relates a value of a type to its JSON form: dates become texts, records
become maps, containers are followed down, and all other values stay as they are.
That a record goes out and comes back is asked of the callees; everything else
does not depend on other classes.

* `eval_encoded`: the writing expression turns the value into the form;
* `eval_decoded`: the reading expression turns the form back into the value.

The two expressions do not mirror each other. Writing passes a container through
as soon as nothing in it needs conversion and skips a null by `?.`; reading copies
each container into one of the declared type and guards a null by a conditional.
Both theorems are inductions on the relation, so neither looks at the other.
-/
import Recordsmith.Proofs.Class.Synthesis
import Recordsmith.Proofs.Dart.Steps

namespace Recordsmith.Dart

open Recordsmith.Member

set_option autoImplicit false

variable {Date : Type} {rt : Runtime Date} {calls : Callees Date} {scope : Scope Date}

/-! ## Names in scope -/

/-- Names of classes start like this, names of lambda parameters do not. -/
def startsUpper (name : String) : Bool :=
  name.toList.head?.any Char.isUpper

theorem head_paramName {base : String} (nonempty : base.toList ≠ []) (depth : Nat) :
    (paramName base depth).toList.head? = base.toList.head? := by
  rw [paramName]
  split
  · rfl
  · rw [String.toList_append, List.head?_append]
    cases chars : base.toList with
    | nil => exact absurd chars nonempty
    | cons c rest => rfl

theorem startsUpper_paramName {base : String} (nonempty : base.toList ≠ []) (depth : Nat) :
    startsUpper (paramName base depth) = startsUpper base := by
  rw [startsUpper, head_paramName nonempty, startsUpper]

theorem paramName_ne {base name : String} (nonempty : base.toList ≠ [])
    (differ : base.toList.head? ≠ name.toList.head?) (depth : Nat) :
    paramName base depth ≠ name := by
  intro same
  apply differ
  rw [← head_paramName nonempty depth, same]

theorem lookup?_enter_of_startsUpper {params : List String} {args : List (Value Date)}
    {name : String} (lower : ∀ param ∈ params, startsUpper param = false)
    (upper : startsUpper name = true) :
    (scope.enter params args).lookup? name = scope.lookup? name := by
  have unbound : (params.zip args).lookup name = none := by
    rw [List.lookup_eq_none_iff]
    intro binding member
    rw [bne_iff_ne]
    rintro rfl
    have bound := lower binding.1 (List.of_mem_zip member).1
    rw [upper] at bound
    cases bound
  simp only [Scope.lookup?, Scope.enter, List.lookup_append, unbound, Option.none_or]

theorem class?_of_lookup? {type : String} (function : String)
    (free : scope.lookup? type = none) : scope.class? (.ident type) function = some type := by
  simp [Scope.class?, free]

/-- The functions of two arguments that classes are written with. -/
def helperNames : List String := ["listEquals", "mapEquals", "MapEntry"]

/-- A call that cannot mean a helper means a constructor, unless something hides its name. -/
theorem callFunction_eq {type : String} {args : List (Value Date)}
    (noHelper : args.length = 2 → type ∉ helperNames) :
    callFunction rt calls scope type args =
      if scope.lookup? type = none then calls.construct type args else .error (.unbound type) := by
  unfold callFunction
  split
  · exact absurd (by decide) (noHelper rfl)
  · exact absurd (by decide) (noHelper rfl)
  · congr 1
    split
    · exact absurd (by decide) (noHelper rfl)
    · rfl

theorem callFunction_of_free {type : String} (args : List (Value Date))
    (free : scope.lookup? type = none) (noHelper : args.length = 2 → type ∉ helperNames) :
    callFunction rt calls scope type args = calls.construct type args := by
  rw [callFunction_eq noHelper, if_pos free]

theorem callFunction_construct {type : String} {args : List (Value Date)}
    (free : scope.lookup? type = none) (upper : startsUpper type = true)
    (notEntry : type ≠ "MapEntry") :
    callFunction rt calls scope type args = calls.construct type args := by
  have notListEquals : type ≠ "listEquals" := by
    rintro rfl
    exact absurd upper (by decide)
  have notMapEquals : type ≠ "mapEquals" := by
    rintro rfl
    exact absurd upper (by decide)
  exact callFunction_of_free args free fun _ => by
    simp [helperNames, notListEquals, notMapEquals, notEntry]

theorem reads_elt (depth : Nat) (item : Value Date) :
    Reads rt calls (scope.enter [paramName "elt" depth] [item]) (.ident (paramName "elt" depth))
      item := by
  apply Reads.ident
  · simp [Scope.lookup?, Scope.enter]
  · exact paramName_ne (by decide) (by decide) depth

theorem reads_key (depth : Nat) (key value : Value Date) :
    Reads rt calls (scope.enter [paramName "key" depth, paramName "val" depth] [key, value])
      (.ident (paramName "key" depth)) key := by
  apply Reads.ident
  · simp [Scope.lookup?, Scope.enter]
  · exact paramName_ne (by decide) (by decide) depth

theorem reads_val (depth : Nat) (key value : Value Date) :
    Reads rt calls (scope.enter [paramName "key" depth, paramName "val" depth] [key, value])
      (.ident (paramName "val" depth)) value := by
  have differ : (paramName "val" depth == paramName "key" depth) = false := by
    apply beq_false_of_ne
    apply paramName_ne (by decide)
    rw [head_paramName (by decide)]
    decide
  apply Reads.ident
  · simp [Scope.lookup?, Scope.enter, List.lookup_cons, differ]
  · exact paramName_ne (by decide) (by decide) depth

/-- The parameters of generated lambdas hide no class. -/
theorem lookup?_enter_elt {name : String} (upper : startsUpper name = true) (depth : Nat)
    (item : Value Date) :
    (scope.enter [paramName "elt" depth] [item]).lookup? name = scope.lookup? name := by
  apply lookup?_enter_of_startsUpper _ upper
  intro param member
  rw [List.mem_singleton.1 member, startsUpper_paramName (by decide)]
  decide

theorem lookup?_enter_entry {name : String} (upper : startsUpper name = true) (depth : Nat)
    (key value : Value Date) :
    (scope.enter [paramName "key" depth, paramName "val" depth] [key, value]).lookup? name =
      scope.lookup? name := by
  apply lookup?_enter_of_startsUpper _ upper
  intro param member
  simp only [List.mem_cons, List.not_mem_nil, or_false] at member
  rcases member with rfl | rfl
  · rw [startsUpper_paramName (by decide)]
    decide
  · rw [startsUpper_paramName (by decide)]
    decide

/-- The lambda over the entries of a map, applied to one of them. -/
theorem eval_entry {depth : Nat} {text : String} {value result : Value Date} {body : Expr}
    (free : scope.lookup? "MapEntry" = none)
    (bodyEq : eval rt calls
      (scope.enter [paramName "key" depth, paramName "val" depth] [.str text, value]) body =
        .ok result) :
    eval rt calls
      (scope.enter [paramName "key" depth, paramName "val" depth] [.str text, value])
      ((Expr.ident "MapEntry").invoke [.ident (paramName "key" depth), body]) =
        .ok (.entry text result) := by
  rw [Expr.invoke,
    eval_function (plainArgs_runArgs_two (reads_key depth (.str text) value).eval_eq bodyEq)]
  exact if_pos ((lookup?_enter_entry (by decide) depth _ _).trans free)

/-! ## The relation -/

/-- The JSON form of a value of a type. -/
inductive JsonForm (rt : Runtime Date) (calls : Callees Date) :
    TypeExpr → Value Date → Value Date → Prop where
  | null {type : TypeExpr} (nullable : type.nullable = true) : JsonForm rt calls type .null .null
  | plain {name : String} {nullable : Bool} {builtin : Builtin} {value : Value Date}
      (named : Builtin.ofName? name = some builtin) (unconverted : builtin.needsConversion = false)
      (inhabits : value.ofBuiltin builtin = true) :
      JsonForm rt calls (.scalar name nullable) value value
  | date {name : String} {nullable : Bool} {moment : Date}
      (named : Builtin.ofName? name = some .dateTime) :
      JsonForm rt calls (.scalar name nullable) (.date moment) (.str (rt.iso moment))
  | record {name : String} {nullable : Bool} {fields entries : List (String × Value Date)}
      (named : Builtin.ofName? name = none)
      (written : calls.method "toMap" (.object name fields) = .ok (.map entries))
      (read : calls.factory name "fromMap" (.map entries) = .ok (.object name fields)) :
      JsonForm rt calls (.scalar name nullable) (.object name fields) (.map entries)
  | list {element : TypeExpr} {nullable : Bool} (items : List (Value Date × Value Date))
      (each : ∀ item ∈ items, JsonForm rt calls element item.1 item.2) :
      JsonForm rt calls (.list element nullable) (.list (items.map fun item => item.1))
        (.list (items.map fun item => item.2))
  | map {key inner : TypeExpr} {nullable : Bool}
      (entries : List (String × Value Date × Value Date)) (isKey : key.isKey = true)
      (distinct : (entries.map fun entry => entry.1).Nodup)
      (each : ∀ entry ∈ entries, JsonForm rt calls inner entry.2.1 entry.2.2) :
      JsonForm rt calls (.map key inner nullable)
        (.map (entries.map fun entry => (entry.1, entry.2.1)))
        (.map (entries.map fun entry => (entry.1, entry.2.2)))

theorem isPlain_scalar {name : String} {nullable : Bool} :
    isPlain (.scalar name nullable) = true ↔
      ∃ builtin, Builtin.ofName? name = some builtin ∧ builtin.needsConversion = false := by
  rw [isPlain, TypeExpr.builtin?]
  cases Builtin.ofName? name with
  | none => simp
  | some builtin => simp

theorem needsConversion_of_isPlain {type : TypeExpr} (plain : isPlain type = true) :
    needsConversion type = false := by
  cases type with
  | scalar name nullable => rw [needsConversion, plain]; rfl
  | list element nullable => cases plain
  | map key inner nullable => cases plain
  | generic name args nullable => cases plain

/-- Strings are the keys of maps. -/
theorem fits_of_isKey {key : TypeExpr} (isKey : key.isKey = true) (text : String) :
    (Value.str text : Value Date).fits key = true := by
  simp only [TypeExpr.isKey, Bool.and_eq_true, decide_eq_true_eq] at isKey
  obtain ⟨named, -⟩ := isKey
  cases key with
  | scalar name nullable =>
    rw [TypeExpr.builtin?] at named
    rw [Value.fits, named]
    simp [Value.ofBuiltin]
  | list element nullable => cases named
  | map key inner nullable => cases named
  | generic name args nullable => cases named

namespace JsonForm

variable {type : TypeExpr} {value form : Value Date}

theorem eq_of_unconverted (related : JsonForm rt calls type value form)
    (unconverted : needsConversion type = false) : form = value := by
  induction related with
  | null nullable => rfl
  | plain named _ inhabits => rfl
  | date named =>
    simp [needsConversion, isPlain, TypeExpr.builtin?, named, Builtin.needsConversion]
      at unconverted
  | record named written read =>
    simp [needsConversion, isPlain, TypeExpr.builtin?, named] at unconverted
  | list items each ih =>
    rw [needsConversion] at unconverted
    rw [List.map_congr_left fun item member => ih item member unconverted]
  | map entries isKey distinct each ih =>
    rw [needsConversion] at unconverted
    have same : ∀ entry ∈ entries, (entry.1, entry.2.2) = (entry.1, entry.2.1) := by
      intro entry member
      rw [ih entry member unconverted]
    rw [List.map_congr_left same]

theorem fits (related : JsonForm rt calls type value form) : value.fits type = true := by
  induction related with
  | @null type nullable => cases type <;> simp_all [Value.fits, TypeExpr.nullable]
  | plain named _ inhabits => simp [Value.fits, named, inhabits]
  | date named => simp [Value.fits, named, Value.ofBuiltin]
  | record named written read => simp [Value.fits, named, Value.ofClass]
  | @list element nullable items each ih =>
    have all : (items.map fun item => item.1).all (Value.fits element) = true := by
      rw [List.all_map, List.all_eq_true]
      exact ih
    simp [Value.fits, all]
  | map entries isKey distinct each ih =>
    simp only [Value.fits, Bool.or_eq_true, List.all_map, List.all_eq_true]
    right
    intro entry member
    simp only [Function.comp_apply, fits_of_isKey isKey, ih entry member, Bool.and_self]

/-- Only a plain scalar may hold a null that its type does not show. -/
theorem nullable_of_null (related : JsonForm rt calls type .null form)
    (converted : isPlain type = false) : type.nullable = true := by
  cases related with
  | null nullable => exact nullable
  | plain named unconverted inhabits =>
    rw [isPlain_scalar.2 ⟨_, named, unconverted⟩] at converted
    cases converted

end JsonForm

/-! ## Writing -/

theorem run_skipped {target : Expr} {name : String} {types : List String} {exprs : List Expr}
    {args : List (Arg Date)} (reads : Reads rt calls scope target .null)
    (plain : name ∉ Scope.hashFunctions) (argsEq : runArgs rt calls scope exprs = .ok args) :
    run rt calls scope (.call (.member target name true) types exprs) = .ok none := by
  rw [reads.run_method plain argsEq]
  rfl

theorem eval_encoded_null {type : TypeExpr} {expr : Expr} (nullable : type.nullable = true)
    (reads : Reads rt calls scope expr .null) (depth : Nat) :
    eval rt calls scope (encoded type expr depth) = .ok .null := by
  have empty : runArgs rt calls scope [] = .ok [] := rfl
  cases type with
  | scalar name mark =>
    obtain rfl : mark = true := nullable
    rw [encoded]
    split
    · rw [eval, Expr.invoke, run_skipped reads (by decide) empty]
      rfl
    · exact reads.eval_eq
    · rw [eval, Expr.invoke, run_skipped reads (by decide) empty]
      rfl
  | list element mark =>
    obtain rfl : mark = true := nullable
    rw [encoded]
    split
    · rw [eval, Expr.method, Expr.invoke, Expr.dot, Expr.invoke, run_call_member,
        run_skipped reads (by decide) (runArgs_lambda _ _)]
      rfl
    · exact reads.eval_eq
  | map key inner mark =>
    obtain rfl : mark = true := nullable
    rw [encoded]
    split
    · rw [eval, Expr.invoke, entryLambda, run_skipped reads (by decide) (runArgs_lambda _ _)]
      rfl
    · exact reads.eval_eq
  | generic name args mark => exact reads.eval_eq

/-- What needs no conversion is written as it is. -/
theorem encoded_of_unconverted {type : TypeExpr} (unconverted : needsConversion type = false)
    (expr : Expr) (depth : Nat) : encoded type expr depth = expr := by
  cases type with
  | scalar name nullable =>
    obtain ⟨builtin, named, plain⟩ :=
      isPlain_scalar.1 (by simpa [needsConversion] using unconverted)
    cases builtin <;> simp_all [encoded, Builtin.needsConversion]
  | list element nullable => rw [encoded, if_neg (by simpa [needsConversion] using unconverted)]
  | map key inner nullable => rw [encoded, if_neg (by simpa [needsConversion] using unconverted)]
  | generic name args nullable => cases unconverted

/-- The expression of `toMap` gives the JSON form. -/
theorem eval_encoded {type : TypeExpr} {value form : Value Date}
    (related : JsonForm rt calls type value form) :
    ∀ {scope : Scope Date} {expr : Expr} (depth : Nat), scope.lookup? "MapEntry" = none →
      Reads rt calls scope expr value →
      eval rt calls scope (encoded type expr depth) = .ok form := by
  induction related with
  | null nullable =>
    intro scope expr depth _ reads
    exact eval_encoded_null nullable reads depth
  | @plain name nullable builtin value named unconverted inhabits =>
    intro scope expr depth _ reads
    rw [encoded_of_unconverted (needsConversion_of_isPlain
      (isPlain_scalar.2 ⟨_, named, unconverted⟩))]
    exact reads.eval_eq
  | date named =>
    intro scope expr depth _ reads
    simp only [encoded, named]
    rw [Expr.invoke, reads.eval_method rfl (by decide) rfl]
    rfl
  | record named written read =>
    intro scope expr depth _ reads
    simp only [encoded, named]
    rw [Expr.invoke, reads.eval_method rfl (by decide) rfl]
    exact written
  | @list element nullable items each ih =>
    intro scope expr depth free reads
    rw [encoded]
    split
    · apply eval_toList rfl
      apply reads.run_map_list items _ rfl
      intro item member
      apply ih item member (depth + 1) _ (reads_elt depth item.1)
      rw [lookup?_enter_elt (by decide)]
      exact free
    · next unconverted =>
      have whole : JsonForm rt calls (.list element nullable) _ _ := .list items each
      rw [whole.eq_of_unconverted (by rw [needsConversion]; simpa using unconverted)]
      exact reads.eval_eq
  | @map key inner nullable entries isKey distinct each ih =>
    intro scope expr depth free reads
    rw [encoded]
    split
    · apply eval_of_run
      apply reads.run_map_entries entries distinct _ rfl
      intro entry member
      apply eval_entry free
      apply ih entry member (depth + 1) _ (reads_val depth _ _)
      rw [lookup?_enter_entry (by decide)]
      exact free
    · next unconverted =>
      have whole : JsonForm rt calls (.map key inner nullable) _ _ :=
        .map entries isKey distinct each
      rw [whole.eq_of_unconverted (by rw [needsConversion]; simpa using unconverted)]
      exact reads.eval_eq

/-! ## Reading -/

theorem eval_decoded_null {type : TypeExpr} {expr : Expr} (nullable : type.nullable = true)
    (reads : Reads rt calls scope expr .null) (depth : Nat) :
    eval rt calls scope (decoded type expr depth) = .ok .null := by
  cases type with
  | scalar name mark =>
    obtain rfl : mark = true := nullable
    rw [decoded]
    split
    · rw [eval_unlessNull reads.eval_eq]
      rfl
    · exact reads.eval_eq
    · rw [eval_unlessNull reads.eval_eq]
      rfl
  | list element mark =>
    obtain rfl : mark = true := nullable
    rw [decoded, eval_unlessNull reads.eval_eq]
    rfl
  | map key inner mark =>
    obtain rfl : mark = true := nullable
    rw [decoded, eval_unlessNull reads.eval_eq]
    rfl
  | generic name args mark => exact reads.eval_eq

/-- The type that a map is cast to before its values are read. -/
theorem isOf_mapType_eq_fits (value : Value Date) :
    value.isOf "Map<String, dynamic>" =
      value.fits (.map (.scalar "String" false) (.scalar "dynamic" false) false) := by
  have spelled : "Map<String, dynamic>" =
      (TypeExpr.map (.scalar "String" false) (.scalar "dynamic" false) false).render := by
    decide
  have formed :
      (TypeExpr.map (.scalar "String" false) (.scalar "dynamic" false) false).WellFormed :=
    .map (.scalar (by decide) (by decide) (by decide)) (.scalar (by decide) (by decide) (by decide))
  rw [spelled, Value.isOf_render formed]

theorem isOf_mapType (entries : List (String × Value Date)) :
    (Value.map entries).isOf "Map<String, dynamic>" = true := by
  rw [isOf_mapType_eq_fits]
  simp only [Value.fits, Bool.false_and, Bool.false_or, List.all_eq_true]
  intro entry _
  cases entry.2 <;> rfl

theorem eval_dateTime_parse {expr : Expr} {moment : Date}
    (inverse : rt.parseDate (rt.iso moment) = some moment)
    (free : scope.lookup? "DateTime" = none)
    (exprEq : eval rt calls scope expr = .ok (.str (rt.iso moment))) :
    eval rt calls scope ((Expr.ident "DateTime").method "parse" [expr]) = .ok (.date moment) := by
  rw [Expr.method, Expr.dot, Expr.invoke,
    eval_static (class?_of_lookup? _ free) (plainArgs_runArgs_one exprEq)]
  exact callDateTime_parse rt inverse

theorem ne_builtin {name : String} (named : Builtin.ofName? name = none) (builtin : Builtin) :
    name ≠ builtin.name := by
  rintro rfl
  cases builtin <;> cases named

theorem eval_fromMap {name : String} {expr : Expr} {form : Value Date}
    (named : Builtin.ofName? name = none) (free : scope.lookup? name = none)
    (exprEq : eval rt calls scope expr = .ok form) :
    eval rt calls scope ((Expr.ident name).method "fromMap" [expr]) =
      calls.factory name "fromMap" form := by
  rw [Expr.method, Expr.dot, Expr.invoke,
    eval_static (class?_of_lookup? _ free) (plainArgs_runArgs_one exprEq), callStatic,
    if_neg (ne_builtin named .object), if_neg (ne_builtin named .dateTime)]

/-- The expression of `fromMap` gives the value back. A plain scalar must not be null
here unless its type is nullable, since it is read with `!`. -/
theorem eval_decoded {type : TypeExpr} {value form : Value Date}
    (inverse : ∀ moment, rt.parseDate (rt.iso moment) = some moment)
    (related : JsonForm rt calls type value form) :
    ∀ {scope : Scope Date} {expr : Expr} (depth : Nat), type.WellFormed →
      (∀ name ∈ type.recordNames, startsUpper name = true) →
      (∀ name, startsUpper name = true → scope.lookup? name = none) →
      Reads rt calls scope expr form → (value = .null → type.nullable = true) →
      eval rt calls scope (decoded type expr depth) = .ok value := by
  induction related with
  | null nullable =>
    intro scope expr depth _ _ _ reads _
    exact eval_decoded_null nullable reads depth
  | @plain name nullable builtin value named unconverted inhabits =>
    intro scope expr depth _ _ _ reads present
    have direct : decoded (.scalar name nullable) expr depth =
        if nullable then expr else .bang expr := by
      cases builtin <;> simp_all [decoded, Builtin.needsConversion]
    rw [direct]
    cases nullable with
    | true => exact reads.eval_eq
    | false => exact eval_bang reads fun isNull => Bool.false_ne_true (present isNull)
  | @date name nullable moment named =>
    intro scope expr depth _ _ free reads _
    simp only [decoded, named]
    rw [eval_unlessNull reads.eval_eq, if_neg (by simp [Value.isNull])]
    exact eval_dateTime_parse (inverse moment) (free _ (by decide)) reads.eval_eq
  | @record name nullable fields entries named written read =>
    intro scope expr depth _ upper free reads _
    have nameUpper : startsUpper name = true := upper name (by simp [TypeExpr.recordNames, named])
    simp only [decoded, named]
    rw [eval_unlessNull reads.eval_eq, if_neg (by simp [Value.isNull])]
    rw [eval_fromMap named (free name nameUpper) reads.eval_eq]
    exact read
  | @list element nullable items each ih =>
    intro scope expr depth formed upper free reads _
    obtain _ | elementFormed | _ | _ := formed
    have fitting : ∀ item ∈ items.map fun item => item.1, item.fits element = true := by
      intro value member
      obtain ⟨item, itemMember, rfl⟩ := List.mem_map.1 member
      exact (each item itemMember).fits
    rw [decoded, eval_unlessNull reads.eval_eq, if_neg (by simp [Value.isNull])]
    split
    · next plain =>
      -- The elements are their own forms, and the literal copies them.
      rw [List.map_congr_left fun item member =>
        (each item member).eq_of_unconverted (needsConversion_of_isPlain plain)] at reads
      exact eval_of_run (run_listLit_spread reads.eval_eq elementFormed fitting)
    · next converted =>
      apply eval_toList rfl
      apply (Reads.cast reads.eval_eq (isOf_list _)).run_map_list items
      · intro item member
        apply ih item member (depth + 1) elementFormed upper _ (reads_elt depth item.2)
        · intro isNull
          have related := each item member
          rw [isNull] at related
          exact related.nullable_of_null (by simpa using converted)
        · intro name nameUpper
          rw [lookup?_enter_elt nameUpper]
          exact free name nameUpper
      · exact checkItems_render elementFormed fitting
  | @map key inner nullable entries isKey distinct each ih =>
    intro scope expr depth formed upper free reads _
    obtain _ | _ | ⟨keyFormed, innerFormed⟩ | _ := formed
    have innerUpper : ∀ name ∈ inner.recordNames, startsUpper name = true := by
      intro name member
      exact upper name (by simp [TypeExpr.recordNames, member])
    have fitting : ∀ entry ∈ entries.map fun entry => (entry.1, entry.2.1),
        entry.2.fits inner = true := by
      intro pair member
      obtain ⟨entry, entryMember, rfl⟩ := List.mem_map.1 member
      exact (each entry entryMember).fits
    rw [decoded, eval_unlessNull reads.eval_eq, if_neg (by simp [Value.isNull])]
    split
    · next plain =>
      have same : ∀ entry ∈ entries, (entry.1, entry.2.2) = (entry.1, entry.2.1) := by
        intro entry member
        rw [(each entry member).eq_of_unconverted (needsConversion_of_isPlain plain)]
      rw [List.map_congr_left same] at reads
      apply eval_of_run
      apply run_mapLit_spread reads.eval_eq _ keyFormed innerFormed (fits_of_isKey isKey) fitting
      simpa [Function.comp_def] using distinct
    · next converted =>
      apply eval_of_run
      apply (Reads.cast reads.eval_eq (isOf_mapType _)).run_map_entries entries distinct
      · intro entry member
        apply eval_entry (free _ (by decide))
        apply ih entry member (depth + 1) innerFormed innerUpper _ (reads_val depth _ _)
        · intro isNull
          have related := each entry member
          rw [isNull] at related
          exact related.nullable_of_null (by simpa using converted)
        · intro name nameUpper
          rw [lookup?_enter_entry nameUpper]
          exact free name nameUpper
      · exact checkEntries_render keyFormed innerFormed (fits_of_isKey isKey) fitting

end Recordsmith.Dart
