/-
# Recordsmith.Proofs.Class.Capture — record names below lambdas

To read a field, `fromMap` of its record is called within one lambda for each list or
map around it. The parameters of these lambdas are `elt`, `key` and `val`, numbered by
depth, and a record may have such a name too: then the call goes to the parameter.

In what reads a field of a supported type, `fromMap` is called on the record that the
type refers to and on nothing else, below the lambdas of all containers of the type
(`throughout_decoded`). So the name of the record is free there exactly if it is none
of their parameters (`fromMap_target_free_iff`).
-/
import Recordsmith.Proofs.Class.Acceptance
import Recordsmith.Proofs.Class.JsonForm
import Recordsmith.Proofs.Dart.Binding

namespace Recordsmith.Member

open Recordsmith.Dart

set_option autoImplicit false

/-- The parameters of the lambdas around what a type holds innermost, outermost first. -/
def lambdaParams : TypeExpr → Nat → List String
  | .list element _, depth => paramName "elt" depth :: lambdaParams element (depth + 1)
  | .map _ value _, depth =>
      paramName "key" depth :: paramName "val" depth :: lambdaParams value (depth + 1)
  | _, _ => []

/-- The target of `.fromMap`, if this is one. -/
@[simp] def fromMapTarget? : Expr → Option Expr
  | .member target name _ => if name = "fromMap" then some target else none
  | _ => none

/-- What holds of the targets of `.fromMap` and of the parameters around each. -/
def AtTargets (Q : List String → Expr → Prop) (bound : List String) (expr : Expr) : Prop :=
  ∀ target ∈ fromMapTarget? expr, Q bound target

section Targets

variable {Q : List String → Expr → Prop}

theorem throughout_of_no_target {value : Expr}
    (none : Throughout (fun _ expr => fromMapTarget? expr = none) value) :
    Throughout (AtTargets Q) value := by
  intro bound inner under target found
  rw [none bound inner under] at found
  cases found

theorem throughout_unlessNull {nullable : Bool} {value expr : Expr}
    (none : Throughout (fun _ expr => fromMapTarget? expr = none) value) :
    Throughout (AtTargets Q) (unlessNull nullable value expr) ↔ Throughout (AtTargets Q) expr := by
  have inValue : Throughout (AtTargets Q) value := throughout_of_no_target none
  cases nullable with
  | false => rfl
  | true => simp [unlessNull, Expr.isNull, Expr.null, AtTargets, inValue]

end Targets

theorem recordNames_of_isPlain {type : TypeExpr} (plain : isPlain type = true) :
    type.recordNames = [] := by
  cases type with
  | scalar name nullable =>
    rw [isPlain, TypeExpr.builtin?] at plain
    split at plain
    · next builtin named => simp [TypeExpr.recordNames, named]
    · cases plain
  | list | map | generic => cases plain

/-- What holds at the targets of `.fromMap` in what reads a value. -/
theorem throughout_decoded {type : TypeExpr} (supported : type.fault? = none)
    {Q : List String → Expr → Prop} {value : Expr} (depth : Nat)
    (none : Throughout (fun _ expr => fromMapTarget? expr = none) value) :
    Throughout (AtTargets Q) (decoded type value depth) ↔
      ∀ name ∈ type.recordNames, Q (lambdaParams type depth) (.ident name) := by
  fun_induction decoded type value depth generalizing Q with
  | case1 name nullable value depth isDate =>
    rw [throughout_unlessNull none]
    simp [Expr.method, Expr.dot, Expr.invoke, AtTargets, throughout_of_no_target none,
      TypeExpr.recordNames, isDate]
  | case2 name value depth builtin other named =>
    simp [throughout_of_no_target none, TypeExpr.recordNames, named]
  | case3 name nullable value depth builtin other named notNull =>
    simp [throughout_of_no_target none, AtTargets, TypeExpr.recordNames, named]
  | case4 name nullable value depth custom =>
    rw [throughout_unlessNull none]
    simp [Expr.method, Expr.dot, Expr.invoke, AtTargets, throughout_of_no_target none,
      TypeExpr.recordNames, custom, lambdaParams]
  | case5 element nullable value depth ih =>
    rw [throughout_unlessNull none]
    split
    · next plain =>
      simp [AtTargets, throughout_of_no_target none, TypeExpr.recordNames,
        recordNames_of_isPlain plain]
    · have below : Throughout (fun bound => AtTargets Q (paramName "elt" depth :: bound))
          (decoded element (.ident (paramName "elt" depth)) (depth + 1)) ↔ _ :=
        @ih supported (fun bound => Q (paramName "elt" depth :: bound)) (by simp)
      simpa [Expr.method, Expr.dot, Expr.invoke, Expr.cast, AtTargets, throughout_of_no_target none,
        TypeExpr.recordNames, lambdaParams] using below
  | case6 key inner nullable value depth ih =>
    have plainKey : key.isKey = true ∧ inner.fault? = .none := by
      rw [TypeExpr.fault?] at supported
      split at supported
      · next isKey => exact ⟨isKey, supported⟩
      · cases supported
    have noKeyNames : key.recordNames = [] := by
      rw [TypeExpr.isKey_iff.1 plainKey.1]
      rfl
    rw [throughout_unlessNull none]
    split
    · next plain =>
      simp [AtTargets, throughout_of_no_target none, TypeExpr.recordNames,
        recordNames_of_isPlain plain, noKeyNames]
    · have below : Throughout (fun bound => AtTargets Q
            (paramName "key" depth :: paramName "val" depth :: bound))
          (decoded inner (.ident (paramName "val" depth)) (depth + 1)) ↔ _ :=
        @ih plainKey.2 (fun bound => Q (paramName "key" depth :: paramName "val" depth :: bound))
          (by simp)
      simpa [entryLambda, Expr.dot, Expr.invoke, Expr.cast, AtTargets, throughout_of_no_target none,
        TypeExpr.recordNames, lambdaParams, noKeyNames] using below
  | case7 name args nullable value depth => cases supported

/-! ## Fields -/

theorem fromMapTarget?_eq_some_iff {expr target : Expr} :
    fromMapTarget? expr = some target ↔ ∃ nullSafe, expr = .member target "fromMap" nullSafe := by
  cases expr with
  | member other name nullSafe =>
    by_cases named : name = "fromMap"
    · simp [named]
    · simp [named]
  | _ => simp

/-- What holds wherever a field is read by `.fromMap`. -/
theorem forall_target_iff {field : Field} (supported : field.type.fault? = none)
    (Q : List String → Expr → Prop) :
    (∀ bound target nullSafe,
      Under bound (.member target "fromMap" nullSafe) (fromMapExpr field) → Q bound target) ↔
    ∀ name ∈ field.type.recordNames, Q (lambdaParams field.type 0) (.ident name) := by
  rw [← throughout_decoded supported 0
    (show Throughout (fun _ expr => fromMapTarget? expr = none)
      (.index (.ident "raw") (.str field.name)) by simp)]
  constructor
  · intro each bound inner under target found
    obtain ⟨nullSafe, rfl⟩ := fromMapTarget?_eq_some_iff.1 found
    exact each bound target nullSafe under
  · intro each bound target nullSafe under
    exact each bound _ under target (fromMapTarget?_eq_some_iff.2 ⟨nullSafe, rfl⟩)

/-- A record that a field refers to is read below the lambdas of all its containers. -/
theorem exists_target {field : Field} (supported : field.type.fault? = none) {name : String}
    (referenced : name ∈ field.type.recordNames) :
    ∃ nullSafe, Under (lambdaParams field.type 0) (.member (.ident name) "fromMap" nullSafe)
      (fromMapExpr field) := by
  by_contra missing
  have nowhere := (forall_target_iff supported fun bound target =>
    ¬ (bound = lambdaParams field.type 0 ∧ target = .ident name)).1
  refine nowhere ?_ name referenced ⟨rfl, rfl⟩
  rintro bound target nullSafe under ⟨rfl, rfl⟩
  exact missing ⟨nullSafe, under⟩

theorem startsUpper_of_mem_lambdaParams {param : String} {type : TypeExpr} {depth : Nat}
    (member : param ∈ lambdaParams type depth) : startsUpper param = false := by
  have lower : ∀ base ∈ ["elt", "key", "val"], ∀ depth,
      startsUpper (paramName base depth) = false := by
    intro base among depth
    rw [startsUpper_paramName]
    · revert base
      decide
    · revert base
      decide
  fun_induction lambdaParams type depth with
  | case1 element nullable depth ih =>
    rcases List.mem_cons.1 member with rfl | later
    · exact lower "elt" (by simp) depth
    · exact ih later
  | case2 key value nullable depth ih =>
    rw [List.mem_cons, List.mem_cons] at member
    rcases member with rfl | rfl | later
    · exact lower "key" (by simp) depth
    · exact lower "val" (by simp) depth
    · exact ih later
  | case3 => cases member

/-- **Which record names are captured.** In the expression that reads a field of a supported
type, a record that the type refers to is named as the target of `.fromMap`. Each time the
name is free, that is bound by no lambda around it, exactly if it is none of the parameters
that the lists and maps of the type bring with them. In particular it is free if it starts
with a letter in upper case. -/
theorem fromMap_target_free_iff {record : Record} {field : Field}
    (supported : field.unsupported? record = none) {name : String}
    (referenced : name ∈ field.type.references) :
    ∃ expr, fromMap record field = .ok expr ∧
      (∃ bound nullSafe, Under bound (.member (.ident name) "fromMap" nullSafe) expr) ∧
      ((∀ bound nullSafe, Under bound (.member (.ident name) "fromMap" nullSafe) expr →
          name ∉ bound) ↔
        name ∉ lambdaParams field.type 0) ∧
      (startsUpper name = true →
        ∀ bound nullSafe, Under bound (.member (.ident name) "fromMap" nullSafe) expr →
          name ∉ bound) := by
  have whole : field.type.fault? = none := by simpa [Field.unsupported?] using supported
  have named : name ∈ field.type.recordNames := by
    rwa [TypeExpr.references, mem_distinct] at referenced
  obtain ⟨nullSafe, found⟩ := exists_target whole named
  have free_iff : (∀ bound nullSafe,
      Under bound (.member (.ident name) "fromMap" nullSafe) (fromMapExpr field) → name ∉ bound) ↔
      name ∉ lambdaParams field.type 0 := by
    constructor
    · exact fun each => each _ nullSafe found
    · intro fresh bound other under
      have sites := (forall_target_iff whole fun bound target => name ∉ bound).2
        fun _ _ => fresh
      exact sites bound _ other under
  refine ⟨fromMapExpr field, ?_, ⟨_, nullSafe, found⟩, free_iff, fun upper => free_iff.2 ?_⟩
  · rw [fromMap_eq, supported, Option.elim_none]
  · intro member
    rw [startsUpper_of_mem_lambdaParams member] at upper
    cases upper

/-- `List<elt> cells`, with a record of the name that the lambda gives to an element. -/
def cells : Field :=
  ⟨"cells", .list (.scalar "elt" false) false, by decide⟩

/-- `List<Map<String, elt1?>> trays`: the name would be taken at depth one only by a list. -/
def trays : Field :=
  ⟨"trays", .list (.map (.scalar "String" false) (.scalar "elt1" true) false) false, by decide⟩

/-- `List<elt> cells`, `List<Map<String, elt1?>> trays` -/
def battery : Record :=
  ⟨"Battery", [cells, trays], by decide, by decide, by decide⟩

theorem fromMap_target_free_iff_trays :
    ∃ expr, fromMap battery trays = .ok expr ∧
      (∃ bound nullSafe, Under bound (.member (.ident "elt1") "fromMap" nullSafe) expr) ∧
      ∀ bound nullSafe, Under bound (.member (.ident "elt1") "fromMap" nullSafe) expr →
        "elt1" ∉ bound := by
  have referenced : "elt1" ∈ trays.type.references := by decide
  have supported : trays.unsupported? battery = none := by decide
  obtain ⟨expr, made, used, free_iff, -⟩ := fromMap_target_free_iff supported referenced
  exact ⟨expr, made, used, free_iff.2 (by decide)⟩

/-- The cells are read by `fromMap` of a cell, and not of its record. -/
theorem elt_captured :
    cells.unsupported? battery = none ∧ "elt" ∈ cells.type.references ∧
    ∃ expr, fromMap battery cells = .ok expr ∧
      expr.lines .standard =
        ["(raw[\"cells\"] as List).map<elt>((elt) => elt.fromMap(elt)).toList()"] ∧
      ∃ bound nullSafe, Under bound (.member (.ident "elt") "fromMap" nullSafe) expr ∧
        "elt" ∈ bound := by
  obtain ⟨nullSafe, found⟩ :=
    exists_target (show cells.type.fault? = none by rfl)
      (show "elt" ∈ cells.type.recordNames by decide)
  exact ⟨by decide, by decide, fromMapExpr cells, rfl, by decide +kernel, _, nullSafe, found,
    by decide⟩

end Recordsmith.Member
