/-
# Recordsmith.Proofs.Class.Equality — when two instances are equal

`operator ==` of an assembled class is a conjunction: the type test, then one term
for each field. It gives `true` exactly if the other object is an instance of the
class and every field of the one agrees with the same field of the other
(`method_equality_iff`). How two values agree depends on the field's type: scalars
are compared by `==`, lists by `listEquals`, maps by `mapEquals`.

A field whose name is a reserved word cannot be written behind `other.`, so
instances of such a class are never found equal.
-/
import Recordsmith.Proofs.Class.Members

namespace Recordsmith.Dart

open Recordsmith.Member

set_option autoImplicit false

variable {Date : Type} {rt : Runtime Date} {calls : Callees Date} {scope : Scope Date}

/-! ## Truth of operators and calls -/

theorem eval_conjunction_iff {left right : Expr} :
    eval rt calls scope (.binary .conjunction left right) = .ok (.bool true) ↔
      eval rt calls scope left = .ok (.bool true) ∧
        eval rt calls scope right = .ok (.bool true) := by
  rw [eval, run_conjunction]
  constructor
  · intro holds
    split at holds
    · next leftEq =>
      refine ⟨leftEq, ?_⟩
      split at holds
      · next truth rightEq =>
        cases holds
        exact rightEq
      · cases holds
      · cases holds
    · cases holds
    · cases holds
    · cases holds
  · rintro ⟨leftEq, rightEq⟩
    rw [leftEq, rightEq]
    rfl

theorem eval_equals_iff {left right : Expr} :
    eval rt calls scope (.binary .equals left right) = .ok (.bool true) ↔
      ∃ a b, eval rt calls scope left = .ok a ∧ eval rt calls scope right = .ok b ∧
        rt.equal a b = true := by
  have unfolded : eval rt calls scope (.binary .equals left right) =
      (eval rt calls scope left).bind fun a =>
        (eval rt calls scope right).map fun b => .bool (rt.equal a b) := by
    rw [eval, run_equals]
    cases eval rt calls scope left with
    | error failure => rfl
    | ok a => cases eval rt calls scope right <;> rfl
  rw [unfolded]
  cases eval rt calls scope left with
  | error failure => simp [Except.bind]
  | ok a =>
    cases eval rt calls scope right with
    | error failure => simp [Except.bind, Except.map]
    | ok b => simp [Except.bind, Except.map]

theorem plainArgs_runArgs_cons {expr : Expr} {rest : List Expr} {values : List (Value Date)}
    (given : (runArgs rt calls scope (expr :: rest)).bind plainArgs = .ok values) :
    ∃ value others, eval rt calls scope expr = .ok value ∧
      (runArgs rt calls scope rest).bind plainArgs = .ok others ∧ values = value :: others := by
  by_cases isLambda : ∃ params body, expr = .lambda params body
  · obtain ⟨params, body, rfl⟩ := isLambda
    rw [runArgs] at given
    cases restEq : runArgs rt calls scope rest <;> rw [restEq] at given <;> cases given
  · rw [runArgs_cons_of_not_lambda fun params body same => isLambda ⟨params, body, same⟩] at given
    cases first : eval rt calls scope expr with
    | error failure => rw [first] at given; cases given
    | ok value =>
      cases restEq : runArgs rt calls scope rest with
      | error failure => rw [first, restEq] at given; cases given
      | ok args =>
        rw [first, restEq] at given
        change (plainArgs args).map (value :: ·) = .ok values at given
        cases plain : plainArgs args with
        | error failure => rw [plain] at given; cases given
        | ok others =>
          rw [plain] at given
          cases given
          exact ⟨value, others, rfl, plain, rfl⟩

/-- A call of one of the helpers that compare containers. -/
theorem eval_compare_iff {name : String} {left right : Expr} {result : Value Date}
    {compare : Value Date → Value Date → Outcome Date}
    (helper : ∀ a b, callFunction rt calls scope name [a, b] = compare a b) :
    eval rt calls scope ((Expr.ident name).invoke [left, right]) = .ok result ↔
      ∃ a b, eval rt calls scope left = .ok a ∧ eval rt calls scope right = .ok b ∧
        compare a b = .ok result := by
  constructor
  · intro holds
    rw [eval, Expr.invoke, run_call_ident] at holds
    cases args : (runArgs rt calls scope [left, right]).bind plainArgs with
    | error failure => rw [args] at holds; cases holds
    | ok values =>
      obtain ⟨a, others, leftEq, rest, rfl⟩ := plainArgs_runArgs_cons args
      obtain ⟨b, noMore, rightEq, last, rfl⟩ := plainArgs_runArgs_cons rest
      cases last
      rw [args] at holds
      change settle ((callFunction rt calls scope name [a, b]).map some) = .ok result at holds
      rw [settle_map_some, helper] at holds
      exact ⟨a, b, leftEq, rightEq, holds⟩
  · rintro ⟨a, b, leftEq, rightEq, compared⟩
    rw [Expr.invoke, eval_function (plainArgs_runArgs_two leftEq rightEq), helper, compared]

end Recordsmith.Dart

namespace Recordsmith.Class

open Recordsmith.Dart

variable {Date : Type} {rt : Runtime Date} {calls : Callees Date}

/-! ## One field -/

/-- Two values of a type agree, as generated code compares them. -/
def Agree (rt : Runtime Date) (type : TypeExpr) (left right : Value Date) : Prop :=
  match type.container? with
  | none => rt.equal left right = true
  | some .list => listEquals rt left right = .ok (.bool true)
  | some .map => mapEquals rt left right = .ok (.bool true)

/-- In `operator ==`, a field of the object itself. -/
theorem eval_reference {name : String} {value other : Value Date}
    {fields : List (String × Value Date)} (found : fields.lookup name = some value)
    (notNull : name ≠ "null") :
    eval rt calls ⟨[("other", other)], fields⟩ (Member.reference ["other"] name) = .ok value := by
  refine eval_reference_of_hidden (by simp) ?_ notNull found
  intro hidden
  obtain rfl := List.mem_singleton.1 hidden
  decide

/-- In `operator ==`, a field of the other object. -/
theorem eval_otherField_iff {name type : String} {value result : Value Date}
    {own fields : List (String × Value Date)} (found : fields.lookup name = some value) :
    eval rt calls ⟨[("other", .object type fields)], own⟩ ((Expr.ident "other").dot name) =
        .ok result ↔
      name ∉ Lint.reservedWords ∧ result = value := by
  rw [eval, Expr.dot, run_member]
  split
  · next reserved => simp [settle, Except.map, reserved]
  · next free =>
    simp [Scope.ownField?, found, settle, Except.map, free, eq_comm]

/-- A term of `operator ==` is about the two values of its field. -/
theorem eval_equalityExpr_iff {field : Field} {type : String} {left right : Value Date}
    {own fields : List (String × Value Date)} (ownFound : own.lookup field.name = some left)
    (found : fields.lookup field.name = some right) :
    eval rt calls ⟨[("other", .object type fields)], own⟩ (Member.equalityExpr field) =
        .ok (.bool true) ↔
      field.name ∉ Lint.reservedWords ∧ Agree rt field.type left right := by
  have operands : ∀ Q : Value Date → Value Date → Prop,
      (∃ a b, eval rt calls ⟨[("other", .object type fields)], own⟩
          (Member.reference ["other"] field.name) = .ok a ∧
        eval rt calls ⟨[("other", .object type fields)], own⟩
          ((Expr.ident "other").dot field.name) = .ok b ∧ Q a b) ↔
        field.name ∉ Lint.reservedWords ∧ Q left right := by
    intro Q
    have notNull : field.name ∉ Lint.reservedWords → field.name ≠ "null" := by
      intro free same
      rw [same] at free
      exact free (by decide)
    constructor
    · rintro ⟨a, b, ownEq, otherEq, holds⟩
      obtain ⟨free, rfl⟩ := (eval_otherField_iff found).1 otherEq
      rw [eval_reference ownFound (notNull free)] at ownEq
      cases ownEq
      exact ⟨free, holds⟩
    · rintro ⟨free, holds⟩
      exact ⟨left, right, eval_reference ownFound (notNull free),
        (eval_otherField_iff found).2 ⟨free, rfl⟩, holds⟩
  rw [Member.equalityExpr, Agree]
  cases field.type.container? with
  | none => exact eval_equals_iff.trans (operands _)
  | some container =>
    cases container with
    | list => exact (eval_compare_iff fun _ _ => rfl).trans (operands _)
    | map => exact (eval_compare_iff fun _ _ => rfl).trans (operands _)

/-! ## All fields -/

theorem eval_conjunctions_iff {scope : Scope Date} {α : Type} {term : α → Expr} (items : List α)
    (first : Expr) :
    eval rt calls scope
        (items.foldl (fun terms item => .binary .conjunction terms (term item)) first) =
        .ok (.bool true) ↔
      eval rt calls scope first = .ok (.bool true) ∧
        ∀ item ∈ items, eval rt calls scope (term item) = .ok (.bool true) := by
  induction items generalizing first with
  | nil => simp
  | cons item rest ih =>
    rw [List.foldl_cons, ih, eval_conjunction_iff, List.forall_mem_cons, and_assoc]

/-- The slots of two instances of one class belong to the same fields. -/
theorem field_eq_of_mem_zip {left right : List (Slot Date)}
    (same : left.map Slot.field = right.map Slot.field) :
    ∀ pair ∈ left.zip right, pair.2.field = pair.1.field := by
  induction left generalizing right with
  | nil => simp
  | cons first rest ih =>
    cases right with
    | nil => cases same
    | cons other others =>
      obtain ⟨head, tail⟩ := List.cons.inj same
      rw [List.zip_cons_cons, List.forall_mem_cons]
      exact ⟨head.symm, ih tail⟩

theorem fields_eq_zip {record : Record} {left right : List (Slot Date)}
    (leftFields : left.map Slot.field = record.fields)
    (rightFields : right.map Slot.field = record.fields) :
    record.fields = (left.zip right).map fun pair => pair.1.field := by
  have lengths : left.length ≤ right.length := by
    have same := congrArg List.length (leftFields.trans rightFields.symm)
    simpa using Nat.le_of_eq same
  calc record.fields
    _ = ((left.zip right).map Prod.fst).map Slot.field := by
      rw [List.map_fst_zip lengths, leftFields]
    _ = (left.zip right).map fun pair => pair.1.field := List.map_map

/-- **Equality is agreement of all fields.** For two instances of a class, `==` gives
`true` exactly if every field can be named and agrees. -/
theorem method_equality_iff {program : Program} {options : ClassOptions} {record : Record}
    (assembled : program record.name = some (ofRecord options record))
    (wanted : options.valueSemantics = true) {left right : List (Slot Date)}
    (leftFields : left.map Slot.field = record.fields)
    (rightFields : right.map Slot.field = record.fields) :
    program.method rt calls "operator ==" (withSlots record left) [withSlots record right] =
        .ok (.bool true) ↔
      ∀ pair ∈ left.zip right, pair.1.field.name ∉ Lint.reservedWords ∧
        Agree rt pair.1.field.type pair.1.value pair.2.value := by
  have objectChecked : (withSlots record right).isOf "Object" = true := isOf_builtin .object _
  have body : program.method rt calls "operator ==" (withSlots record left)
      [withSlots record right] =
        eval rt calls ⟨[("other", withSlots record right)], left.map Slot.binding⟩
          (record.fields.foldl
            (fun term field => .binary .conjunction term (Member.equalityExpr field))
            (.binary .isType (.ident "other") (.ident record.name))) := by
    rw [withSlots]
    simp [Program.method, assembled, findMember?_equality wanted, typed, bindParams,
      objectChecked, Except.bind, Except.map]
  have typeTest : eval rt calls ⟨[("other", withSlots record right)], left.map Slot.binding⟩
      (.binary .isType (.ident "other") (.ident record.name)) =
        .ok (.bool true) := by
    have other : eval rt calls ⟨[("other", withSlots record right)], left.map Slot.binding⟩
        (.ident "other") = .ok (withSlots record right) :=
      (Reads.ident (by simp [Scope.lookup?]) (by decide)).eval_eq
    rw [eval, run_isType, other, withSlots]
    simp only [Except.map, Value.isInstance_object]
    rfl
  rw [body, eval_conjunctions_iff, typeTest, and_iff_right rfl,
    fields_eq_zip leftFields rightFields, List.forall_mem_map]
  apply forall₂_congr
  rintro ⟨mine, other⟩ member
  obtain ⟨mineMember, otherMember⟩ := List.of_mem_zip member
  have otherFound := lookup_slot rightFields otherMember
  rw [field_eq_of_mem_zip (leftFields.trans rightFields.symm) _ member] at otherFound
  exact eval_equalityExpr_iff (lookup_slot leftFields mineMember) otherFound

end Recordsmith.Class
