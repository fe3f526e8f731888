/-
# Recordsmith.Proofs.Dart.Everywhere — what holds throughout a construct

`Everywhere P e` says that `P` holds of the construct `e` and of every construct it
is made of, at any depth. The equations follow the constructs, so `simp` walks down
to the parts that are not known.

`parts` lists what a construct is made of, one level deep, in the order it is
written; `Within` goes on from there to any depth. What a construct has of its
parts follows by `induction_on_parts`, whatever kind of construct it is.
-/
import Recordsmith.Dart.Expr

namespace Recordsmith.Dart

set_option autoImplicit false

mutual

/-- The property holds of a construct and of all within it. -/
@[simp] def Everywhere (P : Expr → Prop) : Expr → Prop
  | .ident name => P (.ident name)
  | .str value => P (.str value)
  | .call callee types args =>
      P (.call callee types args) ∧ Everywhere P callee ∧ EverywhereAll P args
  | .index target position =>
      P (.index target position) ∧ Everywhere P target ∧ Everywhere P position
  | .member target name nullSafe => P (.member target name nullSafe) ∧ Everywhere P target
  | .bang operand => P (.bang operand) ∧ Everywhere P operand
  | .binary op left right => P (.binary op left right) ∧ Everywhere P left ∧ Everywhere P right
  | .conditional condition positive negative =>
      P (.conditional condition positive negative) ∧ Everywhere P condition ∧
        Everywhere P positive ∧ Everywhere P negative
  | .paren inner => P (.paren inner) ∧ Everywhere P inner
  | .listLit type items => P (.listLit type items) ∧ EverywhereAll P items
  | .mapLit types entries => P (.mapLit types entries) ∧ EverywhereAll P entries
  | .entry key value => P (.entry key value) ∧ Everywhere P key ∧ Everywhere P value
  | .spread operand => P (.spread operand) ∧ Everywhere P operand
  | .lambda params body => P (.lambda params body) ∧ Everywhere P body
  | .getter modifiers result name => P (.getter modifiers result name)
  | .signature modifiers result name params =>
      P (.signature modifiers result name params) ∧ EverywhereAll P params
  | .arrow head body => P (.arrow head body) ∧ Everywhere P head ∧ Everywhere P body
  | .block head body => P (.block head body) ∧ Everywhere P head ∧ EverywhereAll P body
  | .classHead name base interfaces => P (.classHead name base interfaces)
  | .declaration modifiers type name => P (.declaration modifiers type name)
  | .initialised modifiers type name init =>
      P (.initialised modifiers type name init) ∧ Everywhere P init
  | .switch subject arms => P (.switch subject arms) ∧ Everywhere P subject ∧ EverywhereAll P arms
  | .caseArm pattern body breaks =>
      P (.caseArm pattern body breaks) ∧ Everywhere P pattern ∧ EverywhereAll P body
  | .defaultArm body breaks => P (.defaultArm body breaks) ∧ EverywhereAll P body
  | .ret value => P (.ret value) ∧ Everywhere P value
  | .raise value => P (.raise value) ∧ Everywhere P value
  | .annotated label inner => P (.annotated label inner) ∧ Everywhere P inner

@[simp] def EverywhereAll (P : Expr → Prop) : List Expr → Prop
  | [] => True
  | expr :: rest => Everywhere P expr ∧ EverywhereAll P rest

end

theorem everywhereAll_iff {P : Expr → Prop} {exprs : List Expr} :
    EverywhereAll P exprs ↔ ∀ expr ∈ exprs, Everywhere P expr := by
  induction exprs with
  | nil => simp
  | cons expr rest ih => rw [EverywhereAll, ih, List.forall_mem_cons]

@[simp] theorem everywhereAll_append {P : Expr → Prop} {front back : List Expr} :
    EverywhereAll P (front ++ back) ↔ EverywhereAll P front ∧ EverywhereAll P back := by
  rw [everywhereAll_iff, everywhereAll_iff, everywhereAll_iff, List.forall_mem_append]

/-! ## Parts -/

/-- The constructs that a construct is made of, in the order they are written. -/
@[simp] def parts : Expr → List Expr
  | .ident _ | .str _ => []
  | .call callee _ args => callee :: args
  | .index target position => [target, position]
  | .member target _ _ => [target]
  | .bang operand => [operand]
  | .binary _ left right => [left, right]
  | .conditional condition positive negative => [condition, positive, negative]
  | .paren inner => [inner]
  | .listLit _ items => items
  | .mapLit _ entries => entries
  | .entry key value => [key, value]
  | .spread operand => [operand]
  | .lambda _ body => [body]
  | .getter _ _ _ => []
  | .signature _ _ _ params => params
  | .arrow head body => [head, body]
  | .block head body => head :: body
  | .classHead _ _ _ | .declaration _ _ _ => []
  | .initialised _ _ _ init => [init]
  | .switch subject arms => subject :: arms
  | .caseArm pattern body _ => pattern :: body
  | .defaultArm body _ => body
  | .ret value | .raise value => [value]
  | .annotated _ inner => [inner]

/-- A construct is another one or stands in it, at any depth. -/
inductive Within : Expr → Expr → Prop where
  | self (expr : Expr) : Within expr expr
  | part {inner part outer : Expr} (isPart : part ∈ parts outer) (inside : Within inner part) :
      Within inner outer

theorem sizeOf_lt_of_mem_parts {expr part : Expr} (isPart : part ∈ parts expr) :
    sizeOf part < sizeOf expr := by
  have listed : ∀ {exprs : List Expr}, part ∈ exprs → sizeOf part < sizeOf exprs :=
    fun member => List.sizeOf_lt_of_mem member
  cases expr with
  | ident | str | getter | classHead | declaration => cases isPart
  | call | block | switch | caseArm =>
    rcases List.mem_cons.1 isPart with rfl | member
    · simp +arith
    · have := listed member
      simp
      omega
  | listLit | mapLit | signature | defaultArm =>
    rw [parts] at isPart
    have := listed isPart
    simp
    omega
  | index | binary | entry | arrow =>
    simp only [parts, List.mem_cons, List.not_mem_nil, or_false] at isPart
    rcases isPart with rfl | rfl
    · simp +arith
    · simp +arith
  | conditional =>
    simp only [parts, List.mem_cons, List.not_mem_nil, or_false] at isPart
    rcases isPart with rfl | rfl | rfl
    · simp +arith
    · simp +arith
    · simp +arith
  | member | bang | paren | spread | lambda | initialised | ret | raise | annotated =>
    obtain rfl := List.mem_singleton.1 isPart
    simp +arith

/-- Induction from the parts of a construct to the construct. -/
theorem induction_on_parts {P : Expr → Prop}
    (step : ∀ expr, (∀ part ∈ parts expr, P part) → P expr) (expr : Expr) : P expr :=
  step expr fun part _ => induction_on_parts step part
termination_by sizeOf expr
decreasing_by exact sizeOf_lt_of_mem_parts ‹_›

theorem everywhere_iff_parts {P : Expr → Prop} {expr : Expr} :
    Everywhere P expr ↔ P expr ∧ ∀ part ∈ parts expr, Everywhere P part := by
  cases expr <;> simp [everywhereAll_iff]

theorem Everywhere.imp {P R : Expr → Prop} (implies : ∀ expr, P expr → R expr) {expr : Expr}
    (holds : Everywhere P expr) : Everywhere R expr := by
  induction expr using induction_on_parts with
  | step expr ih =>
    obtain ⟨here, inside⟩ := everywhere_iff_parts.1 holds
    exact everywhere_iff_parts.2 ⟨implies expr here, fun part isPart =>
      ih part isPart (inside part isPart)⟩

theorem Everywhere.of_within {P : Expr → Prop} {inner outer : Expr} (holds : Everywhere P outer)
    (within : Within inner outer) : Everywhere P inner := by
  induction within with
  | self => exact holds
  | part isPart inside ih => exact ih ((everywhere_iff_parts.1 holds).2 _ isPart)

theorem everywhere_of_forall {P : Expr → Prop} (always : ∀ expr, P expr) (expr : Expr) :
    Everywhere P expr := by
  induction expr using induction_on_parts with
  | step expr ih => exact everywhere_iff_parts.2 ⟨always expr, ih⟩

end Recordsmith.Dart
