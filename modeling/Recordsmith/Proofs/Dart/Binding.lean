/-
# Recordsmith.Proofs.Dart.Binding — what the lambdas around a construct bind

`Under bound inner outer` says that `inner` stands in `outer`, and that `bound` are the
parameters of the lambdas of `outer` around that place, outermost first. A name that is
not among them is not bound there: it stands for what it means outside of `outer`.

`Throughout P` says that `P` holds of every construct within one, with the parameters
around it. Its equations follow the constructs, as those of `Everywhere` do, so `simp`
walks down to the parts that are not known.

What generated code may do with names is said by `FreeNames`, `DistinctParams`,
`OwnParams` and `OutsideLambdas`. The last two, and which names are free, follow from
one property of each lambda by itself, `Confined`: its body mentions its own
parameters and a few fixed names, and nothing else outside of nested lambdas.
-/
import Recordsmith.Proofs.Dart.Everywhere

namespace Recordsmith.Dart

set_option autoImplicit false

/-- The names that a construct binds in its parts. -/
@[simp] def binds : Expr → List String
  | .lambda params _ => params
  | _ => []

/-- A construct is another one or stands in it, below lambdas with these parameters. -/
inductive Under : List String → Expr → Expr → Prop where
  | self (expr : Expr) : Under [] expr expr
  | part {bound : List String} {inner part outer : Expr} (isPart : part ∈ parts outer)
      (inside : Under bound inner part) : Under (binds outer ++ bound) inner outer

/-- The property holds of a construct and of all within it, each with the parameters
around it. -/
def Throughout (P : List String → Expr → Prop) (expr : Expr) : Prop :=
  ∀ bound inner, Under bound inner expr → P bound inner

theorem throughout_iff_parts {P : List String → Expr → Prop} {expr : Expr} :
    Throughout P expr ↔
      P [] expr ∧ ∀ part ∈ parts expr, Throughout (fun bound => P (binds expr ++ bound)) part := by
  constructor
  · intro holds
    exact ⟨holds [] expr (.self expr),
      fun part isPart bound inner inside => holds _ inner (.part isPart inside)⟩
  · rintro ⟨here, below⟩ bound inner under
    cases under with
    | self => exact here
    | part isPart inside => exact below _ isPart _ inner inside

/-! ## Equations -/

section Equations

variable {P : List String → Expr → Prop}

@[simp] theorem throughout_ident {name : String} :
    Throughout P (.ident name) ↔ P [] (.ident name) := by
  rw [throughout_iff_parts]
  simp

@[simp] theorem throughout_str {value : String} :
    Throughout P (.str value) ↔ P [] (.str value) := by
  rw [throughout_iff_parts]
  simp

@[simp] theorem throughout_call {callee : Expr} {types : List String} {args : List Expr} :
    Throughout P (.call callee types args) ↔
      P [] (.call callee types args) ∧ Throughout P callee ∧ ∀ arg ∈ args, Throughout P arg := by
  rw [throughout_iff_parts]
  simp

@[simp] theorem throughout_index {target position : Expr} :
    Throughout P (.index target position) ↔
      P [] (.index target position) ∧ Throughout P target ∧ Throughout P position := by
  rw [throughout_iff_parts]
  simp

@[simp] theorem throughout_member {target : Expr} {name : String} {nullSafe : Bool} :
    Throughout P (.member target name nullSafe) ↔
      P [] (.member target name nullSafe) ∧ Throughout P target := by
  rw [throughout_iff_parts]
  simp

@[simp] theorem throughout_bang {operand : Expr} :
    Throughout P (.bang operand) ↔ P [] (.bang operand) ∧ Throughout P operand := by
  rw [throughout_iff_parts]
  simp

@[simp] theorem throughout_binary {op : BinaryOp} {left right : Expr} :
    Throughout P (.binary op left right) ↔
      P [] (.binary op left right) ∧ Throughout P left ∧ Throughout P right := by
  rw [throughout_iff_parts]
  simp

@[simp] theorem throughout_conditional {condition positive negative : Expr} :
    Throughout P (.conditional condition positive negative) ↔
      P [] (.conditional condition positive negative) ∧ Throughout P condition ∧
        Throughout P positive ∧ Throughout P negative := by
  rw [throughout_iff_parts]
  simp

@[simp] theorem throughout_paren {inner : Expr} :
    Throughout P (.paren inner) ↔ P [] (.paren inner) ∧ Throughout P inner := by
  rw [throughout_iff_parts]
  simp

@[simp] theorem throughout_listLit {type : Option String} {items : List Expr} :
    Throughout P (.listLit type items) ↔
      P [] (.listLit type items) ∧ ∀ item ∈ items, Throughout P item := by
  rw [throughout_iff_parts]
  simp

@[simp] theorem throughout_mapLit {types : Option (String × String)} {entries : List Expr} :
    Throughout P (.mapLit types entries) ↔
      P [] (.mapLit types entries) ∧ ∀ entry ∈ entries, Throughout P entry := by
  rw [throughout_iff_parts]
  simp

@[simp] theorem throughout_spread {operand : Expr} :
    Throughout P (.spread operand) ↔ P [] (.spread operand) ∧ Throughout P operand := by
  rw [throughout_iff_parts]
  simp

@[simp] theorem throughout_lambda {params : List String} {body : Expr} :
    Throughout P (.lambda params body) ↔
      P [] (.lambda params body) ∧ Throughout (fun bound => P (params ++ bound)) body := by
  rw [throughout_iff_parts]
  simp

end Equations

/-! ## Names -/

/-- The name stands in a construct where no lambda of the construct binds it. -/
def FreeIn (name : String) (expr : Expr) : Prop :=
  ∃ bound, Under bound (.ident name) expr ∧ name ∉ bound

/-- The name is free in a construct, and of all other names at most these are. -/
def FreeNames (expr : Expr) (name : String) (others : List String) : Prop :=
  FreeIn name expr ∧ ∀ other, FreeIn other expr → other = name ∨ other ∈ others

/-- Along every way into a construct, no parameter is bound twice. -/
def DistinctParams (expr : Expr) : Prop :=
  ∀ bound inner, Under bound inner expr → bound.Nodup

/-- Of the parameters in scope, a lambda uses outside of nested lambdas only its own. -/
def OwnParams (expr : Expr) : Prop :=
  ∀ outer params body, Under outer (.lambda params body) expr →
    ∀ name, Under [] (.ident name) body → name ∈ outer ++ params → name ∈ params

/-- The name stands within no lambda. -/
def OutsideLambdas (name : String) (expr : Expr) : Prop :=
  ∀ bound, Under bound (.ident name) expr → bound = []

/-- If this is a lambda, then outside of nested lambdas its body mentions only its own
parameters and these names. -/
@[simp] def Confined (names : List String) : Expr → Prop
  | .lambda params body => ∀ name, Under [] (.ident name) body → name ∈ params ∨ name ∈ names
  | _ => True

theorem binds_eq_nil_or_lambda (expr : Expr) :
    binds expr = [] ∨ ∃ params body, expr = .lambda params body := by
  cases expr with
  | lambda params body => exact .inr ⟨params, body, rfl⟩
  | _ => exact .inl rfl

/-- A place in a construct is outside of all its lambdas, or it is in the body of a lambda
and in no lambda within that body. -/
theorem Under.eq_nil_or_innermost {bound : List String} {inner outer : Expr}
    (under : Under bound inner outer) :
    bound = [] ∨ ∃ before params body, Under before (.lambda params body) outer ∧
      Under [] inner body ∧ bound = before ++ params := by
  induction under with
  | self expr => exact .inl rfl
  | @part bound inner part outer isPart inside ih =>
    rcases ih with rfl | ⟨before, params, body, around, direct, rfl⟩
    · rcases binds_eq_nil_or_lambda outer with unbound | ⟨params, body, rfl⟩
      · exact .inl (by rw [unbound, List.append_nil])
      · obtain rfl := List.mem_singleton.1 isPart
        exact .inr ⟨[], params, part, .self _, inside, by simp⟩
    · exact .inr ⟨binds outer ++ before, params, body, .part isPart around, direct, by simp⟩

/-- A place outside of the lambdas of a part is outside of those of a whole that binds none. -/
theorem Under.outside {inner part outer : Expr} (isPart : part ∈ parts outer)
    (unbound : binds outer = []) (inside : Under [] inner part) : Under [] inner outer := by
  have placed := Under.part isPart inside
  rwa [unbound] at placed

theorem Everywhere.of_under {P : Expr → Prop} {bound : List String} {inner outer : Expr}
    (holds : Everywhere P outer) (under : Under bound inner outer) : P inner := by
  induction under with
  | self expr => exact (everywhere_iff_parts.1 holds).1
  | part isPart inside ih => exact ih ((everywhere_iff_parts.1 holds).2 _ isPart)

section Confined

variable {expr : Expr} {names : List String}

/-- A name in a lambda is a parameter in scope or one of the fixed names. -/
theorem mem_bound_or_mem_names (confined : Everywhere (Confined names) expr)
    {bound : List String} {name : String} (under : Under bound (.ident name) expr) :
    bound = [] ∨ name ∈ bound ∨ name ∈ names := by
  rcases under.eq_nil_or_innermost with rfl | ⟨before, params, body, around, direct, rfl⟩
  · exact .inl rfl
  · rcases confined.of_under around name direct with own | fixed
    · exact .inr (.inl (List.mem_append_right before own))
    · exact .inr (.inr fixed)

/-- A free name is one of the fixed names or stands outside of all lambdas. -/
theorem FreeIn.surface_or_mem_names (confined : Everywhere (Confined names) expr)
    {name : String} (free : FreeIn name expr) : Under [] (.ident name) expr ∨ name ∈ names := by
  obtain ⟨bound, under, unbound⟩ := free
  rcases mem_bound_or_mem_names confined under with rfl | isBound | fixed
  · exact .inl under
  · exact absurd isBound unbound
  · exact .inr fixed

theorem freeNames_of_confined {name : String} (confined : Everywhere (Confined names) expr)
    (stands : Under [] (.ident name) expr)
    (surface : ∀ other, Under [] (.ident other) expr → other = name ∨ other ∈ names) :
    FreeNames expr name names := by
  refine ⟨⟨[], stands, List.not_mem_nil⟩, fun other free => ?_⟩
  rcases free.surface_or_mem_names confined with outside | fixed
  · exact surface other outside
  · exact .inr fixed

variable {params : List String} (bounds : ∀ bound inner, Under bound inner expr → bound ⊆ params)

include bounds

theorem ownParams_of_confined (confined : Everywhere (Confined names) expr)
    (apart : ∀ name ∈ names, name ∉ params) : OwnParams expr := by
  intro outer own body around name direct bound
  rcases List.mem_append.1 bound with isOuter | isOwn
  · rcases confined.of_under around name direct with isOwn | fixed
    · exact isOwn
    · exact absurd (bounds _ _ around isOuter) (apart name fixed)
  · exact isOwn

theorem outsideLambdas_of_confined {name : String} (confined : Everywhere (Confined names) expr)
    (notFixed : name ∉ names) (notParam : name ∉ params) : OutsideLambdas name expr := by
  intro bound under
  rcases mem_bound_or_mem_names confined under with outside | isBound | fixed
  · exact outside
  · exact absurd (bounds _ _ under isBound) notParam
  · exact absurd fixed notFixed

end Confined

end Recordsmith.Dart
