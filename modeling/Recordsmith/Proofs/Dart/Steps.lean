/-
# Recordsmith.Proofs.Dart.Steps — the forms of generated code, one by one

For each form that generated code is made of, what it evaluates to if its parts
evaluate to something. The proofs about whole members cite these and never open
`run`.

`Reads` is the judgement they start from: the expression has a value, its chain is
not skipped, and a member behind it is a member of this value and no function of a
class. Field references, lambda parameters, `raw['name']` and casts are of this kind.
-/
import Recordsmith.Class.Member
import Recordsmith.Proofs.Dart.Eval

namespace Recordsmith.Dart

open Recordsmith.Member

set_option autoImplicit false

variable {Date : Type} {rt : Runtime Date} {calls : Callees Date} {scope : Scope Date}

/-! ## Values and their run-time types -/

@[simp] theorem Runtime.equal_null (value : Value Date) :
    rt.equal value .null = value.isNull := by
  cases value <;> rfl

/-- A bare `List` is the text of no type of a field. -/
theorem parse_list_ne_ok (tree : TypeExpr) : TypeExpr.parse "List" ≠ .ok tree := by
  have head : TypeExpr.splitHead (TypeExpr.splitNullMark (Text.trim "List".toList)).1
      (Text.trim "List".toList) = .ok ("List".toList, none) := by
    decide
  intro read
  obtain ⟨name, -, ⟨split, named⟩ | ⟨inner, -, -, split, -⟩⟩ :=
    TypeExpr.parseChars_eq_ok_iff.1 read
  · rw [head] at split
    cases split
    exact (TypeExpr.bare_eq_ok_iff.1 named).1 (by decide)
  · rw [head] at split
    cases split

theorem typeOf?_list :
    Value.typeOf? "List" = some (.list (.scalar Builtin.dynamic.name false) false) := by
  rw [Value.typeOf?]
  split
  · next tree read => exact absurd read (parse_list_ne_ok tree)
  · rfl

theorem isOf_list (items : List (Value Date)) : (Value.list items).isOf "List" = true := by
  rw [Value.isOf, typeOf?_list]
  simp only [Value.fits, Bool.false_and, Bool.false_or, List.all_eq_true]
  intro item _
  cases item <;> rfl

/-- The name of a builtin type in the code stands for that type. -/
theorem isOf_builtin (builtin : Builtin) (value : Value Date) :
    value.isOf builtin.name = value.ofBuiltin builtin := by
  have formed : (TypeExpr.scalar builtin.name false).WellFormed := by
    cases builtin <;> exact .scalar (by decide) (by decide) (by decide)
  have named : Builtin.ofName? builtin.name = some builtin := by
    cases builtin <;> decide
  have spelled : (TypeExpr.scalar builtin.name false).render = builtin.name := by
    cases builtin <;> decide
  have fits := Value.isOf_render formed value
  rw [spelled] at fits
  rw [fits, Value.fits, named]
  rfl

theorem checkItems_render {type : TypeExpr} {items : List (Value Date)}
    (formed : type.WellFormed) (each : ∀ item ∈ items, item.fits type = true) :
    checkItems [type.render] items = .ok items := by
  have all : items.all (Value.isOf type.render) = true := by
    rw [List.all_eq_true]
    intro item member
    rw [Value.isOf_render formed]
    exact each item member
  rw [checkItems, if_pos all]

theorem checkEntries_render {key type : TypeExpr} {entries : List (String × Value Date)}
    (keyFormed : key.WellFormed) (formed : type.WellFormed)
    (keys : ∀ text, (Value.str text : Value Date).fits key = true)
    (each : ∀ entry ∈ entries, entry.2.fits type = true) :
    checkEntries [key.render, type.render] entries = .ok entries := by
  have all : (entries.all fun entry =>
      Value.isOf key.render (.str entry.1 : Value Date) && entry.2.isOf type.render) = true := by
    rw [List.all_eq_true]
    intro entry member
    rw [Value.isOf_render keyFormed, Value.isOf_render formed, keys, each entry member]
    rfl
  rw [checkEntries, if_pos all]

/-! ## Lists of entries -/

theorem lookup_of_mem {entries : List (String × Value Date)} {key : String} {value : Value Date}
    (distinct : (entries.map Prod.fst).Nodup) (member : (key, value) ∈ entries) :
    entries.lookup key = some value := by
  obtain ⟨front, back, rfl⟩ := List.append_of_mem member
  rw [List.lookup_eq_some_iff]
  refine ⟨front, back, rfl, ?_⟩
  intro earlier inside
  rw [List.map_append, List.nodup_append] at distinct
  rw [bne_iff_ne]
  exact (distinct.2.2 earlier.1 (List.mem_map_of_mem inside) key (by simp)).symm

theorem lookup_eq_none_iff_not_mem {entries : List (String × Value Date)} {key : String} :
    entries.lookup key = none ↔ key ∉ entries.map Prod.fst := by
  rw [List.lookup_eq_none_iff, List.mem_map, not_exists]
  apply forall_congr'
  intro entry
  rw [not_and, bne_iff_ne, ne_comm]

theorem foldl_putEntry (front entries : List (String × Value Date))
    (distinct : ((front ++ entries).map Prod.fst).Nodup) :
    entries.foldl putEntry front = front ++ entries := by
  induction entries generalizing front with
  | nil => simp
  | cons entry rest ih =>
    have fresh : entry.1 ∉ front.map Prod.fst := by
      rw [List.map_append, List.nodup_append] at distinct
      intro taken
      exact distinct.2.2 _ taken _ (by simp) rfl
    rw [List.foldl_cons, putEntry, if_neg fresh, ih _ (by simpa using distinct)]
    simp

theorem mapOf_of_nodup {entries : List (String × Value Date)}
    (distinct : (entries.map Prod.fst).Nodup) : mapOf entries = .map entries := by
  rw [mapOf, foldl_putEntry [] entries (by simpa using distinct), List.nil_append]

theorem bind_eq_ok_iff {α β : Type} {result : Except Failure α} {next : α → Except Failure β}
    {value : β} :
    result.bind next = .ok value ↔ ∃ given, result = .ok given ∧ next given = .ok value := by
  cases result with
  | error failure => simp [Except.bind]
  | ok given => simp [Except.bind]

theorem mapM_map_eq_ok {α β γ : Type} {f : β → Except Failure γ} {source : α → β}
    {target : α → γ} (items : List α) (each : ∀ item ∈ items, f (source item) = .ok (target item)) :
    (items.map source).mapM f = .ok (items.map target) := by
  induction items with
  | nil => rfl
  | cons item rest ih =>
    have first := each item (by simp)
    have others := ih fun later member => each later (by simp [member])
    simp only [List.map_cons, List.mapM_cons, first, others]
    rfl

/-! ## Expressions that are read -/

/-- The expression has this value, and a member behind it belongs to the value. -/
structure Reads (rt : Runtime Date) (calls : Callees Date) (scope : Scope Date) (expr : Expr)
    (value : Value Date) : Prop where
  run_eq : run rt calls scope expr = .ok (some value)
  noClass : ∀ function, function ∉ Scope.hashFunctions → scope.class? expr function = none

theorem eval_of_run {expr : Expr} {value : Value Date}
    (result : run rt calls scope expr = .ok (some value)) :
    eval rt calls scope expr = .ok value := by
  rw [eval, result]
  rfl

theorem eval_of_run_error {expr : Expr} {failure : Failure}
    (result : run rt calls scope expr = .error failure) :
    eval rt calls scope expr = .error failure := by
  rw [eval, result]
  rfl

theorem Reads.eval_eq {expr : Expr} {value : Value Date} (reads : Reads rt calls scope expr value) :
    eval rt calls scope expr = .ok value :=
  eval_of_run reads.run_eq

theorem Reads.ident {name : String} {value : Value Date} (found : scope.lookup? name = some value)
    (notNull : name ≠ "null") : Reads rt calls scope (.ident name) value where
  run_eq := by rw [run_ident, Scope.read, if_neg notNull, found]; rfl
  noClass function plain := by simp [Scope.class?, plain, found]

theorem Reads.index {target : Expr} {entries : List (String × Value Date)}
    (reads : Reads rt calls scope target (.map entries)) (key : String) :
    Reads rt calls scope (.index target (.str key)) ((entries.lookup key).getD .null) where
  run_eq := by rw [run_index, reads.run_eq]; rfl
  noClass _ _ := rfl

theorem Reads.cast {operand : Expr} {type : String} {value : Value Date}
    (operandEq : eval rt calls scope operand = .ok value) (checked : value.isOf type = true) :
    Reads rt calls scope (operand.cast type) value where
  run_eq := by
    rw [Expr.cast, run_paren, eval, run_asType, operandEq]
    simp [Except.bind, checked, settle, Except.map]
  noClass _ _ := rfl

theorem run_cast_error {operand : Expr} {type : String} {value : Value Date}
    (operandEq : eval rt calls scope operand = .ok value) (refused : value.isOf type = false) :
    run rt calls scope (operand.cast type) = .error .typeCheck := by
  rw [Expr.cast, run_paren, eval, run_asType, operandEq]
  simp [Except.bind, refused, settle, Except.map]

/-! ## Operators and literals -/

theorem settle_map_some (result : Outcome Date) : settle (result.map some) = result := by
  cases result <;> rfl

theorem eval_null : eval rt calls scope Expr.null = .ok .null := by
  rfl

theorem eval_isNull {operand : Expr} {value : Value Date}
    (operandEq : eval rt calls scope operand = .ok value) :
    eval rt calls scope operand.isNull = .ok (.bool value.isNull) := by
  rw [eval, Expr.isNull, run_equals, operandEq, eval_null]
  simp [Except.bind, Except.map, settle]

theorem eval_conditional {condition positive negative : Expr} {truth : Bool}
    (test : eval rt calls scope condition = .ok (.bool truth)) :
    eval rt calls scope (.conditional condition positive negative) =
      if truth then eval rt calls scope positive else eval rt calls scope negative := by
  rw [eval, run_conditional, test]
  cases truth with
  | true => exact settle_map_some _
  | false => exact settle_map_some _

/-- The guard of a nullable value. -/
theorem eval_unlessNull {value : Value Date} {operand expr : Expr} {nullable : Bool}
    (operandEq : eval rt calls scope operand = .ok value) :
    eval rt calls scope (unlessNull nullable operand expr) =
      if nullable && value.isNull then .ok .null else eval rt calls scope expr := by
  cases nullable with
  | false => rfl
  | true =>
    rw [unlessNull, if_pos rfl, eval_conditional (eval_isNull operandEq), eval_null]
    rfl

theorem eval_bang {operand : Expr} {value : Value Date}
    (reads : Reads rt calls scope operand value) (present : value ≠ .null) :
    eval rt calls scope (.bang operand) = .ok value := by
  have checked : value.isNull = false := Value.isNull_eq_false.2 present
  rw [eval, run_bang, reads.run_eq]
  simp [link, checked, settle, Except.map]

theorem run_listLit_spread {operand : Expr} {type : TypeExpr} {items : List (Value Date)}
    (operandEq : eval rt calls scope operand = .ok (.list items)) (formed : type.WellFormed)
    (each : ∀ item ∈ items, item.fits type = true) :
    run rt calls scope (.listLit (some type.render) [.spread operand]) =
      .ok (some (.list items)) := by
  have elements : runItems rt calls scope [.spread operand] = .ok items := by
    rw [runItems_spread, operandEq]
    change Except.ok (items ++ []) = _
    rw [List.append_nil]
  rw [run_listLit, elements]
  simp [Except.bind, Except.map, checkItems_render formed each]

theorem run_mapLit_spread {operand : Expr} {key type : TypeExpr}
    {entries : List (String × Value Date)}
    (operandEq : eval rt calls scope operand = .ok (.map entries))
    (distinct : (entries.map Prod.fst).Nodup) (keyFormed : key.WellFormed)
    (formed : type.WellFormed) (keys : ∀ text, (Value.str text : Value Date).fits key = true)
    (each : ∀ entry ∈ entries, entry.2.fits type = true) :
    run rt calls scope (.mapLit (some (key.render, type.render)) [.spread operand]) =
      .ok (some (.map entries)) := by
  have read : runEntries rt calls scope [.spread operand] = .ok entries := by
    rw [runEntries_spread, operandEq]
    change Except.ok (entries ++ []) = _
    rw [List.append_nil]
  rw [run_mapLit, read]
  simp [Except.bind, Except.map, checkEntries_render keyFormed formed keys each,
    mapOf_of_nodup distinct]

theorem runEntries_map {α : Type} {name : α → String} {expr : α → Expr} {value : α → Value Date}
    (slots : List α) (each : ∀ slot ∈ slots, eval rt calls scope (expr slot) = .ok (value slot)) :
    runEntries rt calls scope (slots.map fun slot => .entry (.str (name slot)) (expr slot)) =
      .ok (slots.map fun slot => (name slot, value slot)) := by
  induction slots with
  | nil => rfl
  | cons slot rest ih =>
    rw [List.map_cons, runEntries_entry, each slot (by simp),
      ih fun later member => each later (by simp [member])]
    rfl

theorem runItems_map {α : Type} {expr : α → Expr} {value : α → Value Date}
    (slots : List α) (each : ∀ slot ∈ slots, eval rt calls scope (expr slot) = .ok (value slot)) :
    runItems rt calls scope (slots.map expr) = .ok (slots.map value) := by
  induction slots with
  | nil => rfl
  | cons slot rest ih =>
    have first := each slot (by simp)
    have others := ih fun later member => each later (by simp [member])
    have direct : ∀ item : Expr, (∀ operand, item ≠ .spread operand) →
        runItems rt calls scope (item :: rest.map expr) =
          (eval rt calls scope item).bind fun value =>
            (runItems rt calls scope (rest.map expr)).map (value :: ·) := by
      intro item notSpread
      cases item with
      | spread operand => exact absurd rfl (notSpread operand)
      | _ => rfl
    have notSpread : ∀ operand, expr slot ≠ .spread operand := by
      intro operand shape
      rw [shape] at first
      cases first
    rw [List.map_cons, direct _ notSpread, first, others]
    rfl

/-! ## Arguments and calls -/

theorem runArgs_cons_of_not_lambda {expr : Expr}
    (notLambda : ∀ params body, expr ≠ .lambda params body) (rest : List Expr) :
    runArgs rt calls scope (expr :: rest) =
      (eval rt calls scope expr).bind fun value =>
        (runArgs rt calls scope rest).map fun args => .value value :: args := by
  cases expr with
  | lambda params body => exact absurd rfl (notLambda params body)
  | _ => rfl

theorem runArgs_cons {expr : Expr} {value : Value Date} {rest : List Expr} {args : List (Arg Date)}
    (first : eval rt calls scope expr = .ok value)
    (others : runArgs rt calls scope rest = .ok args) :
    runArgs rt calls scope (expr :: rest) = .ok (.value value :: args) := by
  have notLambda : ∀ params body, expr ≠ .lambda params body := by
    rintro params body rfl
    cases first
  rw [runArgs_cons_of_not_lambda notLambda, first, others]
  rfl

theorem plainArgs_runArgs_map {α : Type} {expr : α → Expr} {value : α → Value Date}
    (slots : List α) (each : ∀ slot ∈ slots, eval rt calls scope (expr slot) = .ok (value slot)) :
    (runArgs rt calls scope (slots.map expr)).bind plainArgs = .ok (slots.map value) := by
  have plain : ∀ values : List (Value Date), plainArgs (values.map .value) = .ok values := by
    intro values
    induction values with
    | nil => rfl
    | cons value rest ih => rw [List.map_cons, plainArgs, ih]; rfl
  have args : runArgs rt calls scope (slots.map expr) = .ok ((slots.map value).map .value) := by
    induction slots with
    | nil => rfl
    | cons slot rest ih =>
      have others := ih fun later member => each later (by simp [member])
      exact runArgs_cons (each slot (by simp)) others
  rw [args]
  exact plain _

/-- An argument alone. A lambda has no value, and is no plain argument. -/
theorem plainArgs_runArgs_singleton (expr : Expr) :
    (runArgs rt calls scope [expr]).bind plainArgs = (eval rt calls scope expr).map ([·]) := by
  by_cases isLambda : ∃ params body, expr = .lambda params body
  · obtain ⟨params, body, rfl⟩ := isLambda
    rfl
  · rw [runArgs_cons_of_not_lambda fun params body shape => isLambda ⟨params, body, shape⟩]
    cases eval rt calls scope expr <;> rfl

theorem plainArgs_runArgs_of_ok {expr : Expr} {value : Value Date}
    (first : eval rt calls scope expr = .ok value) (rest : List Expr) :
    (runArgs rt calls scope (expr :: rest)).bind plainArgs =
      ((runArgs rt calls scope rest).bind plainArgs).map (value :: ·) := by
  cases others : runArgs rt calls scope rest with
  | ok args => rw [runArgs_cons first others]; rfl
  | error failure =>
    rw [runArgs_cons_of_not_lambda (by rintro params body rfl; cases first), first, others]
    rfl

theorem plainArgs_runArgs_one {expr : Expr} {value : Value Date}
    (exprEq : eval rt calls scope expr = .ok value) :
    (runArgs rt calls scope [expr]).bind plainArgs = .ok [value] := by
  rw [runArgs_cons exprEq rfl]
  rfl

theorem plainArgs_runArgs_two {first second : Expr} {value other : Value Date}
    (firstEq : eval rt calls scope first = .ok value)
    (secondEq : eval rt calls scope second = .ok other) :
    (runArgs rt calls scope [first, second]).bind plainArgs = .ok [value, other] := by
  rw [runArgs_cons firstEq (runArgs_cons secondEq rfl)]
  rfl

theorem runArgs_lambda (params : List String) (body : Expr) :
    runArgs rt calls scope [.lambda params body] =
      .ok [.function fun values =>
        if values.length = params.length then eval rt calls (scope.enter params values) body
        else .error .typeCheck] := by
  rfl

/-- A method call on a value that is read. -/
theorem Reads.run_method {target : Expr} {value : Value Date} {name : String} {nullSafe : Bool}
    {types : List String} {exprs : List Expr} {args : List (Arg Date)}
    (reads : Reads rt calls scope target value) (plain : name ∉ Scope.hashFunctions)
    (argsEq : runArgs rt calls scope exprs = .ok args) :
    run rt calls scope (.call (.member target name nullSafe) types exprs) =
      if nullSafe && value.isNull then .ok none
      else (callMethod rt calls name types args value).map some := by
  rw [run_call_member, reads.noClass name plain, reads.run_eq, argsEq]
  rfl

/-- A method is not called if its target throws. -/
theorem run_method_error {target : Expr} {name : String} {nullSafe : Bool} {types : List String}
    {exprs : List Expr} {failure : Failure} (noClass : scope.class? target name = none)
    (targetEq : run rt calls scope target = .error failure) :
    run rt calls scope (.call (.member target name nullSafe) types exprs) = .error failure := by
  rw [run_call_member, noClass, targetEq]
  rfl

theorem callMethod_null (name : String) (types : List String) (args : List (Arg Date)) :
    callMethod rt calls name types args .null = .error .nullCheck := by
  rw [callMethod]

/-- Null has no methods. -/
theorem Reads.run_method_null {target : Expr} {name : String} {types : List String}
    {exprs : List Expr} {args : List (Arg Date)} (reads : Reads rt calls scope target .null)
    (plain : name ∉ Scope.hashFunctions) (argsEq : runArgs rt calls scope exprs = .ok args) :
    run rt calls scope (.call (.member target name false) types exprs) = .error .nullCheck := by
  rw [reads.run_method plain argsEq, callMethod_null]
  rfl

/-- A method call on a value that is not null. -/
theorem Reads.eval_method {target : Expr} {value : Value Date} {name : String} {nullSafe : Bool}
    {types : List String} {exprs : List Expr} {args : List (Arg Date)}
    (reads : Reads rt calls scope target value) (present : value.isNull = false)
    (plain : name ∉ Scope.hashFunctions) (argsEq : runArgs rt calls scope exprs = .ok args) :
    eval rt calls scope (.call (.member target name nullSafe) types exprs) =
      callMethod rt calls name types args value := by
  rw [eval, reads.run_method plain argsEq, present, Bool.and_false, if_neg Bool.false_ne_true,
    settle_map_some]

/-- A call of a function of a class. -/
theorem eval_static {type name : String} {nullSafe : Bool} {types : List String}
    {exprs : List Expr} {values : List (Value Date)}
    (visible : scope.class? (.ident type) name = some type)
    (argsEq : (runArgs rt calls scope exprs).bind plainArgs = .ok values) :
    eval rt calls scope (.call (.member (.ident type) name nullSafe) types exprs) =
      callStatic rt calls type name values := by
  rw [eval, run_call_member, visible, argsEq]
  exact settle_map_some _

theorem eval_call_ident (name : String) (types : List String) (exprs : List Expr) :
    eval rt calls scope (.call (.ident name) types exprs) =
      ((runArgs rt calls scope exprs).bind plainArgs).bind (callFunction rt calls scope name) := by
  rw [eval, run_call_ident]
  exact settle_map_some _

theorem eval_function {name : String} {types : List String} {exprs : List Expr}
    {values : List (Value Date)}
    (argsEq : (runArgs rt calls scope exprs).bind plainArgs = .ok values) :
    eval rt calls scope (.call (.ident name) types exprs) =
      callFunction rt calls scope name values := by
  rw [eval_call_ident, argsEq]
  rfl

/-- `map` over a list applies the lambda to the elements. -/
theorem Reads.run_map_items {target body : Expr} {nullSafe : Bool} {types : List String}
    {param : String} {items : List (Value Date)}
    (reads : Reads rt calls scope target (.list items)) :
    run rt calls scope (.call (.member target "map" nullSafe) types [.lambda [param] body]) =
      (((items.mapM (m := Except Failure) fun item =>
        eval rt calls (scope.enter [param] [item]) body).bind (checkItems types)).map
          .iterable).map some := by
  rw [reads.run_method (by decide) (runArgs_lambda [param] body), callMethod_map_list]
  simp only [Value.isNull, Bool.and_false, Bool.false_eq_true, if_false, List.length_cons,
    List.length_nil, if_true]

/-- `map` over a map applies the lambda to the keys and values. -/
theorem Reads.run_map_pairs {target body : Expr} {nullSafe : Bool} {types : List String}
    {keyParam valueParam : String} {entries : List (String × Value Date)}
    (reads : Reads rt calls scope target (.map entries)) :
    run rt calls scope
        (.call (.member target "map" nullSafe) types [.lambda [keyParam, valueParam] body]) =
      (((entries.mapM (m := Except Failure) fun entry =>
        (eval rt calls (scope.enter [keyParam, valueParam] [.str entry.1, entry.2]) body).bind
          asEntry).bind (checkEntries types)).map mapOf).map some := by
  rw [reads.run_method (by decide) (runArgs_lambda [keyParam, valueParam] body),
    callMethod_map_entries]
  simp only [Value.isNull, Bool.and_false, Bool.false_eq_true, if_false, List.length_cons,
    List.length_nil, if_true]

/-- `map` over a list of `source` values whose elements the lambda takes to `result`. -/
theorem Reads.run_map_list {α : Type} {source result : α → Value Date} {target body : Expr}
    {nullSafe : Bool} {types : List String} {param : String} (slots : List α)
    (reads : Reads rt calls scope target (.list (slots.map source)))
    (each : ∀ slot ∈ slots,
      eval rt calls (scope.enter [param] [source slot]) body = .ok (result slot))
    (checked : checkItems types (slots.map result) = .ok (slots.map result)) :
    run rt calls scope (.call (.member target "map" nullSafe) types [.lambda [param] body]) =
      .ok (some (.iterable (slots.map result))) := by
  have mapped : (slots.map source).mapM (m := Except Failure)
      (fun item => eval rt calls (scope.enter [param] [item]) body) = .ok (slots.map result) :=
    mapM_map_eq_ok slots each
  rw [reads.run_map_items, mapped]
  simp only [Except.bind, checked, Except.map]

/-- `map` over a map whose values the lambda takes from `source` to `result`. -/
theorem Reads.run_map_entries {α : Type} {name : α → String} {source result : α → Value Date}
    {target body : Expr} {nullSafe : Bool} {types : List String} {keyParam valueParam : String}
    (slots : List α)
    (reads : Reads rt calls scope target (.map (slots.map fun slot => (name slot, source slot))))
    (distinct : (slots.map name).Nodup)
    (each : ∀ slot ∈ slots,
      eval rt calls (scope.enter [keyParam, valueParam] [.str (name slot), source slot]) body =
        .ok (.entry (name slot) (result slot)))
    (checked : checkEntries types (slots.map fun slot => (name slot, result slot)) =
      .ok (slots.map fun slot => (name slot, result slot))) :
    run rt calls scope
        (.call (.member target "map" nullSafe) types [.lambda [keyParam, valueParam] body]) =
      .ok (some (.map (slots.map fun slot => (name slot, result slot)))) := by
  have mapped : (slots.map fun slot => (name slot, source slot)).mapM (m := Except Failure)
      (fun entry => (eval rt calls
        (scope.enter [keyParam, valueParam] [.str entry.1, entry.2]) body).bind asEntry) =
      .ok (slots.map fun slot => (name slot, result slot)) := by
    apply mapM_map_eq_ok
    intro slot member
    rw [each slot member]
    rfl
  have keys : ((slots.map fun slot => (name slot, result slot)).map Prod.fst).Nodup := by
    simpa [Function.comp_def] using distinct
  rw [reads.run_map_pairs, mapped]
  simp only [Except.bind, checked, Except.map, mapOf_of_nodup keys]

theorem eval_toList_map {target : Expr} {items : Except Failure (List (Value Date))}
    (noClass : scope.class? target "toList" = none)
    (targetEq : run rt calls scope target = (items.map .iterable).map some) :
    eval rt calls scope (target.method "toList" []) = items.map .list := by
  rw [eval, Expr.method, Expr.invoke, Expr.dot, run_call_member, noClass, targetEq]
  cases items <;> rfl

theorem eval_toList {target : Expr} {items : List (Value Date)}
    (noClass : scope.class? target "toList" = none)
    (targetEq : run rt calls scope target = .ok (some (.iterable items))) :
    eval rt calls scope (target.method "toList" []) = .ok (.list items) :=
  eval_toList_map noClass (show _ = ((Except.ok items).map _).map some from targetEq)

end Recordsmith.Dart
