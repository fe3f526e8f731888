/-
# Recordsmith.Proofs.Dart.Statement — running the statements of a member

`exec` runs a statement in a scope and gives the scope behind it and how the
statement ended: it finished, it returned a value, or it threw something. The next
statement of a body runs only if the one before it finished.

An assignment to a plain name sets the parameter of that name if the member has
one, and the field otherwise; behind `this.` it always sets the field. A switch
takes the first arm whose label is the subject, or the default arm, which stands
last. An arm that finishes without a `break` runs on into the next one.

Whether a field takes a value of another type than its own is a matter of how the
language checks assignments. A `Host` leaves that open, together with the runtime
and the classes around; an assignment that is refused throws and sets nothing.
-/
import Recordsmith.Proofs.Dart.Program
import Recordsmith.Proofs.Dart.Steps

namespace Recordsmith.Dart

set_option autoImplicit false

variable {Date : Type}

/-- What statements run with. -/
structure Host (Date : Type) where
  runtime : Runtime Date
  callees : Callees Date
  /-- Whether the field of this name takes this value. -/
  admits : String → Value Date → Bool

/-- What a statement throws. -/
inductive Thrown (Date : Type) where
  /-- The error of `ArgumentError.value(args)`. -/
  | argumentError (args : List (Value Date))
  | object (value : Value Date)
  /-- What an expression without a value throws. -/
  | failure (failure : Failure)

/-- How a statement ends. -/
inductive Ending (Date : Type) where
  | finished
  | returned (value : Value Date)
  | threw (thrown : Thrown Date)

/-- The ending of a statement that needs this value. -/
def Ending.after (outcome : Outcome Date) (next : Value Date → Ending Date) : Ending Date :=
  match outcome with
  | .ok value => next value
  | .error failure => .threw (.failure failure)

namespace Scope

/-- Set a field of the object. -/
def assignField (scope : Scope Date) (host : Host Date) (name : String) (value : Value Date) :
    Except Failure (Scope Date) :=
  if name ∈ Lint.reservedWords ∨ scope.fields.lookup name = none then .error (.unbound name)
  else if host.admits name value then
    .ok { scope with fields := putEntry scope.fields (name, value) }
  else .error .typeCheck

/-- `target = value` -/
def assign (scope : Scope Date) (host : Host Date) (target : Expr) (value : Value Date) :
    Except Failure (Scope Date) :=
  match target with
  | .ident name =>
      if scope.params.lookup name = none then scope.assignField host name value
      else .ok { scope with params := putEntry scope.params (name, value) }
  | .member (.ident "this") name false => scope.assignField host name value
  | _ => .error .typeCheck

/-- The arguments of `ArgumentError.value`, unless a field or parameter hides that class. -/
def argumentError? (scope : Scope Date) : Expr → Option (List Expr)
  | .call (.member target "value" false) [] args =>
      if scope.class? target "value" = some "ArgumentError" then some args else none
  | _ => none

end Scope

/-- What `throw operand` throws. -/
def raised (host : Host Date) (scope : Scope Date) (operand : Expr) : Thrown Date :=
  match scope.argumentError? operand with
  | some args =>
      match (runArgs host.runtime host.callees scope args).bind plainArgs with
      | .ok values => .argumentError values
      | .error failure => .failure failure
  | none =>
      match eval host.runtime host.callees scope operand with
      | .ok value => .object value
      | .error failure => .failure failure

/-- Whether a label of a switch is this text. -/
def isLabel (text : String) : Outcome Date → Bool
  | .ok (.str label) => label == text
  | _ => false

mutual

/-- Run a statement. -/
def exec (host : Host Date) (scope : Scope Date) : Expr → Scope Date × Ending Date
  | .ret value => (scope, .after (eval host.runtime host.callees scope value) .returned)
  | .raise operand => (scope, .threw (raised host scope operand))
  | .binary .assignment target value =>
      match (eval host.runtime host.callees scope value).bind (scope.assign host target) with
      | .ok next => (next, .finished)
      | .error failure => (scope, .threw (.failure failure))
  | .switch subject arms =>
      match eval host.runtime host.callees scope subject with
      | .ok (.str text) => execArms host text false scope arms
      | .ok _ => (scope, .threw (.failure .typeCheck))
      | .error failure => (scope, .threw (.failure failure))
  | expr => (scope, .after (eval host.runtime host.callees scope expr) fun _ => .finished)

/-- Run statements one after the other. -/
def execAll (host : Host Date) (scope : Scope Date) : List Expr → Scope Date × Ending Date
  | [] => (scope, .finished)
  | statement :: rest =>
      match exec host scope statement with
      | (next, .finished) => execAll host next rest
      | ended => ended

/-- Run the arms of a switch over a text, from the one on that has been `entered`. -/
def execArms (host : Host Date) (text : String) (entered : Bool) (scope : Scope Date) :
    List Expr → Scope Date × Ending Date
  | [] => (scope, .finished)
  | .caseArm pattern body breaks :: rest =>
      if entered || isLabel text (eval host.runtime host.callees scope pattern) then
        match execAll host scope body with
        | (next, .finished) =>
            if breaks then (next, .finished) else execArms host text true next rest
        | ended => ended
      else execArms host text false scope rest
  | .defaultArm body breaks :: rest =>
      match execAll host scope body with
      | (next, .finished) =>
          if breaks then (next, .finished) else execArms host text true next rest
      | ended => ended
  | _ :: _ => (scope, .threw (.failure .typeCheck))

end

/-! ## Members with statements -/

/-- A member with its statements in braces. -/
structure Procedure where
  name : String
  params : List Expr
  body : List Expr

namespace Expr

/-- A member with its statements in braces. -/
def procedure? : Expr → Option Procedure
  | .block (.signature [] _ name params) body => some ⟨name, params, body⟩
  | .annotated _ inner => procedure? inner
  | _ => none

/-- The first such member of this name. -/
def findProcedure? (type : Expr) (name : String) : Option Procedure :=
  (type.members.filterMap procedure?).find? (·.name == name)

/-- The initial value, if this is a static constant of this name. -/
def constant? (name : String) : Expr → Option Expr
  | .initialised modifiers _ declared init =>
      if modifiers = ["static", "const"] ∧ declared = name then some init else none
  | _ => none

end Expr

namespace Host

/-- Call a member with statements on an object with these fields. The result is the
fields behind the call, and how the call ended. -/
def invoke (host : Host Date) (type : Expr) (name : String)
    (fields : List (String × Value Date)) (args : List (Value Date)) :
    List (String × Value Date) × Ending Date :=
  match type.findProcedure? name with
  | none => (fields, .threw (.failure (.unbound name)))
  | some procedure =>
      match bindParams procedure.params args with
      | .error failure => (fields, .threw (.failure failure))
      | .ok params =>
          let ended := execAll host ⟨params, fields⟩ procedure.body
          (ended.1.fields, ended.2)

/-- The value of a static constant of a class. -/
def constant (host : Host Date) (type : Expr) (name : String) : Outcome Date :=
  match type.members.findSome? (Expr.constant? name) with
  | none => .error (.unbound name)
  | some init => eval host.runtime host.callees ⟨[], []⟩ init

end Host

/-! ## Setting an entry -/

section PutEntry

variable {entries : List (String × Value Date)} {key : String} {value : Value Date}

theorem putEntry_of_mem (known : key ∈ entries.map Prod.fst) :
    putEntry entries (key, value) =
      entries.map fun old => if old.1 = key then (key, value) else old :=
  if_pos known

theorem map_fst_putEntry (known : key ∈ entries.map Prod.fst) :
    (putEntry entries (key, value)).map Prod.fst = entries.map Prod.fst := by
  rw [putEntry_of_mem known, List.map_map]
  apply List.map_congr_left
  intro old _
  rw [Function.comp_apply]
  split
  · next same => exact same.symm
  · rfl

theorem lookup_putEntry_self (known : key ∈ entries.map Prod.fst) :
    (putEntry entries (key, value)).lookup key = some value := by
  rw [putEntry_of_mem known]
  induction entries with
  | nil => simp at known
  | cons first rest ih =>
    rw [List.map_cons, List.lookup_cons]
    by_cases same : first.1 = key
    · simp [same]
    · have later : key ∈ rest.map Prod.fst := by simpa [Ne.symm same] using known
      have passed : (key == first.1) = false := beq_false_of_ne (Ne.symm same)
      rw [if_neg same, passed]
      exact ih later

theorem lookup_putEntry_of_ne {other : String} (known : key ∈ entries.map Prod.fst)
    (different : other ≠ key) :
    (putEntry entries (key, value)).lookup other = entries.lookup other := by
  rw [putEntry_of_mem known]
  clear * - different
  induction entries with
  | nil => rfl
  | cons first rest ih =>
    rw [List.map_cons, List.lookup_cons, List.lookup_cons, ih]
    by_cases same : first.1 = key
    · have passed : (other == key) = false := beq_false_of_ne different
      rw [if_pos same, same, passed]
    · rw [if_neg same]

end PutEntry

/-! ## Steps -/

section Steps

variable {host : Host Date} {scope : Scope Date}

theorem exec_assignment {target value : Expr} {result : Value Date}
    (evaluates : eval host.runtime host.callees scope value = .ok result) :
    exec host scope (.binary .assignment target value) =
      match scope.assign host target result with
      | .ok next => (next, .finished)
      | .error failure => (scope, .threw (.failure failure)) := by
  rw [exec, evaluates]
  rfl

theorem exec_ret {value : Expr} {result : Value Date}
    (evaluates : eval host.runtime host.callees scope value = .ok result) :
    exec host scope (.ret value) = (scope, .returned result) := by
  rw [exec, evaluates]
  rfl

theorem exec_raise (operand : Expr) :
    exec host scope (.raise operand) = (scope, .threw (raised host scope operand)) := by
  rw [exec]

theorem raised_argumentError {args : List Expr} {values : List (Value Date)}
    (visible : scope.lookup? "ArgumentError" = none)
    (argsEq : (runArgs host.runtime host.callees scope args).bind plainArgs = .ok values) :
    raised host scope ((Expr.ident "ArgumentError").method "value" args) =
      .argumentError values := by
  have isClass : scope.class? (.ident "ArgumentError") "value" = some "ArgumentError" := by
    simp [Scope.class?, visible]
  have made : scope.argumentError? ((Expr.ident "ArgumentError").method "value" args) =
      some args :=
    if_pos isClass
  rw [raised, made]
  simp only [argsEq]

theorem exec_switch {subject : Expr} {text : String} (arms : List Expr)
    (evaluates : eval host.runtime host.callees scope subject = .ok (.str text)) :
    exec host scope (.switch subject arms) = execArms host text false scope arms := by
  rw [exec, evaluates]

theorem execAll_one (statement : Expr) :
    execAll host scope [statement] = exec host scope statement := by
  rw [execAll]
  split
  · next next finished => rw [finished, execAll]
  · rfl

/-- A call of a member with one statement ends as the statement does. -/
theorem Host.invoke_eq {type statement : Expr} {name : String} {procedure : Procedure}
    {fields params : List (String × Value Date)} {args : List (Value Date)} {after : Scope Date}
    {ending : Ending Date} (found : type.findProcedure? name = some procedure)
    (body : procedure.body = [statement]) (bound : bindParams procedure.params args = .ok params)
    (ran : exec host ⟨params, fields⟩ statement = (after, ending)) :
    host.invoke type name fields args = (after.fields, ending) := by
  rw [invoke, found]
  simp only [bound, body, execAll_one, ran]

section Arms

variable {α : Type} {label : α → String} {body : α → List Expr} {breaks : Bool} {text : String}

/-- Arms with other labels are passed over. -/
theorem execArms_map_append (items : List α) (others : ∀ item ∈ items, label item ≠ text)
    (rest : List Expr) :
    execArms host text false scope
        (items.map (fun item => .caseArm (.str (label item)) (body item) breaks) ++ rest) =
      execArms host text false scope rest := by
  induction items with
  | nil => rfl
  | cons item later ih =>
    obtain ⟨first, others⟩ := List.forall_mem_cons.1 others
    have passed : isLabel text (eval host.runtime host.callees scope (.str (label item))) = false :=
      beq_false_of_ne first
    rw [List.map_cons, List.cons_append, execArms, passed, ih others]
    rfl

/-- The arm of the text decides how the switch ends, if it does not run on into the
next one. -/
theorem execArms_of_mem {items : List α} {item : α} {after : Scope Date} {ending : Ending Date}
    (distinct : (items.map label).Nodup) (member : item ∈ items)
    (ran : execAll host scope (body item) = (after, ending))
    (leaves : breaks = true ∨ ending ≠ .finished) (rest : List Expr) :
    execArms host (label item) false scope
        (items.map (fun item => .caseArm (.str (label item)) (body item) breaks) ++ rest) =
      (after, ending) := by
  obtain ⟨front, back, rfl⟩ := List.append_of_mem member
  have before : ∀ earlier ∈ front, label earlier ≠ label item := by
    intro earlier inside
    rw [List.map_append, List.nodup_append] at distinct
    exact distinct.2.2 _ (List.mem_map_of_mem inside) _ (by simp)
  have chosen : isLabel (label item)
      (eval host.runtime host.callees scope (.str (label item))) = true :=
    beq_self_eq_true (label item)
  rw [List.map_append, List.append_assoc, execArms_map_append front before, List.map_cons,
    List.cons_append, execArms, chosen, ran]
  -- a `return` or a `throw` leaves the switch by itself; a body that finishes needs the `break`
  cases ending with
  | finished =>
    obtain rfl : breaks = true := leaves.resolve_right fun unfinished => unfinished rfl
    rfl
  | returned value => rfl
  | threw thrown => rfl

end Arms

end Steps

end Recordsmith.Dart
