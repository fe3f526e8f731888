/-
# Recordsmith.Proofs.Dart.Eval — the value of an expression

`run` evaluates the expressions of generated code. A name is looked up among the
parameters of the lambdas and the member around it, innermost first, and then
among the fields of the object; a name that stands for none of them is the name
of a class or of a function. So a field hides a class of its name. Only the
helpers `Object`, `listEquals` and `mapEquals` are never hidden; a call of
`MapEntry` with a string and a value makes an entry. A factory has no object,
hence no fields.

A chain of members that starts with `?.` on `null` is skipped as a whole: `run`
gives `none` for it, and `settle` turns that into `null` where the chain ends.

Calls into generated classes, the own one included, go through `Callees`. The
recursion is therefore on the expression alone, and what is assumed of other
classes can be said about the callees. What `run` does with each form is said once
more as an equation, so that proofs rewrite by the form they are at.
-/
import Recordsmith.Dart.Expr
import Recordsmith.Lint
import Recordsmith.Proofs.Dart.Value

namespace Recordsmith.Dart

set_option autoImplicit false

variable {Date : Type}

/-- What the names in the body of a member stand for. -/
structure Scope (Date : Type) where
  params : List (String × Value Date)
  fields : List (String × Value Date)

namespace Scope

/-- The parameter or field of this name. -/
def lookup? (scope : Scope Date) (name : String) : Option (Value Date) :=
  (scope.params.lookup name).or (scope.fields.lookup name)

/-- The scope within a lambda. -/
def enter (scope : Scope Date) (params : List String) (args : List (Value Date)) : Scope Date :=
  { scope with params := params.zip args ++ scope.params }

/-- The value of a name or literal. -/
def read (scope : Scope Date) (name : String) : Outcome Date :=
  if name = "null" then .ok .null
  else
    match scope.lookup? name with
    | some value => .ok value
    | none => if name = "0" then .ok (.int 0) else .error (.unbound name)

/-- The field behind `this.` or behind a parameter, whose class is known. -/
def ownField? (scope : Scope Date) (target : Expr) (name : String) : Option (Value Date) :=
  match target with
  | .ident "this" => scope.fields.lookup name
  | .ident param =>
      match scope.params.lookup param with
      | some (.object _ fields) => fields.lookup name
      | _ => none
  | _ => none

/-- The functions of `Object` that hash codes are made with. -/
def hashFunctions : List String := ["hash", "hashAll", "hashAllUnordered"]

/-- The class that a function is called on. -/
def class? (scope : Scope Date) (target : Expr) (function : String) : Option String :=
  match target with
  | .ident type =>
      if (type = "Object" ∧ function ∈ hashFunctions) ∨ scope.lookup? type = none then some type
      else none
  | _ => none

end Scope

/-- An argument of a call. -/
inductive Arg (Date : Type) where
  | value (value : Value Date)
  | function (body : List (Value Date) → Outcome Date)

/-- The members of generated classes. -/
structure Callees (Date : Type) where
  /-- `type.name(arg)` -/
  factory (type name : String) (arg : Value Date) : Outcome Date
  /-- `self.name()` -/
  method (name : String) (self : Value Date) : Outcome Date
  /-- `type(args)` -/
  construct (type : String) (args : List (Value Date)) : Outcome Date

/-! ## Operations on values -/

/-- The arguments of a call without lambdas. -/
def plainArgs : List (Arg Date) → Except Failure (List (Value Date))
  | [] => .ok []
  | .value value :: rest => (plainArgs rest).map (value :: ·)
  | .function _ :: _ => .error .typeCheck

/-- Elements of the type in the code, if there is one. -/
def checkItems (types : List String) (items : List (Value Date)) :
    Except Failure (List (Value Date)) :=
  match types with
  | [] => .ok items
  | [type] => if items.all (Value.isOf type) then .ok items else .error .typeCheck
  | _ => .error .typeCheck

/-- Entries of the types in the code, if there are any. -/
def checkEntries (types : List String) (entries : List (String × Value Date)) :
    Except Failure (List (String × Value Date)) :=
  match types with
  | [] => .ok entries
  | [key, type] =>
      if entries.all fun entry => Value.isOf key (.str entry.1 : Value Date) && entry.2.isOf type
      then .ok entries else .error .typeCheck
  | _ => .error .typeCheck

/-- Set a key of a map, at its place if it has one. -/
def putEntry (entries : List (String × Value Date)) (entry : String × Value Date) :
    List (String × Value Date) :=
  if entry.1 ∈ entries.map Prod.fst then
    entries.map fun old => if old.1 = entry.1 then entry else old
  else entries ++ [entry]

/-- The map with these entries; of two with one key the later counts. -/
def mapOf (entries : List (String × Value Date)) : Value Date :=
  .map (entries.foldl putEntry [])

/-- The entry that a lambda over a map gives. -/
def asEntry : Value Date → Except Failure (String × Value Date)
  | .entry key value => .ok (key, value)
  | _ => .error .typeCheck

/-- `listEquals` of the support file. -/
def listEquals (rt : Runtime Date) (left right : Value Date) : Outcome Date :=
  if rt.isIdentical left right then .ok (.bool true)
  else
    match left, right with
    | .list xs, .list ys =>
        .ok (.bool (xs.length == ys.length && (xs.zip ys).all fun (x, y) => rt.equal x y))
    | .null, .list _ => .ok (.bool false)
    | .list _, .null => .ok (.bool false)
    | _, _ => .error .typeCheck

/-- `mapEquals` of the support file. -/
def mapEquals (rt : Runtime Date) (left right : Value Date) : Outcome Date :=
  if rt.isIdentical left right then .ok (.bool true)
  else
    match left, right with
    | .map xs, .map ys =>
        .ok (.bool (xs.length == ys.length && xs.all fun (key, x) =>
          match ys.lookup key with
          | some y => rt.equal x y
          | none => false))
    | .null, .map _ => .ok (.bool false)
    | .map _, .null => .ok (.bool false)
    | _, _ => .error .typeCheck

/-- `target[position]` -/
def itemAt (target position : Value Date) : Outcome Date :=
  match target, position with
  | .map entries, .str key => .ok ((entries.lookup key).getD .null)
  | .null, _ => .error .nullCheck
  | _, _ => .error .typeCheck

/-- A member without arguments. -/
def getter (rt : Runtime Date) (name : String) (target : Value Date) : Outcome Date :=
  match name, target with
  | "hashCode", value => .ok (.int (rt.hashCode value))
  | "entries", .map entries => .ok (.iterable (entries.map fun entry => .entry entry.1 entry.2))
  | "key", .entry key _ => .ok (.str key)
  | "value", .entry _ value => .ok value
  | _, .null => .error .nullCheck
  | name, _ => .error (.unbound name)

/-- A method call. -/
def callMethod (rt : Runtime Date) (calls : Callees Date) (name : String)
    (types : List String) (args : List (Arg Date)) (target : Value Date) : Outcome Date :=
  match name, args, target with
  | "map", [.function body], .list items =>
      ((items.mapM (m := Except Failure) fun item => body [item]).bind
        (checkItems types)).map .iterable
  | "map", [.function body], .iterable items =>
      ((items.mapM (m := Except Failure) fun item => body [item]).bind
        (checkItems types)).map .iterable
  | "map", [.function body], .map entries =>
      ((entries.mapM (m := Except Failure) fun entry =>
        (body [.str entry.1, entry.2]).bind asEntry).bind (checkEntries types)).map mapOf
  | "toList", [], .iterable items => .ok (.list items)
  | "toIso8601String", [], .date moment => .ok (.str (rt.iso moment))
  | name, [], .object type fields => calls.method name (.object type fields)
  | _, _, .null => .error .nullCheck
  | name, _, _ => .error (.unbound name)

/-- `Object.name(args)`, one of the functions that make hash codes. -/
def callObject (rt : Runtime Date) (name : String) (args : List (Value Date)) : Outcome Date :=
  match name, args with
  | "hash", values =>
      if 2 ≤ values.length ∧ values.length ≤ 20 then
        .ok (.int (rt.hash (values.map rt.hashCode)))
      else .error .typeCheck
  | "hashAll", [.list items] => .ok (.int (rt.hashAll (items.map rt.hashCode)))
  | "hashAllUnordered", [.iterable items] =>
      .ok (.int (rt.hashAllUnordered ↑(items.map rt.hashCode)))
  | name, _ => .error (.unbound name)

/-- `DateTime.name(args)` -/
def callDateTime (rt : Runtime Date) (name : String) (args : List (Value Date)) : Outcome Date :=
  match name, args with
  | "parse", [.str text] =>
      match rt.parseDate text with
      | some moment => .ok (.date moment)
      | none => .error (.notADate text)
  | "parse", _ => .error .typeCheck
  | name, _ => .error (.unbound name)

/-- A call of a static function or a factory of a class. -/
def callStatic (rt : Runtime Date) (calls : Callees Date) (type name : String)
    (args : List (Value Date)) : Outcome Date :=
  if type = Builtin.object.name then callObject rt name args
  else if type = Builtin.dateTime.name then callDateTime rt name args
  else
    match args with
    | [value] => calls.factory type name value
    | _ => .error (.unbound name)

/-- A call of a function or a constructor. -/
def callFunction (rt : Runtime Date) (calls : Callees Date) (scope : Scope Date) (name : String)
    (args : List (Value Date)) : Outcome Date :=
  match name, args with
  | "listEquals", [left, right] => listEquals rt left right
  | "mapEquals", [left, right] => mapEquals rt left right
  | name, args =>
      if scope.lookup? name = none then
        match name, args with
        | "MapEntry", [.str key, value] => .ok (.entry key value)
        | name, args => calls.construct name args
      else .error (.unbound name)

/-! ## Expressions -/

/-- The value at the end of a chain. -/
def settle (result : Except Failure (Option (Value Date))) : Outcome Date :=
  result.map (·.getD .null)

/-- The next link of a chain, behind `.` or `?.`. -/
def link (nullSafe : Bool) (target : Except Failure (Option (Value Date)))
    (next : Value Date → Outcome Date) : Except Failure (Option (Value Date)) :=
  match target with
  | .error failure => .error failure
  | .ok none => .ok none
  | .ok (some value) => if nullSafe && value.isNull then .ok none else (next value).map some

mutual

/-- Evaluate an expression; `none` if its chain was skipped. -/
def run (rt : Runtime Date) (calls : Callees Date) (scope : Scope Date) :
    Expr → Except Failure (Option (Value Date))
  | .ident name => (scope.read name).map some
  | .str text => .ok (some (.str text))
  | .paren inner => (settle (run rt calls scope inner)).map some
  | .bang operand =>
      link false (run rt calls scope operand) fun value =>
        if value.isNull then .error .nullCheck else .ok value
  | .index target position =>
      link false (run rt calls scope target) fun value =>
        (settle (run rt calls scope position)).bind (itemAt value)
  | .member target name nullSafe =>
      if name ∈ Lint.reservedWords then .error (.unbound name)
      else
        match scope.ownField? target name with
        | some value => .ok (some value)
        | none => link nullSafe (run rt calls scope target) (getter rt name)
  | .call (.ident name) _ args =>
      (((runArgs rt calls scope args).bind plainArgs).bind (callFunction rt calls scope name)).map
        some
  | .call (.member target name nullSafe) types args =>
      match scope.class? target name with
      | some type =>
          (((runArgs rt calls scope args).bind plainArgs).bind (callStatic rt calls type name)).map
            some
      | none =>
          link nullSafe (run rt calls scope target) fun value =>
            (runArgs rt calls scope args).bind fun args => callMethod rt calls name types args value
  | .binary .equals left right =>
      (settle (run rt calls scope left)).bind fun a =>
        (settle (run rt calls scope right)).map fun b => some (.bool (rt.equal a b))
  | .binary .conjunction left right =>
      match settle (run rt calls scope left) with
      | .ok (.bool true) =>
          match settle (run rt calls scope right) with
          | .ok (.bool truth) => .ok (some (.bool truth))
          | .ok _ => .error .typeCheck
          | .error failure => .error failure
      | .ok (.bool false) => .ok (some (.bool false))
      | .ok _ => .error .typeCheck
      | .error failure => .error failure
  | .binary .isType left (.ident type) =>
      (settle (run rt calls scope left)).map fun value => some (.bool (value.isInstance type))
  | .binary .asType left (.ident type) =>
      (settle (run rt calls scope left)).bind fun value =>
        if value.isOf type then .ok (some value) else .error .typeCheck
  | .conditional condition positive negative =>
      match settle (run rt calls scope condition) with
      | .ok (.bool true) => (settle (run rt calls scope positive)).map some
      | .ok (.bool false) => (settle (run rt calls scope negative)).map some
      | .ok _ => .error .typeCheck
      | .error failure => .error failure
  | .listLit type items =>
      ((runItems rt calls scope items).bind (checkItems type.toList)).map fun items =>
        some (.list items)
  | .mapLit types entries =>
      ((runEntries rt calls scope entries).bind
        (checkEntries (types.elim [] fun (key, value) => [key, value]))).map fun entries =>
          some (mapOf entries)
  | _ => .error .typeCheck

/-- Evaluate arguments; a lambda becomes a function. -/
def runArgs (rt : Runtime Date) (calls : Callees Date) (scope : Scope Date) :
    List Expr → Except Failure (List (Arg Date))
  | [] => .ok []
  | .lambda params body :: rest =>
      (runArgs rt calls scope rest).map fun args =>
        .function (fun values =>
          if values.length = params.length then
            settle (run rt calls (scope.enter params values) body)
          else .error .typeCheck) :: args
  | arg :: rest =>
      (settle (run rt calls scope arg)).bind fun value =>
        (runArgs rt calls scope rest).map fun args => .value value :: args

/-- Evaluate the elements of a list literal. -/
def runItems (rt : Runtime Date) (calls : Callees Date) (scope : Scope Date) :
    List Expr → Except Failure (List (Value Date))
  | [] => .ok []
  | .spread operand :: rest =>
      (settle (run rt calls scope operand)).bind fun
        | .list items => (runItems rt calls scope rest).map (items ++ ·)
        | .iterable items => (runItems rt calls scope rest).map (items ++ ·)
        | .null => .error .nullCheck
        | _ => .error .typeCheck
  | item :: rest =>
      (settle (run rt calls scope item)).bind fun value =>
        (runItems rt calls scope rest).map (value :: ·)

/-- Evaluate the entries of a map literal. -/
def runEntries (rt : Runtime Date) (calls : Callees Date) (scope : Scope Date) :
    List Expr → Except Failure (List (String × Value Date))
  | [] => .ok []
  | .spread operand :: rest =>
      (settle (run rt calls scope operand)).bind fun
        | .map entries => (runEntries rt calls scope rest).map (entries ++ ·)
        | .null => .error .nullCheck
        | _ => .error .typeCheck
  | .entry key value :: rest =>
      (settle (run rt calls scope key)).bind fun
        | .str key =>
            (settle (run rt calls scope value)).bind fun value =>
              (runEntries rt calls scope rest).map ((key, value) :: ·)
        | _ => .error .typeCheck
  | _ :: _ => .error .typeCheck

end

/-- The value of an expression. -/
def eval (rt : Runtime Date) (calls : Callees Date) (scope : Scope Date) (expr : Expr) :
    Outcome Date :=
  settle (run rt calls scope expr)

/-! ## Equations -/

section Equations

variable (rt : Runtime Date) (calls : Callees Date) (scope : Scope Date)

theorem run_ident (name : String) :
    run rt calls scope (.ident name) = (scope.read name).map some := rfl

theorem run_paren (inner : Expr) :
    run rt calls scope (.paren inner) = (eval rt calls scope inner).map some := rfl

theorem run_bang (operand : Expr) :
    run rt calls scope (.bang operand) =
      link false (run rt calls scope operand) fun value =>
        if value.isNull then .error .nullCheck else .ok value := rfl

theorem run_index (target position : Expr) :
    run rt calls scope (.index target position) =
      link false (run rt calls scope target) fun value =>
        (eval rt calls scope position).bind (itemAt value) := rfl

theorem run_member (target : Expr) (name : String) (nullSafe : Bool) :
    run rt calls scope (.member target name nullSafe) =
      if name ∈ Lint.reservedWords then .error (.unbound name)
      else
        match scope.ownField? target name with
        | some value => .ok (some value)
        | none => link nullSafe (run rt calls scope target) (getter rt name) := rfl

theorem run_call_ident (name : String) (types : List String) (args : List Expr) :
    run rt calls scope (.call (.ident name) types args) =
      (((runArgs rt calls scope args).bind plainArgs).bind
        (callFunction rt calls scope name)).map some := rfl

theorem run_call_member (target : Expr) (name : String) (nullSafe : Bool) (types : List String)
    (args : List Expr) :
    run rt calls scope (.call (.member target name nullSafe) types args) =
      match scope.class? target name with
      | some type =>
          (((runArgs rt calls scope args).bind plainArgs).bind
            (callStatic rt calls type name)).map some
      | none =>
          link nullSafe (run rt calls scope target) fun value =>
            (runArgs rt calls scope args).bind fun args =>
              callMethod rt calls name types args value := rfl

theorem run_equals (left right : Expr) :
    run rt calls scope (.binary .equals left right) =
      (eval rt calls scope left).bind fun a =>
        (eval rt calls scope right).map fun b => some (.bool (rt.equal a b)) := rfl

theorem run_conjunction (left right : Expr) :
    run rt calls scope (.binary .conjunction left right) =
      match eval rt calls scope left with
      | .ok (.bool true) =>
          match eval rt calls scope right with
          | .ok (.bool truth) => .ok (some (.bool truth))
          | .ok _ => .error .typeCheck
          | .error failure => .error failure
      | .ok (.bool false) => .ok (some (.bool false))
      | .ok _ => .error .typeCheck
      | .error failure => .error failure := rfl

theorem run_isType (operand : Expr) (type : String) :
    run rt calls scope (.binary .isType operand (.ident type)) =
      (eval rt calls scope operand).map fun value => some (.bool (value.isInstance type)) := rfl

theorem run_asType (operand : Expr) (type : String) :
    run rt calls scope (.binary .asType operand (.ident type)) =
      (eval rt calls scope operand).bind fun value =>
        if value.isOf type then .ok (some value) else .error .typeCheck := rfl

theorem run_conditional (condition positive negative : Expr) :
    run rt calls scope (.conditional condition positive negative) =
      match eval rt calls scope condition with
      | .ok (.bool true) => (eval rt calls scope positive).map some
      | .ok (.bool false) => (eval rt calls scope negative).map some
      | .ok _ => .error .typeCheck
      | .error failure => .error failure := rfl

theorem run_listLit (type : Option String) (items : List Expr) :
    run rt calls scope (.listLit type items) =
      ((runItems rt calls scope items).bind (checkItems type.toList)).map fun items =>
        some (.list items) := rfl

theorem run_mapLit (types : Option (String × String)) (entries : List Expr) :
    run rt calls scope (.mapLit types entries) =
      ((runEntries rt calls scope entries).bind
        (checkEntries (types.elim [] fun (key, value) => [key, value]))).map fun entries =>
          some (mapOf entries) := rfl

theorem callDateTime_parse {text : String} {moment : Date}
    (known : rt.parseDate text = some moment) :
    callDateTime rt "parse" [.str text] = .ok (.date moment) := by
  simp [callDateTime, known]

theorem callMethod_map_list (types : List String) (body : List (Value Date) → Outcome Date)
    (items : List (Value Date)) :
    callMethod rt calls "map" types [.function body] (.list items) =
      ((items.mapM (m := Except Failure) fun item => body [item]).bind
        (checkItems types)).map .iterable := rfl

theorem callMethod_map_iterable (types : List String) (body : List (Value Date) → Outcome Date)
    (items : List (Value Date)) :
    callMethod rt calls "map" types [.function body] (.iterable items) =
      ((items.mapM (m := Except Failure) fun item => body [item]).bind
        (checkItems types)).map .iterable := rfl

theorem callMethod_map_entries (types : List String) (body : List (Value Date) → Outcome Date)
    (entries : List (String × Value Date)) :
    callMethod rt calls "map" types [.function body] (.map entries) =
      ((entries.mapM (m := Except Failure) fun entry =>
        (body [.str entry.1, entry.2]).bind asEntry).bind (checkEntries types)).map mapOf := rfl

theorem runItems_spread (operand : Expr) (rest : List Expr) :
    runItems rt calls scope (.spread operand :: rest) =
      (eval rt calls scope operand).bind fun
        | .list items => (runItems rt calls scope rest).map (items ++ ·)
        | .iterable items => (runItems rt calls scope rest).map (items ++ ·)
        | .null => .error .nullCheck
        | _ => .error .typeCheck := rfl

theorem runEntries_spread (operand : Expr) (rest : List Expr) :
    runEntries rt calls scope (.spread operand :: rest) =
      (eval rt calls scope operand).bind fun
        | .map entries => (runEntries rt calls scope rest).map (entries ++ ·)
        | .null => .error .nullCheck
        | _ => .error .typeCheck := rfl

theorem runEntries_entry (key : String) (value : Expr) (rest : List Expr) :
    runEntries rt calls scope (.entry (.str key) value :: rest) =
      (eval rt calls scope value).bind fun value =>
        (runEntries rt calls scope rest).map ((key, value) :: ·) := rfl

end Equations

end Recordsmith.Dart
