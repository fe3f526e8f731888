/-
# Recordsmith.Proofs.Dart.Program — generated classes as a program

A class is read back from the construct that `Class.assemble` gives: its fields
with their types, its constructor, and the members written with `=>`. A program
is the classes of a catalog by their names.

Members call each other across classes, and a record may refer to itself, so an
evaluation need not end on every object. `callees n` looks `n` calls deep and
reports deeper ones as a failure, so results are stated from some depth on.
-/
import Recordsmith.Catalog
import Recordsmith.Class.Basic
import Recordsmith.Proofs.Dart.Eval

namespace Recordsmith.Dart

set_option autoImplicit false

variable {Date : Type}

/-- A member written with `=>`. -/
structure Method where
  modifiers : List String
  name : String
  params : List Expr
  body : Expr

namespace Expr

/-- The members of a class. -/
def members : Expr → List Expr
  | .block _ members => members
  | _ => []

/-- A member written with `=>`, with or without an annotation. -/
def member? : Expr → Option Method
  | .arrow (.signature modifiers _ name params) body => some ⟨modifiers, name, params, body⟩
  | .arrow (.getter modifiers _ name) body => some ⟨modifiers, name, [], body⟩
  | .annotated _ inner => member? inner
  | _ => none

/-- The first member with these modifiers and this name. -/
def findMember? (type : Expr) (modifiers : List String) (name : String) : Option Method :=
  (type.members.filterMap member?).find? fun member =>
    member.modifiers == modifiers && member.name == name

/-- The parameters, if this is the constructor of a class of this name. -/
def paramsOf? (name : String) : Expr → Option (List Expr)
  | .signature _ _ declared params => if declared = name then some params else none
  | _ => none

/-- The parameters of the constructor. -/
def constructorParams? (type : Expr) (name : String) : Option (List Expr) :=
  type.members.findSome? (paramsOf? name)

/-- The type, if this declares a field of this name. -/
def typeOf? (name : String) : Expr → Option String
  | .declaration _ type declared => if declared = name then some type else none
  | _ => none

/-- The declared type of a field. -/
def fieldType? (type : Expr) (name : String) : Option String :=
  type.members.findSome? (typeOf? name)

end Expr

/-- Bind the parameters of a member to arguments of their types. -/
def bindParams : List Expr → List (Value Date) → Except Failure (List (String × Value Date))
  | [], [] => .ok []
  | .declaration _ type name :: params, arg :: args =>
      if arg.isOf type then (bindParams params args).map ((name, arg) :: ·)
      else .error .typeCheck
  | _, _ => .error .typeCheck

/-- Bind the parameters `this.name` of a constructor to arguments of the types of the fields. -/
def bindFields (type : Expr) :
    List Expr → List (Value Date) → Except Failure (List (String × Value Date))
  | [], [] => .ok []
  | .member (.ident "this") name false :: params, arg :: args =>
      match type.fieldType? name with
      | some fieldType =>
          if arg.isOf fieldType then (bindFields type params args).map ((name, arg) :: ·)
          else .error .typeCheck
      | none => .error (.unbound name)
  | _, _ => .error .typeCheck

/-- The classes of a program by their names. -/
abbrev Program := String → Option Expr

namespace Program

/-- `type(args)` -/
def construct (program : Program) (type : String) (args : List (Value Date)) : Outcome Date :=
  match program type with
  | none => .error (.unbound type)
  | some decl =>
      match decl.constructorParams? type with
      | none => .error (.unbound type)
      | some params => (bindFields decl params args).map (.object type)

/-- `type.name(arg)`, evaluated in a scope that has no object. -/
def factory (program : Program) (rt : Runtime Date) (calls : Callees Date) (type name : String)
    (arg : Value Date) : Outcome Date :=
  match (program type).bind (·.findMember? ["factory"] (type ++ "." ++ name)) with
  | none => .error (.unbound name)
  | some member =>
      (bindParams member.params [arg]).bind fun params =>
        eval rt calls ⟨params, []⟩ member.body

/-- `self.name(args)`, or `self.name` for a getter. -/
def method (program : Program) (rt : Runtime Date) (calls : Callees Date) (name : String)
    (self : Value Date) (args : List (Value Date)) : Outcome Date :=
  match self with
  | .object type fields =>
      match (program type).bind (·.findMember? [] name) with
      | none => .error (.unbound name)
      | some member =>
          (bindParams member.params args).bind fun params =>
            eval rt calls ⟨params, fields⟩ member.body
  | .null => .error .nullCheck
  | _ => .error (.unbound name)

/-- The members of a program, up to a depth of calls. -/
def callees (program : Program) (rt : Runtime Date) : Nat → Callees Date
  | 0 => ⟨fun _ _ _ => .error .tooDeep, fun _ _ => .error .tooDeep, program.construct⟩
  | depth + 1 =>
      ⟨program.factory rt (program.callees rt depth),
        fun name self => program.method rt (program.callees rt depth) name self [],
        program.construct⟩

end Program

end Recordsmith.Dart

namespace Recordsmith.Catalog

set_option autoImplicit false

/-- The classes of the records of a catalog. -/
def program (catalog : Catalog) (options : ClassOptions) : Dart.Program := fun name =>
  (catalog.get? name).bind fun entry => (Class.assemble options entry.record).toOption

end Recordsmith.Catalog
