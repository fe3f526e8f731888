/-
# Recordsmith.Dart.Expr — Dart constructs

All that generated code is made of: expressions, and the signatures, blocks,
declarations and statements around them. A construct may stand in any place of
another one; that only sensible ones do is up to the code that builds them.

The functions behind the type are short ways to write constructs; those that
refine one kind of construct leave every other kind as it is.
-/
namespace Recordsmith.Dart

set_option autoImplicit false

/-- The operators that generated code uses. -/
inductive BinaryOp where
  | equals
  | conjunction
  | isType
  | asType
  | assignment
deriving DecidableEq, Repr

/-- The spelling of an operator. -/
def BinaryOp.symbol : BinaryOp → String
  | .equals => "=="
  | .conjunction => "&&"
  | .isType => "is"
  | .asType => "as"
  | .assignment => "="

/-- A Dart construct. -/
inductive Expr where
  /-- A name, keyword or literal, written as it is. -/
  | ident (name : String)
  /-- A string literal. -/
  | str (value : String)
  /-- `callee<T>(args)` -/
  | call (callee : Expr) (typeArgs : List String) (args : List Expr)
  /-- `target[position]` -/
  | index (target position : Expr)
  /-- `target.name`, or `target?.name` if `nullSafe`. -/
  | member (target : Expr) (name : String) (nullSafe : Bool)
  /-- `operand!` -/
  | bang (operand : Expr)
  /-- `left op right` -/
  | binary (op : BinaryOp) (left right : Expr)
  /-- `condition ? positive : negative` -/
  | conditional (condition positive negative : Expr)
  /-- `(inner)` -/
  | paren (inner : Expr)
  /-- `<T>[items]` -/
  | listLit (elementType : Option String) (items : List Expr)
  /-- The map literal with the given key and value types and these entries. -/
  | mapLit (types : Option (String × String)) (entries : List Expr)
  /-- `key: value` in a map literal. -/
  | entry (key value : Expr)
  /-- `...operand` -/
  | spread (operand : Expr)
  /-- `(params) => body` -/
  | lambda (params : List String) (body : Expr)
  /-- `modifiers result get name` -/
  | getter (modifiers : List String) (result : Option String) (name : String)
  /-- `modifiers result name(params)` -/
  | signature (modifiers : List String) (result : Option String) (name : String)
      (params : List Expr)
  /-- `head => body` -/
  | arrow (head body : Expr)
  /-- The head and the statements in braces. Never followed by a semicolon. -/
  | block (head : Expr) (body : List Expr)
  /-- `class name extends base implements interfaces` -/
  | classHead (name : String) (base : Option String) (interfaces : List String)
  /-- `modifiers type name` -/
  | declaration (modifiers : List String) (type name : String)
  /-- `modifiers type name = init` -/
  | initialised (modifiers : List String) (type name : String) (init : Expr)
  /-- The switch over a subject with its arms in braces. -/
  | switch (subject : Expr) (arms : List Expr)
  /-- `case pattern:` and its statements, with a `break` behind them if `breaks`. -/
  | caseArm (pattern : Expr) (body : List Expr) (breaks : Bool)
  /-- `default:` and its statements, with a `break` behind them if `breaks`. -/
  | defaultArm (body : List Expr) (breaks : Bool)
  /-- `return value` -/
  | ret (value : Expr)
  /-- `throw value` -/
  | raise (value : Expr)
  /-- An annotation on a line of its own, then the construct it belongs to. -/
  | annotated (label : String) (inner : Expr)
deriving Repr

namespace Expr

/-- Call an expression. -/
def invoke (callee : Expr) (args : List Expr) : Expr :=
  .call callee [] args

/-- `target.name` -/
def dot (target : Expr) (name : String) : Expr :=
  .member target name false

/-- `target.name(args)` -/
def method (target : Expr) (name : String) (args : List Expr) : Expr :=
  (target.dot name).invoke args

/-- `(operand as type)` -/
def cast (operand : Expr) (type : String) : Expr :=
  .paren (.binary .asType operand (.ident type))

/-- The literal `null`. -/
def null : Expr := .ident "null"

/-- `value == null` -/
def isNull (value : Expr) : Expr :=
  .binary .equals value null

/-- Put a modifier behind the others of a signature or declaration. -/
def modifier (expr : Expr) (modifier : String) : Expr :=
  match expr with
  | .getter modifiers result name => .getter (modifiers ++ [modifier]) result name
  | .signature modifiers result name params =>
      .signature (modifiers ++ [modifier]) result name params
  | .declaration modifiers type name => .declaration (modifiers ++ [modifier]) type name
  | .initialised modifiers type name init =>
      .initialised (modifiers ++ [modifier]) type name init
  | other => other

/-- Put an interface behind the others of a class head. -/
def implementing (expr : Expr) (interface : String) : Expr :=
  match expr with
  | .classHead name base interfaces => .classHead name base (interfaces ++ [interface])
  | other => other

/-- Give a declaration an initial value, in place of one it may have. -/
def initialise (expr init : Expr) : Expr :=
  match expr with
  | .declaration modifiers type name => .initialised modifiers type name init
  | .initialised modifiers type name _ => .initialised modifiers type name init
  | other => other

/-- End an arm of a switch by `break`. -/
def withBreak : Expr → Expr
  | .caseArm pattern body _ => .caseArm pattern body true
  | .defaultArm body _ => .defaultArm body true
  | other => other

/-- Mark a member as one that an interface or a base class declares. -/
def overriding (inner : Expr) : Expr :=
  .annotated "override" inner

end Expr

end Recordsmith.Dart
