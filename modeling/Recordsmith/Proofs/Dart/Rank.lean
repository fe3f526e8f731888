/-
# Recordsmith.Proofs.Dart.Rank — which construct may stand in which place

Rendering writes no parentheses of its own, so a construct can be read back only if each
operand holds together more tightly than the operator beside it. How tightly a construct
holds together is its `rank`:

    6  names, literals, parentheses, calls, positions, members, `!`
    5  `is`, `as`
    4  `==`
    3  `&&`
    2  conditionals
    1  assignments, lambdas, `throw`
    0  what is no expression

`WellPlaced` says of one construct that the operands in it have the rank that their
place asks for. `Composed` is about the other parts: where an expression is asked for
there is one, spreads are elements of literals, and entries are those of maps. A `throw`
is only a statement here.

`words` is what is written of a construct: the texts of its tokens, without the spaces
and line breaks that layout puts between them.
-/
import Recordsmith.Proofs.Dart.Frame

namespace Recordsmith

open Recordsmith.Dart

set_option autoImplicit false

/-- The rank of an operator. -/
def Dart.BinaryOp.rank : BinaryOp → Nat
  | .isType | .asType => 5
  | .equals => 4
  | .conjunction => 3
  | .assignment => 1

namespace Dart.Expr

/-- How tightly a construct holds together. -/
def rank : Expr → Nat
  | .ident _ | .str _ | .paren _ | .listLit _ _ | .mapLit _ _ => 6
  | .call _ _ _ | .index _ _ | .member _ _ _ | .bang _ => 6
  | .binary op _ _ => op.rank
  | .conditional _ _ _ => 2
  | .lambda _ _ | .raise _ => 1
  | _ => 0

/-- A name or a member, which can be assigned to. -/
def isAssignable : Expr → Bool
  | .ident _ | .member _ _ _ => true
  | _ => false

/-- The operands of a construct have the rank that their places ask for. -/
@[simp] def WellPlaced : Expr → Prop
  | .call target _ _ | .index target _ | .member target _ _ | .bang target => target.rank = 6
  | .binary .isType left right | .binary .asType left right => 5 < left.rank ∧ 5 < right.rank
  | .binary .equals left right => 4 < left.rank ∧ 4 < right.rank
  | .binary .conjunction left right => 3 ≤ left.rank ∧ 3 < right.rank
  | .binary .assignment left _ => left.isAssignable = true
  | .conditional condition _ _ => 2 < condition.rank
  | _ => True

/-- The constructs that have a value. -/
def isExpression : Expr → Bool
  | .ident _ | .str _ | .paren _ | .listLit _ _ | .mapLit _ _ => true
  | .call _ _ _ | .index _ _ | .member _ _ _ | .bang _ => true
  | .binary _ _ _ | .conditional _ _ _ | .lambda _ _ => true
  | _ => false

/-- What may stand in the brackets of a list. -/
def isElement : Expr → Bool
  | .spread _ => true
  | expr => expr.isExpression

/-- What may stand in the braces of a map. -/
def isEntry : Expr → Bool
  | .entry _ _ | .spread _ => true
  | _ => false

/-- The parts of a construct are of the kinds that their places ask for. -/
@[simp] def Composed : Expr → Prop
  | .call _ _ args => ∀ arg ∈ args, arg.isExpression = true
  | .index _ position => position.isExpression = true
  | .binary _ _ right => right.isExpression = true
  | .conditional _ positive negative => positive.isExpression = true ∧ negative.isExpression = true
  | .paren inner => inner.isExpression = true
  | .listLit _ items => ∀ item ∈ items, item.isElement = true
  | .mapLit _ entries => ∀ entry ∈ entries, entry.isEntry = true
  | .entry key value => key.isExpression = true ∧ value.isExpression = true
  | .spread operand => operand.isExpression = true
  | .lambda _ body => body.isExpression = true
  | _ => True

/-- Which expressions have the highest rank. -/
@[simp] theorem rank_eq_six :
    (∀ name, (Expr.ident name).rank = 6) ∧ (∀ value, (Expr.str value).rank = 6) ∧
    (∀ inner, (Expr.paren inner).rank = 6) ∧ (∀ type items, (Expr.listLit type items).rank = 6) ∧
    (∀ types entries, (Expr.mapLit types entries).rank = 6) ∧
    (∀ callee types args, (Expr.call callee types args).rank = 6) ∧
    (∀ target position, (Expr.index target position).rank = 6) ∧
    (∀ target name nullSafe, (Expr.member target name nullSafe).rank = 6) ∧
    ∀ operand, (Expr.bang operand).rank = 6 := by
  simp [rank]

@[simp] theorem rank_binary (op : BinaryOp) (left right : Expr) :
    (Expr.binary op left right).rank = op.rank :=
  rfl

theorem isExpression_of_rank {expr : Expr} (tight : 2 ≤ expr.rank) : expr.isExpression = true := by
  cases expr <;> simp_all [rank, isExpression]

theorem rank_le_six (expr : Expr) : expr.rank ≤ 6 := by
  cases expr with
  | binary op left right => cases op <;> simp [rank, BinaryOp.rank]
  | _ => simp [rank]

theorem rank_of_isAssignable {expr : Expr} (assignable : expr.isAssignable = true) :
    expr.rank = 6 := by
  cases expr with
  | ident name => rfl
  | member target name nullSafe => rfl
  | _ => cases assignable

@[simp] theorem isExpression_of_rank_eq_six {expr : Expr} (tight : expr.rank = 6) :
    expr.isExpression = true :=
  isExpression_of_rank (by omega)

@[simp] theorem isExpression_of_form :
    (∀ op left right, (Expr.binary op left right).isExpression = true) ∧
    (∀ condition positive negative,
      (Expr.conditional condition positive negative).isExpression = true) ∧
    ∀ params body, (Expr.lambda params body).isExpression = true := by
  simp [isExpression]

theorem isElement_of_isExpression {expr : Expr} (isExpression : expr.isExpression = true) :
    expr.isElement = true := by
  cases expr with
  | spread operand => rfl
  | _ => exact isExpression

end Dart.Expr

/-! ## Words -/

/-- The text that a token is. -/
@[simp] def Token.word? : Token → Option String
  | .text value => some value
  | _ => none

namespace Dart

/-- What is written of a construct. -/
def Expr.words (expr : Expr) : List String :=
  expr.tokens.filterMap Token.word?

/-- What is written of an item. -/
@[simp] def Item.words : Item → List String
  | .text value => [value]
  | .part expr | .statement expr => expr.words
  | .leave => ["break"]
  | .glue | .newLine | .deeper | .shallower | .unended => []

theorem Item.filterMap_tokens (item : Item) : item.tokens.filterMap Token.word? = item.words := by
  cases item <;> simp [Expr.words]

theorem Item.words_listed (items : List Item) :
    (Item.listed items).flatMap Item.words = [","].intercalate (items.map Item.words) := by
  rw [Item.listed]
  induction items with
  | nil => rfl
  | cons item rest ih =>
    cases rest with
    | nil => simp [Item.join]
    | cons next others =>
      rw [List.map_cons, List.map_cons, List.intercalate_cons_cons, ← List.map_cons, ← ih]
      simp [Item.join]

@[simp] theorem Item.words_enclosed (opening closing : String) (inner : List Item) :
    (Item.enclosed opening inner closing).flatMap Item.words =
      opening :: (inner.flatMap Item.words ++ [closing]) := by
  simp [Item.enclosed]

namespace Expr

/-- What is written of constructs that are divided by commas. -/
def listed (exprs : List Expr) : List String :=
  [","].intercalate (exprs.map words)

/-- The word for type arguments, if there are any. -/
def typeWords (types : List String) : List String :=
  if types = [] then [] else [typeArguments types]

@[simp] theorem words_listed_part (exprs : List Expr) :
    (Item.listed (exprs.map .part)).flatMap Item.words = listed exprs := by
  rw [Item.words_listed, List.map_map]
  rfl

theorem listed_singleton (expr : Expr) : listed [expr] = words expr := by
  simp [listed]

theorem listed_cons_cons (expr next : Expr) (rest : List Expr) :
    listed (expr :: next :: rest) = words expr ++ "," :: listed (next :: rest) := by
  simp [listed, List.intercalate_cons_cons]

/-- The words of a construct are those of its frame. -/
theorem words_eq (expr : Expr) : words expr = (frame expr).flatMap Item.words := by
  rw [words, tokens_eq, List.filterMap_flatMap]
  exact congrArg (List.flatMap · (frame expr)) (funext Item.filterMap_tokens)

theorem words_ident (name : String) : words (.ident name) = [name] := rfl

theorem words_str (value : String) : words (.str value) = [quote value] := rfl

theorem words_call (callee : Expr) (types : List String) (args : List Expr) :
    words (.call callee types args) =
      words callee ++ typeWords types ++ "(" :: (listed args ++ [")"]) := by
  rw [words_eq]
  by_cases none : types = [] <;> simp [frame, typeWords, none]

theorem words_index (target position : Expr) :
    words (.index target position) = words target ++ "[" :: (words position ++ ["]"]) := by
  rw [words_eq]
  simp [frame]

theorem words_member (target : Expr) (name : String) (nullSafe : Bool) :
    words (.member target name nullSafe) =
      words target ++ [if nullSafe then "?." else ".", name] := by
  rw [words_eq]
  simp [frame]

theorem words_bang (operand : Expr) : words (.bang operand) = words operand ++ ["!"] := by
  rw [words_eq]
  simp [frame]

theorem words_binary (op : BinaryOp) (left right : Expr) :
    words (.binary op left right) = words left ++ op.symbol :: words right := by
  rw [words_eq]
  simp [frame]

theorem words_conditional (condition positive negative : Expr) :
    words (.conditional condition positive negative) =
      words condition ++ "?" :: (words positive ++ ":" :: words negative) := by
  rw [words_eq]
  simp [frame]

theorem words_paren (inner : Expr) : words (.paren inner) = "(" :: (words inner ++ [")"]) := by
  rw [words_eq]
  simp [frame]

theorem words_listLit (type : Option String) (items : List Expr) :
    words (.listLit type items) =
      typeWords type.toList ++ "[" :: (listed items ++ ["]"]) := by
  rw [words_eq]
  cases type <;> simp [frame, typeWords]

theorem words_mapLit (types : Option (String × String)) (entries : List Expr) :
    words (.mapLit types entries) =
      typeWords (types.toList.flatMap fun pair => [pair.1, pair.2]) ++
        "\x7b" :: (listed entries ++ ["\x7d"]) := by
  rw [words_eq]
  cases types <;> simp [frame, typeWords]

theorem words_entry (key value : Expr) :
    words (.entry key value) = words key ++ ":" :: words value := by
  rw [words_eq]
  simp [frame]

theorem words_spread (operand : Expr) : words (.spread operand) = "..." :: words operand := by
  rw [words_eq]
  simp [frame]

theorem words_lambda (params : List String) (body : Expr) :
    words (.lambda params body) =
      "(" :: (listed (params.map .ident) ++ ")" :: "=>" :: words body) := by
  have named : (Item.listed (params.map .text)).flatMap Item.words =
      listed (params.map .ident) := by
    rw [Item.words_listed, List.map_map, listed, List.map_map]
    rfl
  rw [words_eq]
  simp [frame, named]

end Expr

end Dart

end Recordsmith
