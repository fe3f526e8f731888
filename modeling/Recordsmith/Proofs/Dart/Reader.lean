/-
# Recordsmith.Proofs.Dart.Reader — reading expressions back

`read` makes an expression out of the words that are written of it, by descent along the
ranks: names, literals and brackets with what stands right behind them, then `is` and
`as`, then `==`, then any number of `&&`, then conditionals and assignments. A `(` opens
parentheses or the parameters of a lambda; which of them is told by what follows the
closing bracket.

The reader checks no more than it needs to find its way, since it is only used on words
that have been written. What it does in each situation is said here; that it gets written
expressions back is the matter of the next module.
-/
import Recordsmith.Proofs.Dart.Rank
import Recordsmith.Proofs.TypeExpr.Canonical

namespace Recordsmith.Dart

open Recordsmith.Text
open Recordsmith.TypeExpr (piecesOutside Whole)
open Recordsmith.Dart.Expr

set_option autoImplicit false

/-- A name, a number or a type: it starts like an identifier, and a list of type arguments
is not cut inside of it. -/
structure Word (text : String) : Prop where
  first : text.toList.head?.any isIdentifierPart = true
  whole : Whole text.toList

/-! ## Literals and type arguments -/

/-- The characters of a literal without its escapes. -/
def unescaped : List Char → List Char
  | [] => []
  | '\\' :: c :: rest => (if c = 'n' then '\n' else c) :: unescaped rest
  | c :: rest => c :: unescaped rest

theorem unescaped_flatMap (value : List Char) : unescaped (value.flatMap escapeChar) = value := by
  induction value with
  | nil => rfl
  | cons c rest ih =>
    rw [List.flatMap_cons, escapeChar]
    split
    · next special =>
      rcases special with rfl | rfl | rfl <;> simp [unescaped, ih]
    · next ordinary =>
      split
      · next newline => simp [unescaped, ih, newline]
      · next other =>
        have notEscape : c ≠ '\\' := fun same => ordinary (.inr (.inl same))
        simp [unescaped, ih, notEscape]

/-- The value of a literal. -/
def unquote (word : String) : String :=
  String.ofList (unescaped word.toList.tail.dropLast)

theorem unquote_quote (value : String) : unquote (quote value) = value := by
  rw [unquote, quote, String.toList_ofList, quoteChars, List.tail_cons, List.dropLast_concat,
    unescaped_flatMap, String.ofList_toList]

/-- The texts of type arguments. -/
def typesOf (word : String) : List String :=
  match piecesOutside ',' word.toList.tail.dropLast with
  | some (first :: rest) => String.ofList first :: rest.map fun piece => String.ofList piece.tail
  | _ => []

theorem typesOf_typeArguments (types : List String) (nonempty : types ≠ [])
    (each : ∀ type ∈ types, Word type) : typesOf (typeArguments types) = types := by
  obtain ⟨first, rest, rfl⟩ := List.exists_cons_of_ne_nil nonempty
  have inside : (typeArguments (first :: rest)).toList.tail.dropLast =
      [','].intercalate (first.toList :: (rest.map String.toList).map (' ' :: ·)) := by
    rw [← TypeExpr.intercalate_comma_blank]
    simp [typeArguments, String.toList_intercalate]
  have wholes : ∀ piece ∈ first.toList :: (rest.map String.toList).map (' ' :: ·),
      Whole piece := by
    have blank : Whole [' '] := .of_not_mem (by decide) (by decide) (by decide)
    simp only [List.map_map, List.forall_mem_cons, List.forall_mem_map] at each ⊢
    exact ⟨each.1.whole, fun type member => blank.append (each.2 type member).whole⟩
  have cut := TypeExpr.piecesOutside_intercalate (show ',' ≠ '<' ∧ ',' ≠ '>' by decide)
    (List.cons_ne_nil _ _) fun piece member =>
      ⟨(wholes piece member).balanced, (wholes piece member).uncut⟩
  rw [typesOf, inside, cut]
  simp [Function.comp_def]

/-! ## Reading -/

/-- Reads something off the front of a row of words. -/
abbrev Reader (α : Type) : Type :=
  List String → Option (α × List String)

/-- An element of a list, an entry of a map or an argument. -/
def readItem (inner : Reader Expr) : Reader Expr := fun words =>
  if words.head? = some "..." then
    (inner words.tail).map fun (operand, rest) => (.spread operand, rest)
  else
    (inner words).bind fun (expr, rest) =>
      if rest.head? = some ":" then
        (inner rest.tail).map fun (value, behind) => (.entry expr value, behind)
      else some (expr, rest)

/-- Items divided by commas, and the bracket behind them. -/
def readList (inner : Reader Expr) (closing : String) : Nat → Reader (List Expr)
  | 0, _ => none
  | fuel + 1, words =>
      if words.head? = some closing then some ([], words.tail)
      else
        (readItem inner words).bind fun (first, rest) =>
          if rest.head? = some closing then some ([first], rest.tail)
          else
            (readList inner closing fuel rest.tail).map fun (others, behind) =>
              (first :: others, behind)

/-- The name that an expression is. -/
def name? : Expr → Option String
  | .ident name => some name
  | _ => none

/-- A name, a literal, or brackets. -/
def readPrimary (inner : Reader Expr) (fuel : Nat) : Reader Expr
  | [] => none
  | word :: rest =>
      if word = "(" then
        (readList inner ")" fuel rest).bind fun (items, behind) =>
          if behind.head? = some "=>" then
            (inner behind.tail).map fun (body, after) =>
              (.lambda (items.filterMap name?) body, after)
          else items.head?.map fun expr => (.paren expr, behind)
      else if word = "[" then
        (readList inner "]" fuel rest).map fun (items, behind) => (.listLit none items, behind)
      else if word = "\x7b" then
        (readList inner "\x7d" fuel rest).map fun (entries, behind) =>
          (.mapLit none entries, behind)
      else if word.toList.head? = some '<' then
        if rest.head? = some "[" then
          (readList inner "]" fuel rest.tail).map fun (items, behind) =>
            (.listLit (typesOf word).head? items, behind)
        else
          (readList inner "\x7d" fuel rest.tail).map fun (entries, behind) =>
            (.mapLit ((typesOf word).head?.map (·, (typesOf word).getLastD "")) entries, behind)
      else if word.toList.head? = some '"' then some (.str (unquote word), rest)
      else some (.ident word, rest)

/-- What stands right behind an operand: members, positions, arguments and `!`. -/
def readSuffixes (inner : Reader Expr) (fuel : Nat) : Nat → Expr → Reader Expr
  | 0, _, _ => none
  | _ + 1, target, [] => some (target, [])
  | more + 1, target, word :: rest =>
      if word = "." ∨ word = "?." then
        rest.head?.bind fun name =>
          readSuffixes inner fuel more (.member target name (word = "?.")) rest.tail
      else if word = "!" then readSuffixes inner fuel more (.bang target) rest
      else if word = "[" then
        (inner rest).bind fun (position, behind) =>
          readSuffixes inner fuel more (.index target position) behind.tail
      else if word = "(" then
        (readList inner ")" fuel rest).bind fun (args, behind) =>
          readSuffixes inner fuel more (.call target [] args) behind
      else if word.toList.head? = some '<' then
        (readList inner ")" fuel rest.tail).bind fun (args, behind) =>
          readSuffixes inner fuel more (.call target (typesOf word) args) behind
      else some (target, word :: rest)

/-- An operand with all that stands right behind it. -/
def readOperand (inner : Reader Expr) (fuel more : Nat) : Reader Expr := fun words =>
  (readPrimary inner fuel words).bind fun (expr, rest) => readSuffixes inner fuel more expr rest

/-- An operand, or two with one of these operators between them. -/
def readBinary (ops : List BinaryOp) (operand : Reader Expr) : Reader Expr := fun words =>
  (operand words).bind fun (left, rest) =>
    (ops.find? fun op => rest.head? = some op.symbol).elim (some (left, rest)) fun op =>
      (operand rest.tail).map fun (right, behind) => (.binary op left right, behind)

/-- The conjuncts behind the first ones. -/
def readConjuncts (operand : Reader Expr) : Nat → Expr → Reader Expr
  | 0, _, _ => none
  | more + 1, left, words =>
      if words.head? = some "&&" then
        (operand words.tail).bind fun (right, rest) =>
          readConjuncts operand more (.binary .conjunction left right) rest
      else some (left, words)

/-- A comparison: the operands of conjunctions. -/
def readComparison (inner : Reader Expr) (fuel : Nat) : Reader Expr :=
  readBinary [.equals] (readBinary [.isType, .asType] (readOperand inner fuel fuel))

/-- One or more conjuncts. -/
def readConjunction (inner : Reader Expr) (fuel more : Nat) : Reader Expr := fun words =>
  (readComparison inner fuel words).bind fun (left, rest) =>
    readConjuncts (readComparison inner fuel) more left rest

/-- An expression of any rank. -/
def readExpression (inner : Reader Expr) (fuel : Nat) : Reader Expr := fun words =>
  (readConjunction inner fuel fuel words).bind fun (expr, rest) =>
    if rest.head? = some "?" then
      (inner rest.tail).bind fun (positive, behind) =>
        (inner behind.tail).map fun (negative, after) =>
          (.conditional expr positive negative, after)
    else if rest.head? = some "=" then
      (inner rest.tail).map fun (right, behind) => (.binary .assignment expr right, behind)
    else some (expr, rest)

/-- An expression, read with at most this many nested expressions. -/
def read : Nat → Reader Expr
  | 0, _ => none
  | fuel + 1, words => readExpression (read fuel) (fuel + 1) words

/-! ## First characters -/

theorem Word.head_ne {word : String} (isWord : Word word) {c : Char}
    (foreign : isIdentifierPart c = false) : word.toList.head? ≠ some c := by
  have first := isWord.first
  intro same
  rw [same, Option.any_some, foreign] at first
  cases first

theorem Word.ne {word other : String} (isWord : Word word)
    (foreign : other.toList.head?.any isIdentifierPart = false) : word ≠ other := by
  rintro rfl
  rw [isWord.first] at foreign
  cases foreign

theorem head_quote (value : String) : (quote value).toList.head? = some '"' := by
  simp [quote, quoteChars]

theorem head_typeArguments (types : List String) :
    (typeArguments types).toList.head? = some '<' := by
  simp [typeArguments]

theorem ne_of_head {word other : String} {c : Char} (first : word.toList.head? = some c)
    (differs : other.toList.head? ≠ some c) : word ≠ other := by
  rintro rfl
  exact differs first

/-! ## Where expressions end -/

/-- The rank at which a word goes on with an expression, if it does. -/
def continuation (word : String) : Nat :=
  if word ∈ [".", "?.", "!", "[", "(", "=>"] ∨ word.toList.head? = some '<' then 6
  else if word ∈ ["is", "as"] then 5
  else if word = "==" then 4
  else if word = "&&" then 3
  else if word = "?" then 2
  else if word = "=" then 1
  else 0

/-- An expression of this rank ends in front of these words. -/
def Ends (rank : Nat) (rest : List String) : Prop :=
  ∀ word ∈ rest.head?, continuation word < rank

theorem Ends.mono {rank other : Nat} {rest : List String} (ends : Ends rank rest)
    (le : rank ≤ other) : Ends other rest :=
  fun word first => Nat.lt_of_lt_of_le (ends word first) le

theorem ends_cons {rank : Nat} {word : String} {rest : List String} :
    Ends rank (word :: rest) ↔ continuation word < rank := by
  simp [Ends]

theorem Ends.head_ne {rank : Nat} {rest : List String} (ends : Ends rank rest) {word : String}
    (goesOn : rank ≤ continuation word) : rest.head? ≠ some word := fun same =>
  absurd (ends word same) (Nat.not_lt.2 goesOn)

theorem continuation_symbol (op : BinaryOp) : continuation op.symbol = op.rank := by
  cases op <;> decide

/-! ## What the reader does -/

section Steps

variable {inner : Reader Expr}

theorem readPrimary_name {name : String} (isWord : Word name) (fuel : Nat) (rest : List String) :
    readPrimary inner fuel (name :: rest) = some (.ident name, rest) := by
  rw [readPrimary, if_neg (isWord.ne (by decide)), if_neg (isWord.ne (by decide)),
    if_neg (isWord.ne (by decide)), if_neg (isWord.head_ne (by decide)),
    if_neg (isWord.head_ne (by decide))]

theorem readPrimary_quote (value : String) (fuel : Nat) (rest : List String) :
    readPrimary inner fuel (quote value :: rest) = some (.str value, rest) := by
  have other : ∀ word : String, word.toList.head? ≠ some '"' → quote value ≠ word :=
    fun word => ne_of_head (head_quote value)
  rw [readPrimary, if_neg (other "(" (by decide)), if_neg (other "[" (by decide)),
    if_neg (other "\x7b" (by decide)), head_quote, if_neg (by decide), if_pos rfl, unquote_quote]

theorem readPrimary_typeArguments (types : List String) (fuel : Nat) (rest : List String) :
    readPrimary inner fuel (typeArguments types :: rest) =
      if rest.head? = some "[" then
        (readList inner "]" fuel rest.tail).map fun read =>
          (.listLit (typesOf (typeArguments types)).head? read.1, read.2)
      else
        (readList inner "\x7d" fuel rest.tail).map fun read =>
          (.mapLit ((typesOf (typeArguments types)).head?.map
            (·, (typesOf (typeArguments types)).getLastD "")) read.1, read.2) := by
  have other : ∀ word : String, word.toList.head? ≠ some '<' → typeArguments types ≠ word :=
    fun word => ne_of_head (head_typeArguments types)
  rw [readPrimary, if_neg (other "(" (by decide)), if_neg (other "[" (by decide)),
    if_neg (other "\x7b" (by decide)), if_pos (head_typeArguments types)]

theorem readSuffixes_typeArguments (types : List String) (fuel more : Nat) (target : Expr)
    (rest : List String) :
    readSuffixes inner fuel (more + 1) target (typeArguments types :: rest) =
      (readList inner ")" fuel rest.tail).bind fun read =>
        readSuffixes inner fuel more (.call target (typesOf (typeArguments types)) read.1)
          read.2 := by
  have other : ∀ word : String, word.toList.head? ≠ some '<' → typeArguments types ≠ word :=
    fun word => ne_of_head (head_typeArguments types)
  rw [readSuffixes, if_neg (not_or.2 ⟨other "." (by decide), other "?." (by decide)⟩),
    if_neg (other "!" (by decide)), if_neg (other "[" (by decide)),
    if_neg (other "(" (by decide)), if_pos (head_typeArguments types)]

theorem readSuffixes_of_ends {rest : List String} (ends : Ends 6 rest) (fuel more : Nat)
    (target : Expr) : readSuffixes inner fuel (more + 1) target rest = some (target, rest) := by
  cases rest with
  | nil => rfl
  | cons word rest =>
    have stays := ends_cons.1 ends
    have other : ∀ suffix, 6 ≤ continuation suffix → word ≠ suffix := by
      rintro suffix goesOn rfl
      omega
    have untyped : word.toList.head? ≠ some '<' := by
      intro first
      rw [continuation, if_pos (.inr first)] at stays
      omega
    rw [readSuffixes, if_neg (not_or.2 ⟨other "." (by decide), other "?." (by decide)⟩),
      if_neg (other "!" (by decide)), if_neg (other "[" (by decide)),
      if_neg (other "(" (by decide)), if_neg untyped]

/-- Without an operator behind it, an operand is all there is. -/
theorem readBinary_of_ends {ops : List BinaryOp} {operand : Reader Expr} {row rest : List String}
    {expr : Expr} {rank : Nat} (read : operand row = some (expr, rest)) (ends : Ends rank rest)
    (ranked : ∀ op ∈ ops, rank ≤ op.rank) : readBinary ops operand row = some (expr, rest) := by
  have none : (ops.find? fun op => rest.head? = some op.symbol) = none := by
    rw [List.find?_eq_none]
    intro op member
    rw [decide_eq_true_eq]
    apply ends.head_ne
    rw [continuation_symbol]
    exact ranked op member
  rw [readBinary, read, Option.bind_some]
  dsimp only
  rw [none]
  rfl

theorem find?_symbol {ops : List BinaryOp} {op : BinaryOp} (member : op ∈ ops)
    (behind : List String) :
    (ops.find? fun other => (op.symbol :: behind).head? = some other.symbol) = some op := by
  have injective : ∀ {first second : BinaryOp}, first.symbol = second.symbol → first = second := by
    intro first second
    cases first <;> cases second <;> decide
  cases search : ops.find? fun other => (op.symbol :: behind).head? = some other.symbol with
  | none =>
    have unfound := List.find?_eq_none.1 search op member
    simp at unfound
  | some other =>
    have same := List.find?_some search
    rw [decide_eq_true_eq, List.head?_cons, Option.some.injEq] at same
    rw [injective same]

/-- With nothing behind it that goes on, a conjunction is all there is. -/
theorem readExpression_of_ends {fuel : Nat} {row rest : List String} {expr : Expr}
    (read : readConjunction inner fuel fuel row = some (expr, rest))
    (ends : Ends 1 rest) : readExpression inner fuel row = some (expr, rest) := by
  rw [readExpression, read, Option.bind_some]
  dsimp only
  rw [if_neg (ends.head_ne (by decide)), if_neg (ends.head_ne (by decide))]

end Steps

end Recordsmith.Dart
