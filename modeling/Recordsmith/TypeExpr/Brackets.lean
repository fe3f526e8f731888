/-
# Recordsmith.TypeExpr.Brackets — angle brackets

Two scans that count `<` and `>`. `piecesOutside` cuts a text at the delimiters
that stand outside every pair, and refuses a text whose brackets are not
balanced; the brackets themselves are never delimiters. `upToClose` reads from
just behind an opening bracket to the bracket that closes it.

* `piecesOutside_extent`: cutting loses the delimiters and nothing else;
* `upToClose_length`: the closing bracket is all that is lost.
-/
import Recordsmith.Text.Blank
import Recordsmith.TypeExpr.Error

namespace Recordsmith.TypeExpr

open Recordsmith.Text

set_option autoImplicit false

/-- Put a character in front of the first part of what was read. -/
def addFront {α : Type} (c : Char) (read : List Char × α) : List Char × α :=
  (c :: read.1, read.2)

/-- The first piece and those behind it, for a text read at bracket depth `depth`. -/
def piecesFrom (delimiter : Char) : Nat → List Char → Option (List Char × List (List Char))
  | depth, [] => if depth = 0 then some ([], []) else none
  | depth, c :: rest =>
      if c = '<' then
        (piecesFrom delimiter (depth + 1) rest).map (addFront c)
      else if c = '>' then
        if depth = 0 then none else (piecesFrom delimiter (depth - 1) rest).map (addFront c)
      else if c = delimiter ∧ depth = 0 then
        (piecesFrom delimiter depth rest).map fun (piece, others) => ([], piece :: others)
      else
        (piecesFrom delimiter depth rest).map (addFront c)

/-- The pieces between the delimiters outside brackets; `none` if the brackets do not balance. -/
def piecesOutside (delimiter : Char) (text : List Char) : Option (List (List Char)) :=
  (piecesFrom delimiter 0 text).map fun (piece, others) => piece :: others

/-- The pieces between the delimiters outside brackets, each trimmed. -/
def splitOutside (delimiter : Char) (text : List Char) :
    Except TypeError (List (List Char)) :=
  match piecesOutside delimiter text with
  | none => .error (.unbalancedBrackets (String.ofList text))
  | some pieces => .ok (pieces.map trim)

/-- The text up to the bracket that closes an open one, and the text behind it;
`depth` brackets were opened in between. -/
def upToClose : Nat → List Char → Option (List Char × List Char)
  | _, [] => none
  | depth, c :: rest =>
      if c = '<' then
        (upToClose (depth + 1) rest).map (addFront c)
      else if c = '>' then
        if depth = 0 then some ([], rest) else (upToClose (depth - 1) rest).map (addFront c)
      else
        (upToClose depth rest).map (addFront c)

/-- The room a list of pieces takes, one delimiter for each. -/
def extent : List (List Char) → Nat
  | [] => 0
  | piece :: rest => piece.length + 1 + extent rest

theorem piecesFrom_extent {delimiter : Char} {depth : Nat} {text piece : List Char}
    {others : List (List Char)} (cut : piecesFrom delimiter depth text = some (piece, others)) :
    piece.length + extent others = text.length := by
  fun_induction piecesFrom delimiter depth text generalizing piece others with
  | case1 => cases cut; rfl
  | case2 => cases cut
  | case4 => cases cut
  | case6 depth c rest _ _ _ ih =>
    obtain ⟨⟨first, behind⟩, found, same⟩ := Option.map_eq_some_iff.1 cut
    cases same
    have := ih found
    simp only [List.length_nil, List.length_cons, extent] at this ⊢
    omega
  | case3 | case5 | case7 =>
    rename_i ih
    obtain ⟨⟨first, behind⟩, found, same⟩ := Option.map_eq_some_iff.1 cut
    cases same
    have := ih found
    simp only [List.length_cons]
    omega

theorem piecesOutside_extent {delimiter : Char} {text : List Char} {pieces : List (List Char)}
    (cut : piecesOutside delimiter text = some pieces) : extent pieces = text.length + 1 := by
  obtain ⟨⟨piece, others⟩, found, rfl⟩ := Option.map_eq_some_iff.1 cut
  have := piecesFrom_extent found
  simp only [extent]
  omega

theorem extent_map_trim_le (pieces : List (List Char)) :
    extent (pieces.map trim) ≤ extent pieces := by
  induction pieces with
  | nil => simp
  | cons piece rest ih =>
    have := length_trim_le piece
    simp only [extent, List.map_cons]
    omega

theorem splitOutside_extent_le {delimiter : Char} {text : List Char} {pieces : List (List Char)}
    (cut : splitOutside delimiter text = .ok pieces) : extent pieces ≤ text.length + 1 := by
  rw [splitOutside] at cut
  split at cut
  · simp at cut
  · next found =>
    injection cut with cut
    subst cut
    exact piecesOutside_extent found ▸ extent_map_trim_le _

theorem upToClose_length {depth : Nat} {text inner after : List Char}
    (closed : upToClose depth text = some (inner, after)) :
    inner.length + after.length + 1 = text.length := by
  fun_induction upToClose depth text generalizing inner after with
  | case1 => cases closed
  | case3 => cases closed; simp
  | case2 | case4 | case5 =>
    rename_i ih
    obtain ⟨⟨front, back⟩, found, same⟩ := Option.map_eq_some_iff.1 closed
    cases same
    have := ih found
    simp only [List.length_cons]
    omega

end Recordsmith.TypeExpr
