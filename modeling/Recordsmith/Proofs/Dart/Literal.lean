/-
# Recordsmith.Proofs.Dart.Literal — where a string literal ends

`scanLiteral` reads a literal in double quotes from the front of a text, as the grammar of
Dart has it for literals of one line: a backslash stands for the character behind it, or
for a line feed if that is an `n`; a `$` without a backslash starts an interpolation; and a
line feed or carriage return must not stand in the literal as it is.

A written string is scanned to its end and no further, whatever follows it, with one
exception. `escapeChar` writes a line feed as `\n` but leaves a carriage return as it is,
and so the scan stops at the first one (`scanLiteral_quote`).

* `scanBody_escapeChar`: one character;
* `scanBody_escaped`, `scanBody_return`: what is read up to the end, or up to the first
  carriage return.
-/
import Recordsmith.Dart.Quoted
import Recordsmith.TypeExpr.Brackets

namespace Recordsmith.Dart

open Recordsmith.TypeExpr (addFront)

set_option autoImplicit false

/-- Why a text does not start with a literal. -/
inductive LiteralFault where
  | unopened
  | unclosed
  | interpolation
  | lineTerminator
deriving DecidableEq, Repr

/-- A character that ends a line. -/
def isLineTerminator (c : Char) : Bool :=
  c == '\n' || c == '\r'

/-- What a backslash and this character stand for. -/
def escapeMeaning (c : Char) : Char :=
  if c = 'n' then '\n' else c

/-- The value of a literal behind its opening quote, and the text behind the closing one. -/
def scanBody : List Char → Except LiteralFault (List Char × List Char)
  | [] => .error .unclosed
  | '\\' :: [] => .error .unclosed
  | '\\' :: c :: rest =>
      if isLineTerminator c then .error .lineTerminator
      else (scanBody rest).map (addFront (escapeMeaning c))
  | c :: rest =>
      if c = '"' then .ok ([], rest)
      else if c = '$' then .error .interpolation
      else if isLineTerminator c then .error .lineTerminator
      else (scanBody rest).map (addFront c)

/-- The value of the literal that a text starts with, and the text behind it. -/
def scanLiteral : List Char → Except LiteralFault (List Char × List Char)
  | '"' :: rest => scanBody rest
  | _ => .error .unopened

/-! ## Written characters -/

/-- Every character but a carriage return is read as it was before it was written. -/
theorem scanBody_escapeChar {c : Char} (noReturn : c ≠ '\r') (rest : List Char) :
    scanBody (escapeChar c ++ rest) = (scanBody rest).map (addFront c) := by
  rw [escapeChar]
  split
  · next special =>
    rcases special with rfl | rfl | rfl <;> rfl
  · next ordinary =>
    rw [not_or, not_or] at ordinary
    obtain ⟨notQuote, notEscape, notDollar⟩ := ordinary
    split
    · next newline =>
      subst newline
      rfl
    · next notNewline =>
      have within : isLineTerminator c = false := by simp [isLineTerminator, notNewline, noReturn]
      rw [List.singleton_append, scanBody, if_neg notQuote, if_neg notDollar, within]
      · rfl
      · exact fun same _ => notEscape same
      · exact fun _ _ same _ => notEscape same

theorem scanBody_carriageReturn (rest : List Char) :
    scanBody (escapeChar '\r' ++ rest) = .error .lineTerminator := rfl

/-! ## Written strings -/

/-- A scan goes over written characters and on behind them. -/
theorem scanBody_escaped {value : List Char} (noReturn : '\r' ∉ value) (rest : List Char) :
    scanBody (value.flatMap escapeChar ++ rest) =
      (scanBody rest).map fun read => (value ++ read.1, read.2) := by
  induction value with
  | nil => cases h : scanBody rest <;> simp [h, Except.map]
  | cons c value ih =>
    rw [List.mem_cons, not_or] at noReturn
    rw [List.flatMap_cons, List.append_assoc, scanBody_escapeChar (Ne.symm noReturn.1),
      ih noReturn.2]
    cases scanBody rest <;> rfl

theorem scanBody_return {value : List Char} (withReturn : '\r' ∈ value) (rest : List Char) :
    scanBody (value.flatMap escapeChar ++ rest) = .error .lineTerminator := by
  -- What stands in front of the first carriage return is read.
  obtain ⟨front, back, rfl, noReturn⟩ := List.eq_append_cons_of_mem withReturn
  rw [List.flatMap_append, List.flatMap_cons, List.append_assoc, List.append_assoc,
    scanBody_escaped noReturn, scanBody_carriageReturn]
  rfl

/-- **A written string is read back.** Without a carriage return in it, its literal is scanned
exactly to its end, whatever follows, and gives the string. With one, the scan stops at a line
terminator. An interpolation is never met. -/
theorem scanLiteral_quote (value : String) (behind : List Char) :
    (scanLiteral ((quote value).toList ++ behind) = .ok (value.toList, behind) ↔
      '\r' ∉ value.toList) ∧
    (scanLiteral ((quote value).toList ++ behind) = .error .lineTerminator ↔
      '\r' ∈ value.toList) ∧
    scanLiteral ((quote value).toList ++ behind) ≠ .error .interpolation := by
  have opened : scanLiteral ((quote value).toList ++ behind) =
      scanBody (value.toList.flatMap escapeChar ++ '"' :: behind) := by
    rw [quote, String.toList_ofList, quoteChars, List.cons_append, List.append_assoc]
    rfl
  have closed : scanBody ('"' :: behind) = .ok ([], behind) := rfl
  rw [opened]
  by_cases withReturn : '\r' ∈ value.toList
  · simp [scanBody_return withReturn, withReturn]
  · simp [scanBody_escaped withReturn, closed, Except.map, withReturn]

/-- A carriage return stands in the literal as it is. -/
theorem carriageReturn_unescaped :
    scanLiteral ((quote "a\rb").toList ++ [';']) = .error .lineTerminator ∧
      scanLiteral ((quote "a\rb").toList ++ [';']) ≠ .ok ("a\rb".toList, [';']) := by
  have stopped : scanLiteral ((quote "a\rb").toList ++ [';']) = .error .lineTerminator := rfl
  rw [stopped]
  exact ⟨rfl, by simp⟩

end Recordsmith.Dart
