/-
# Recordsmith.Layout.Format — from tokens to lines

Layout has four steps:

1. `dropSuppressed` takes out the `noStatementEnd` markers and the semicolons
   they cancel;
2. `closeUp` takes out an `endLine` right before a `dedent`, so that no blank
   line precedes a closing brace;
3. `splitLines` cuts the sequence at the markers that start a line;
4. `placeLines` follows the depth and writes each line.

Depth and text of a line do not depend on the indent (`placed`); `format` puts
the indent in front. A line without text is written as a blank line if an
`endLine` started it, and is left out otherwise.
-/
import Recordsmith.Layout.Indent
import Recordsmith.Layout.Token

namespace Recordsmith.Layout

set_option autoImplicit false

/-- Take out the cancelled semicolons. `suppressed` says that one is to be cancelled;
any token but `noSpaceBefore` lifts that. -/
def dropSuppressed (suppressed : Bool) : List Token → List Token
  | [] => []
  | .noStatementEnd :: rest => dropSuppressed true rest
  | .noSpaceBefore :: rest => .noSpaceBefore :: dropSuppressed suppressed rest
  | .statementEnd :: rest =>
      if suppressed then dropSuppressed false rest
      else .statementEnd :: dropSuppressed false rest
  | token :: rest => token :: dropSuppressed false rest

/-- Take out an `endLine` right before a `dedent`. -/
def closeUp : List Token → List Token
  | [] => []
  | .endLine :: .dedent :: rest => .dedent :: closeUp rest
  | token :: rest => token :: closeUp rest

/-- The tokens before the first line start, and for each line start the tokens
behind it. -/
def splitLines : List Token → List Token × List (Token × List Token)
  | [] => ([], [])
  | token :: rest =>
      let (body, lines) := splitLines rest
      if token.startsLine then ([], (token, body) :: lines) else (token :: body, lines)

/-- The text of one line; `glued` says that no space precedes the next text. -/
def lineText (glued : Bool) : List Token → String
  | [] => ""
  | .text value :: rest =>
      if value = "" then lineText glued rest
      else (if glued then "" else " ") ++ value ++ lineText false rest
  | .noSpaceBefore :: rest => lineText true rest
  | .statementEnd :: rest => ";" ++ lineText false rest
  | _ :: rest => lineText glued rest

/-- The depth behind a line start. -/
def depthAfter (depth : Nat) : Token → Nat
  | .indent => depth + 1
  | .dedent => depth - 1
  | _ => depth

/-- Depth and text of the lines that are written, read from depth `depth` on. -/
def placeLines (depth : Nat) : List (Token × List Token) → List (Nat × String)
  | [] => []
  | (start, body) :: rest =>
      let depth := depthAfter depth start
      let text := lineText true body
      if text ≠ "" ∨ start = .endLine then (depth, text) :: placeLines depth rest
      else placeLines depth rest

/-- Depth and text of the lines of a token sequence. -/
def placed (tokens : List Token) : List (Nat × String) :=
  let (first, lines) := splitLines (closeUp (dropSuppressed false tokens))
  let text := lineText true first
  if text ≠ "" then (0, text) :: placeLines 0 lines else placeLines 0 lines

/-- A text at a depth; a blank line has no indent. -/
def writeLine (indent : Indent) (depth : Nat) (text : String) : String :=
  if text = "" then "" else indent.ofDepth depth ++ text

/-- The lines of a token sequence. -/
def format (indent : Indent) (tokens : List Token) : List String :=
  (placed tokens).map fun (depth, text) => writeLine indent depth text

end Recordsmith.Layout
