/-
# Recordsmith.Text.Identifier — Dart identifiers

Record, field and type names are ASCII identifiers: a letter, `_` or `$`, then
letters, digits, `_` and `$`. Reserved words are identifiers here; the lints
speak about them.
-/
namespace Recordsmith.Text

set_option autoImplicit false

/-- A character an identifier may start with. -/
def isIdentifierStart (c : Char) : Bool :=
  c.isAlpha || c == '_' || c == '$'

/-- A character an identifier may continue with. -/
def isIdentifierPart (c : Char) : Bool :=
  isIdentifierStart c || c.isDigit

/-- A start character followed by part characters. -/
def isIdentifier : List Char → Bool
  | [] => false
  | c :: rest => isIdentifierStart c && rest.all isIdentifierPart

end Recordsmith.Text
