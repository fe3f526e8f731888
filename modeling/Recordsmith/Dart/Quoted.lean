/-
# Recordsmith.Dart.Quoted — string literals

A string is written in double quotes. A backslash stands before quotes,
backslashes and the dollar signs that would start an interpolation, and a line
feed is written `\n`. Every other character is written as it is.
-/
namespace Recordsmith.Dart

set_option autoImplicit false

/-- A character within a literal. -/
def escapeChar (c : Char) : List Char :=
  if c = '"' ∨ c = '\\' ∨ c = '$' then ['\\', c]
  else if c = '\n' then ['\\', 'n']
  else [c]

/-- The literal for a list of characters. -/
def quoteChars (value : List Char) : List Char :=
  '"' :: (value.flatMap escapeChar ++ ['"'])

/-- The literal for a string. -/
def quote (value : String) : String :=
  String.ofList (quoteChars value.toList)

end Recordsmith.Dart
