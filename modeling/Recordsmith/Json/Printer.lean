/-
# Recordsmith.Json.Printer — writing JSON strings

A string literal escapes quotes, backslashes and control characters: those with
a short escape by it, the others by four hexadecimal digits in lower case. All
else is written as it is.
-/
import Recordsmith.Text.Digits

namespace Recordsmith.Json

open Recordsmith.Text

set_option autoImplicit false

/-- A character within a literal. -/
def escapeChar (c : Char) : List Char :=
  if c = '"' ∨ c = '\\' then ['\\', c]
  else if c = '\n' then ['\\', 'n']
  else if c = '\r' then ['\\', 'r']
  else if c = '\t' then ['\\', 't']
  else if c = '\x08' then ['\\', 'b']
  else if c = '\x0c' then ['\\', 'f']
  else if c.toNat < 0x20 then
    ['\\', 'u'] ++ hexDigits 4 c.toNat
  else [c]

/-- The literal for a string. -/
def quote (value : String) : String :=
  String.ofList ('"' :: (value.toList.flatMap escapeChar ++ ['"']))

end Recordsmith.Json
