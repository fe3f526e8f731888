/-
# Recordsmith.Json.Reader — reading a JSON text

The grammar of JSON and nothing more: no comments, no trailing commas, no byte
order mark, and nothing but blanks behind the value. The recursion is on a count
of steps, for which twice the length of the text is enough, because a character
is consumed in every second step.
-/
import Recordsmith.Json.Basic

namespace Recordsmith.Json

open Recordsmith.Text

set_option autoImplicit false

/-- The four characters that may stand between the tokens of a JSON text. -/
def isSpacing (c : Char) : Bool :=
  c == ' ' || c == '\t' || c == '\n' || c == '\r'

/-- Drop the spacing in front. -/
def skipSpacing (text : List Char) : List Char :=
  text.dropWhile isSpacing

/-- The character that a one-letter escape stands for. -/
def shortEscape? : Char → Option Char
  | '"' => some '"'
  | '\\' => some '\\'
  | '/' => some '/'
  | 'b' => some '\x08'
  | 'f' => some '\x0c'
  | 'n' => some '\n'
  | 'r' => some '\r'
  | 't' => some '\t'
  | _ => none

/-- The unit that four hexadecimal digits write. -/
def unit? (a b c d : Char) : Option Piece :=
  if [a, b, c, d].all (isDigitOf 16) then some (.unit (ofDigits 16 [a, b, c, d])) else none

/-- Read a string from behind its opening quote. Control characters must be escaped. -/
def readString : List Char → Option (List Piece × List Char)
  | [] => none
  | '"' :: rest => some ([], rest)
  | '\\' :: 'u' :: a :: b :: c :: d :: rest =>
      (unit? a b c d).bind fun piece =>
        (readString rest).map fun (pieces, rest) => (piece :: pieces, rest)
  | '\\' :: letter :: rest =>
      (shortEscape? letter).bind fun c =>
        (readString rest).map fun (pieces, rest) => (.char c :: pieces, rest)
  | c :: rest =>
      if c.toNat < 0x20 || c == '\\' then none
      else (readString rest).map fun (pieces, rest) => (.char c :: pieces, rest)

/-- The digits of a whole number: `0`, or digits that do not start with `0`. -/
def readWhole? (text : List Char) : Option (List Char × List Char) :=
  match text with
  | '0' :: rest => some (['0'], rest)
  | _ =>
      let digits := text.takeWhile Char.isDigit
      if digits = [] then none else some (digits, text.dropWhile Char.isDigit)

/-- The digits behind a decimal point, if there is one. -/
def readFraction? (text : List Char) : Option (List Char × List Char) :=
  match text with
  | '.' :: rest =>
      let digits := rest.takeWhile Char.isDigit
      if digits = [] then none else some (digits, rest.dropWhile Char.isDigit)
  | _ => some ([], text)

/-- The digits of an exponent behind its sign. -/
def readExponentDigits? (sign : Int) (text : List Char) : Option (Int × List Char) :=
  let digits := text.takeWhile Char.isDigit
  if digits = [] then none
  else some (sign * (ofDigits 10 digits : Int), text.dropWhile Char.isDigit)

/-- The exponent, if there is one. -/
def readExponent? (text : List Char) : Option (Int × List Char) :=
  match text with
  | c :: rest =>
      if c = 'e' ∨ c = 'E' then
        match rest with
        | '+' :: rest => readExponentDigits? 1 rest
        | '-' :: rest => readExponentDigits? (-1) rest
        | _ => readExponentDigits? 1 rest
      else some (0, text)
  | [] => some (0, text)

/-- Read a number. Its sign is of no consequence to a schema and is dropped. -/
def readNumber (text : List Char) : Option (Decimal × List Char) :=
  let unsigned :=
    match text with
    | '-' :: rest => rest
    | _ => text
  (readWhole? unsigned).bind fun (whole, rest) =>
    (readFraction? rest).bind fun (fraction, rest) =>
      (readExponent? rest).map fun (exponent, rest) =>
        (Decimal.ofLeading whole fraction exponent, rest)

mutual

/-- Read a value and the spacing in front of it. -/
def readValue : Nat → List Char → Option (Json × List Char)
  | 0, _ => none
  | steps + 1, text =>
      match skipSpacing text with
      | 'n' :: 'u' :: 'l' :: 'l' :: rest => some (.null, rest)
      | 't' :: 'r' :: 'u' :: 'e' :: rest => some (.bool true, rest)
      | 'f' :: 'a' :: 'l' :: 's' :: 'e' :: rest => some (.bool false, rest)
      | '"' :: rest => (readString rest).map fun (pieces, rest) => (.string pieces, rest)
      | '[' :: rest =>
          match skipSpacing rest with
          | ']' :: rest => some (.array [], rest)
          | rest => (readItems steps rest).map fun (items, rest) => (.array items, rest)
      | '{' :: rest =>
          match skipSpacing rest with
          | '}' :: rest => some (.object [], rest)
          | rest => (readMembers steps rest).map fun (members, rest) => (.object members, rest)
      | rest => (readNumber rest).map fun (value, rest) => (.number value, rest)

/-- Read the items of an array up to its end. -/
def readItems : Nat → List Char → Option (List Json × List Char)
  | 0, _ => none
  | steps + 1, text =>
      (readValue steps text).bind fun (item, rest) =>
        match skipSpacing rest with
        | ',' :: rest => (readItems steps rest).map fun (items, rest) => (item :: items, rest)
        | ']' :: rest => some ([item], rest)
        | _ => none

/-- Read the members of an object up to its end. -/
def readMembers : Nat → List Char → Option (List (List Piece × Json) × List Char)
  | 0, _ => none
  | steps + 1, text =>
      match skipSpacing text with
      | '"' :: rest =>
          (readString rest).bind fun (key, rest) =>
            match skipSpacing rest with
            | ':' :: rest =>
                (readValue steps rest).bind fun (value, rest) =>
                  match skipSpacing rest with
                  | ',' :: rest =>
                      (readMembers steps rest).map fun (members, rest) =>
                        ((key, value) :: members, rest)
                  | '}' :: rest => some ([(key, value)], rest)
                  | _ => none
            | _ => none
      | _ => none

end

/-- The value that a whole text writes. -/
def parse? (text : String) : Option Json :=
  let chars := text.toList
  match readValue (2 * chars.length + 2) chars with
  | some (value, rest) => if skipSpacing rest = [] then some value else none
  | none => none

end Recordsmith.Json
