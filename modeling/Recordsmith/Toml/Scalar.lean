/-
# Recordsmith.Toml.Scalar — numbers, truth values, dates and times

A bare word is a truth value, an integer in one of four bases, a float, or a
date, a time or both. Digits may be grouped by single underscores between them,
and a decimal number has no superfluous zero in front. Seconds may be missing
from a time, and a leap second is a second.

What an integer is worth matters only where it is looked at. A word is therefore
taken for an integer by its outline alone: the mark of a base, with or without
digits; or decimal digits, an underscore, and then whatever keeps the underscores
between hexadecimal digits and is no float. One whose digits make no number has
no value.
-/
import Recordsmith.Text.Pieces
import Recordsmith.Toml.Basic

namespace Recordsmith.Toml

open Recordsmith.Text

set_option autoImplicit false

/-! ## Digits and underscores -/

/-- Whether a group starts with a digit. -/
def opensWith (isDigit : Char → Bool) (group : List Char) : Bool :=
  group.head?.any isDigit

/-- Whether a group ends with a digit. -/
def closesWith (isDigit : Char → Bool) (group : List Char) : Bool :=
  group.getLast?.any isDigit

/-- Whether all underscores of a word stand between digits; the first one may also
stand behind a sign. -/
def wellGrouped (isDigit : Char → Bool) (word : List Char) : Bool :=
  match pieces '_' word with
  | (_, []) => true
  | (first, others) =>
      (first.length = 1 || closesWith isDigit first) && others.all (opensWith isDigit) &&
        others.dropLast.all (closesWith isDigit)

/-- A number without its sign, and the sign. -/
def splitSign : List Char → Int × List Char
  | '+' :: rest => (1, rest)
  | '-' :: rest => (-1, rest)
  | text => (1, text)

/-- The number that digits of a base and underscores write, if there is a digit and
nothing else. -/
def groupedValue? (base : Nat) (text : List Char) : Option Nat :=
  let digits := text.filter (· ≠ '_')
  if digits ≠ [] ∧ digits.all (isDigitOf base) then some (ofDigits base digits) else none

/-! ## Integers -/

/-- An integer behind the mark of its base. -/
def based? (base : Nat) (text : List Char) : Option (Option Int) :=
  if (text.all fun c => c == '_' || isDigitOf base c) && wellGrouped (isDigitOf base) text then
    some ((groupedValue? base text).map Int.ofNat)
  else none

/-- A character that makes a decimal number with underscores something else than an
integer. -/
def isForeign (c : Char) : Bool :=
  c == ' ' || c == '.' || c == 'e' || c == 'E'

/-- A decimal integer. -/
def decimal? (word : List Char) : Option (Option Int) :=
  let (sign, text) := splitSign word
  match text.dropWhile Char.isDigit with
  | [] =>
      if text = [] ∨ (text.head? = some '0' ∧ text ≠ ['0']) then none
      else some (some (sign * (ofDigits 10 text : Int)))
  | c :: rest =>
      if c = '_' ∧ text.head? ≠ some '0' ∧ !rest.any isForeign ∧
          wellGrouped (isDigitOf 16) word then
        some ((groupedValue? 10 text).map fun value => sign * (value : Int))
      else none

/-- An integer: signed in base ten, unsigned behind the mark of another base. -/
def integer? (word : List Char) : Option (Option Int) :=
  match word with
  | '0' :: 'x' :: digits => based? 16 digits
  | '0' :: 'o' :: digits => based? 8 digits
  | '0' :: 'b' :: digits => based? 2 digits
  | _ => decimal? word

/-! ## Floats -/

/-- The digits in front of a text, with underscores left out, and the text behind
them. -/
def digitRun? (text : List Char) : Option (List Char × List Char) :=
  let inRun (c : Char) := c == '_' || c.isDigit
  let digits := (text.takeWhile inRun).filter Char.isDigit
  if digits = [] then none else some (digits, text.dropWhile inRun)

/-- The digits behind a point, if there is one. -/
def fraction? (text : List Char) : Option (List Char × List Char) :=
  match text with
  | '.' :: rest => digitRun? rest
  | _ => some ([], text)

/-- The exponent, if there is one. -/
def exponent? (text : List Char) : Option (Int × List Char) :=
  match text with
  | c :: rest =>
      if c = 'e' ∨ c = 'E' then
        let (sign, digits) := splitSign rest
        (digitRun? digits).map fun (digits, rest) => (sign * (ofDigits 10 digits : Int), rest)
      else some (0, text)
  | [] => some (0, [])

/-- A decimal number with a point or an exponent. -/
def decimalFloat? (text : List Char) : Option Decimal := do
  let (whole, behind) ← digitRun? text
  let (fraction, rest) ← fraction? behind
  let (exponent, rest) ← exponent? rest
  if behind = [] ∨ rest ≠ [] ∨ (text.head? = some '0' ∧ 1 < whole.length) then none
  else some (Decimal.ofParts whole fraction exponent)

/-- A float: a decimal number, or a special value. -/
def float? (word : List Char) : Option (Option Decimal) :=
  let (_, text) := splitSign word
  if text = ['i', 'n', 'f'] ∨ text = ['n', 'a', 'n'] then some none
  else if wellGrouped Char.isDigit word then (decimalFloat? text).map some
  else none

/-! ## Dates and times -/

/-- The number that exactly `width` digits in front write, and the text behind them. -/
def fixed? (width : Nat) (text : List Char) : Option (Nat × List Char) :=
  let digits := text.take width
  if digits.length = width ∧ digits.all Char.isDigit then
    some (ofDigits 10 digits, text.drop width)
  else none

/-- The text behind a mark. -/
def behind? (isMark : Char → Bool) : List Char → Option (List Char)
  | c :: rest => if isMark c then some rest else none
  | [] => none

/-- The number of days of a month. -/
def daysOf (year month : Nat) : Nat :=
  if month = 2 then
    if year % 4 = 0 ∧ (year % 100 ≠ 0 ∨ year % 400 = 0) then 29 else 28
  else if month ∈ [4, 6, 9, 11] then 30
  else 31

/-- Read a date. -/
def date? (text : List Char) : Option (List Char) := do
  let (year, text) ← fixed? 4 text
  let text ← behind? (· == '-') text
  let (month, text) ← fixed? 2 text
  let text ← behind? (· == '-') text
  let (day, text) ← fixed? 2 text
  if 1 ≤ month ∧ month ≤ 12 ∧ 1 ≤ day ∧ day ≤ daysOf year month then some text else none

/-- Read the fraction of a second, if there is one. -/
def secondFraction? (text : List Char) : Option (List Char) :=
  match text with
  | '.' :: rest =>
      match rest.takeWhile Char.isDigit with
      | [] => none
      | _ => some (rest.dropWhile Char.isDigit)
  | _ => some text

/-- Read the seconds, if there are any. -/
def seconds? (text : List Char) : Option (List Char) :=
  match text with
  | ':' :: rest =>
      (fixed? 2 rest).bind fun (second, rest) =>
        if second ≤ 60 then secondFraction? rest else none
  | _ => some text

/-- Read hours and minutes. -/
def clock? (text : List Char) : Option (List Char) := do
  let (hour, text) ← fixed? 2 text
  let text ← behind? (· == ':') text
  let (minute, text) ← fixed? 2 text
  if hour ≤ 23 ∧ minute ≤ 59 then some text else none

/-- Read a time of day. -/
def time? (text : List Char) : Option (List Char) :=
  (clock? text).bind seconds?

/-- Read the distance from universal time, if there is one. -/
def offset? (text : List Char) : Option (List Char) :=
  match text with
  | [] => some []
  | c :: rest =>
      if c = 'Z' ∨ c = 'z' then some rest
      else if c = '+' ∨ c = '-' then clock? rest
      else none

/-- A date, a time of day, or both with or without an offset. -/
def isMoment (text : List Char) : Bool :=
  match date? text with
  | none => time? text == some []
  | some [] => true
  | some (separator :: rest) =>
      (separator == 'T' || separator == 't' || separator == ' ') &&
        ((time? rest).bind offset?) == some []

/-- The value of a bare word. -/
def scalar? (word : List Char) : Option Node :=
  if word = ['t', 'r', 'u', 'e'] then some (.bool true)
  else if word = ['f', 'a', 'l', 's', 'e'] then some (.bool false)
  else if isMoment word then some .moment
  else ((integer? word).map Node.integer).or ((float? word).map Node.float)

end Recordsmith.Toml
