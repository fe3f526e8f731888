/-
# Recordsmith.Decimal — decimal numbers and the range of doubles

Documents may hold numbers that no double can hold. Where a document's numbers
are read as doubles, such a number makes the document unreadable; where they are
skipped, it does not matter. The largest finite double is `2^1024 - 2^971`, and
what is nearer to `2^1024` than to that, or equally near, is out of range.

There are two ways to read a number. The exact one keeps all digits and rounds
once; `fitsDouble` says whether it stays in range. The quick one keeps the
leading digits that fit into 64 bits, rounds them and the power of ten each to a
double, and multiplies; `productFitsDouble` says whether that product stays in
range. Right below the bound the two differ.
-/
import Recordsmith.Text.Digits

namespace Recordsmith

open Recordsmith.Text

set_option autoImplicit false

/-- The number `coefficient * 10 ^ exponent`. -/
structure Decimal where
  coefficient : Nat
  exponent : Int
deriving DecidableEq, Repr

namespace Decimal

/-- The number written by digits, digits behind the point, and an exponent. -/
def ofParts (whole fraction : List Char) (exponent : Int) : Decimal :=
  ⟨ofDigits 10 (whole ++ fraction), exponent - fraction.length⟩

/-- Take up digits behind a number as long as it fits into 64 bits: the number, and
how many digits are left. -/
def takeUp (value : Nat) : List Char → Nat × Nat
  | [] => (value, 0)
  | c :: rest =>
      let next := value * 10 + ofDigits 10 [c]
      if next < Nat.pow 2 64 then takeUp next rest else (value, rest.length + 1)

/-- The number that the leading digits write. Digits in front of the point that are
left out count as zeros; of those behind it, the first left out ends the number. -/
def ofLeading (whole fraction : List Char) (exponent : Int) : Decimal :=
  let (front, left) := takeUp 0 whole
  let (coefficient, idle) := takeUp front fraction
  ⟨coefficient, exponent + left - (fraction.length - idle : Nat)⟩

/-- The least number that rounds beyond the largest finite double. -/
def doubleBound : Nat :=
  Nat.pow 2 1024 - Nat.pow 2 970

/-- Whether the number rounds to a finite double. Numbers far from the bound are
told by their order of magnitude alone. -/
def fitsDouble (d : Decimal) : Bool :=
  if d.coefficient = 0 then true
  else
    let order : Int := (Nat.toDigits 10 d.coefficient).length + d.exponent
    if order ≤ 308 then true
    else if 310 ≤ order then false
    else if 0 ≤ d.exponent then d.coefficient * Nat.pow 10 d.exponent.toNat < doubleBound
    else d.coefficient < doubleBound * Nat.pow 10 (-d.exponent).toNat

/-- The double nearest to a whole number; of two equally near ones that with the even
mantissa of 53 bits. -/
def nearestDouble (value : Nat) : Nat :=
  if value < Nat.pow 2 53 then value
  else
    let unit := Nat.pow 2 (value.log2 - 52)
    let mantissa := value / unit
    let rest := 2 * (value % unit)
    if unit < rest ∨ (unit = rest ∧ mantissa % 2 = 1) then (mantissa + 1) * unit
    else mantissa * unit

/-- The largest power of ten that is near a double. -/
def maxDoubleExponent : Int := 308

/-- Whether the product of the doubles nearest to the coefficient and to the power of
ten is finite. -/
def productFitsDouble (d : Decimal) : Bool :=
  d.coefficient = 0 || d.exponent < 0 ||
    (d.exponent ≤ maxDoubleExponent &&
      nearestDouble d.coefficient * nearestDouble (Nat.pow 10 d.exponent.toNat) < doubleBound)

end Decimal

end Recordsmith
