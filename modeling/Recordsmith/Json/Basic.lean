/-
# Recordsmith.Json.Basic — JSON as it is written

A `Json` keeps what a JSON text says and interprets as little as possible: an
object keeps its members in order with repetitions, a number keeps its leading
digits, and a string keeps the UTF-16 units of its `\u` escapes. A string need
therefore not be text; `text?` puts surrogate pairs together and fails on a
surrogate that stands alone.

* `text?` interprets a string;
* `decodable` says that a whole value can be interpreted: all strings are text,
  all numbers fit a double, and containers nest no deeper than there is room for.
-/
import Recordsmith.Decimal

namespace Recordsmith

set_option autoImplicit false

namespace Json

/-- A part of a JSON string: a character, or a UTF-16 unit written in digits. -/
inductive Piece where
  | char (c : Char)
  | unit (code : Nat)
deriving DecidableEq, Repr

/-- A unit that starts a surrogate pair. -/
def isHighSurrogate (code : Nat) : Bool :=
  0xd800 ≤ code && code < 0xdc00

/-- A unit that ends a surrogate pair. -/
def isLowSurrogate (code : Nat) : Bool :=
  0xdc00 ≤ code && code < 0xe000

/-- The character that a surrogate pair stands for. -/
def pairedChar (high low : Nat) : Char :=
  Char.ofNat (0x10000 + (high - 0xd800) * 0x400 + (low - 0xdc00))

/-- The characters of a string, unless a surrogate stands alone. -/
def chars? : List Piece → Option (List Char)
  | [] => some []
  | .char c :: rest => (chars? rest).map (c :: ·)
  | .unit high :: .unit low :: rest =>
      if isHighSurrogate high then
        if isLowSurrogate low then (chars? rest).map (pairedChar high low :: ·) else none
      else if isLowSurrogate high then none
      else (chars? (.unit low :: rest)).map (Char.ofNat high :: ·)
  | .unit code :: rest =>
      if isHighSurrogate code || isLowSurrogate code then none
      else (chars? rest).map (Char.ofNat code :: ·)

/-- The text of a string, unless a surrogate stands alone. -/
def text? (pieces : List Piece) : Option String :=
  (chars? pieces).map String.ofList

end Json

/-- A JSON value. -/
inductive Json where
  | null
  | bool (value : Bool)
  | number (value : Decimal)
  | string (pieces : List Json.Piece)
  | array (items : List Json)
  | object (members : List (List Json.Piece × Json))

namespace Json

mutual

/-- Whether a value can be interpreted with `room` more levels of containers. -/
def decodable (room : Nat) : Json → Bool
  | .null => true
  | .bool _ => true
  | .number value => value.productFitsDouble
  | .string pieces => (text? pieces).isSome
  | .array items => 0 < room && allDecodable (room - 1) items
  | .object members => 0 < room && membersDecodable (room - 1) members

def allDecodable (room : Nat) : List Json → Bool
  | [] => true
  | item :: rest => decodable room item && allDecodable room rest

def membersDecodable (room : Nat) : List (List Piece × Json) → Bool
  | [] => true
  | (key, value) :: rest =>
      (text? key).isSome && decodable room value && membersDecodable room rest

end

end Json

end Recordsmith
