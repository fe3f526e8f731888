/-
# Recordsmith.Event — what a run tells about itself

A run produces events on five levels. Which of them are shown is a matter of a
threshold, which the run itself does not see.
-/
import Recordsmith.Text.Digits

namespace Recordsmith

open Recordsmith.Text

set_option autoImplicit false

/-- The levels of events, the gravest first. -/
inductive Level where
  | error
  | warn
  | info
  | debug
  | trace
deriving DecidableEq, Repr

namespace Level

/-- The distance from the gravest level. -/
def rank : Level → Nat
  | .error => 0
  | .warn => 1
  | .info => 2
  | .debug => 3
  | .trace => 4

/-- The word shown for a level. -/
def word : Level → String
  | .error => "ERROR"
  | .warn => "WARN"
  | .info => "INFO"
  | .debug => "DEBUG"
  | .trace => "TRACE"

end Level

/-- Something a run tells about itself. -/
structure Event where
  level : Level
  message : String
deriving DecidableEq, Repr

namespace Event

/-- The control characters of ASCII that terminals act on. -/
def terminalControls : List Char :=
  ['\x07', '\x08', '\x0c', '\x1b', '\x7f']

/-- A character as it is shown. One that a terminal would act on is written by its
code, so that no file name can steer the terminal. -/
def shownChar (c : Char) : List Char :=
  if c ∈ terminalControls then ['\\', 'x'] ++ hexDigits 2 c.toNat
  else if 0x80 ≤ c.toNat ∧ c.toNat ≤ 0x9f then
    ['\\', 'u', '\x7b'] ++ hexDigits 2 c.toNat ++ ['\x7d']
  else [c]

/-- The message as it is shown. -/
def shown (event : Event) : String :=
  String.ofList (event.message.toList.flatMap shownChar)

end Event

/-- The least grave level that is shown; `none` shows nothing. -/
abbrev Threshold := Option Level

namespace Threshold

/-- Whether events of a level are shown. -/
def admits (threshold : Threshold) (level : Level) : Bool :=
  match threshold with
  | none => false
  | some least => level.rank ≤ least.rank

/-- The threshold with this name. -/
def ofName? : String → Option Threshold
  | "off" => some none
  | "error" => some (some .error)
  | "warn" => some (some .warn)
  | "info" => some (some .info)
  | "debug" => some (some .debug)
  | "trace" => some (some .trace)
  | _ => none

/-- The threshold for a number of requests to say more. -/
def ofVerbosity : Nat → Threshold
  | 0 => some .warn
  | 1 => some .info
  | 2 => some .debug
  | _ => some .trace

end Threshold

end Recordsmith
