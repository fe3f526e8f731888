/-
# Recordsmith.Diagnostic — findings about records
-/
namespace Recordsmith

set_option autoImplicit false

/-- How bad a finding is. -/
inductive Severity where
  | error
  | warning
  | info
deriving DecidableEq, Repr

/-- The word for a severity. -/
def Severity.word : Severity → String
  | .error => "error"
  | .warning => "warning"
  | .info => "info"

/-- A finding, the check it comes from, and the record or field it is about. -/
structure Diagnostic where
  severity : Severity
  lint : String
  message : String
  location : Option String
deriving DecidableEq, Repr

namespace Diagnostic

/-- Only errors make a schema invalid. -/
def isError (diagnostic : Diagnostic) : Bool :=
  diagnostic.severity = .error

/-- Whether the finding is a warning. -/
def isWarning (diagnostic : Diagnostic) : Bool :=
  diagnostic.severity = .warning

/-- The finding on one line, with its place. -/
def render (diagnostic : Diagnostic) : String :=
  diagnostic.severity.word ++ ": " ++ diagnostic.message ++
    match diagnostic.location with
    | some location => " (at " ++ location ++ ")"
    | none => ""

end Diagnostic

end Recordsmith
