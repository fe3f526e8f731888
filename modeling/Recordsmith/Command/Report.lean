/-
# Recordsmith.Command.Report — what a run shows at its end

A run that wrote files lists them; one that wrote to standard output shows
nothing. A check shows its findings and, if the schema is valid, a line that
says so. The findings can also be written as a JSON array.
-/
import Recordsmith.Check
import Recordsmith.Json.Printer

namespace Recordsmith.Command

set_option autoImplicit false

/-- The lines behind a run that generated `generated` records of `total`. -/
def generateReport (generated total : Nat) (written : List String) : List String :=
  if written = [] then []
  else
    ["Records: " ++ toString generated] ++
      (if generated < total then ["Skipped: " ++ toString (total - generated)] else []) ++
      "Written:" :: written.map ("  + " ++ ·)

/-- The lines for a finding. -/
def diagnosticLines (diagnostic : Diagnostic) : List String :=
  (diagnostic.severity.word ++ "[" ++ diagnostic.lint ++ "]: " ++ diagnostic.message) ::
    diagnostic.location.toList.map ("  --> " ++ ·)

/-- The line for a valid schema. -/
def validLine (paths : List String) (records : Nat) : String :=
  "✓ " ++ ", ".intercalate paths ++ " valid (" ++ toString records ++ " record" ++
    (if records = 1 then "" else "s") ++ ")"

/-- The lines behind a check. -/
def checkReport (paths : List String) (report : CheckReport) : List String :=
  report.diagnostics.flatMap diagnosticLines ++
    (if report.diagnostics = [] then [] else [""]) ++
    (if report.isValid then [validLine paths report.records] else [])

/-- The lines of a finding in JSON, without the comma behind it. -/
def jsonLines (diagnostic : Diagnostic) : List String :=
  let location :=
    match diagnostic.location with
    | some location => Json.quote location
    | none => "null"
  [ "  \x7b",
    "    \"severity\": " ++ Json.quote diagnostic.severity.word ++ ",",
    "    \"lint\": " ++ Json.quote diagnostic.lint ++ ",",
    "    \"message\": " ++ Json.quote diagnostic.message ++ ",",
    "    \"location\": " ++ location,
    "  \x7d" ]

/-- Findings as a JSON array, with a line feed behind it. -/
def jsonReport (diagnostics : List Diagnostic) : String :=
  if diagnostics = [] then "[]\n"
  else
    "[\n" ++
      ",\n".intercalate
        (diagnostics.map fun diagnostic => "\n".intercalate (jsonLines diagnostic)) ++
      "\n]\n"

end Recordsmith.Command
