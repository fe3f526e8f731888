/-
# Recordsmith.Check — is a catalog fit for generation?

A check runs the usual lints and then tries to build the class of every record;
each record without a class adds an error. A catalog is valid if there is no
error among the findings.
-/
import Recordsmith.Generator
import Recordsmith.Lint

namespace Recordsmith

set_option autoImplicit false

/-- The findings about a catalog. -/
structure CheckReport where
  records : Nat
  diagnostics : List Diagnostic
deriving DecidableEq, Repr

/-- No finding is an error. -/
def CheckReport.isValid (report : CheckReport) : Bool :=
  !report.diagnostics.any Diagnostic.isError

/-- The finding about an unsupported field. -/
def Unsupported.toDiagnostic (unsupported : Unsupported) : Diagnostic :=
  ⟨.error, "codegen", unsupported.message,
    some (unsupported.record ++ "." ++ unsupported.field)⟩

namespace Catalog

/-- The findings about records without a class. -/
def codegenDiagnostics (catalog : Catalog) : List Diagnostic :=
  catalog.records.filterMap fun record =>
    match ({} : Settings).classLines record with
    | .ok _ => none
    | .error unsupported => some unsupported.toDiagnostic

/-- Check a catalog. -/
def check (catalog : Catalog) : CheckReport :=
  ⟨catalog.size, Lint.checkAll Lint.standard catalog.records ++ catalog.codegenDiagnostics⟩

/-- The events of a check. -/
def checkEvents (catalog : Catalog) : List Event :=
  catalog.records.filterMap fun record =>
    match ({} : Settings).classLines record with
    | .ok lines => some (classEvent record lines)
    | .error _ => none

end Catalog

end Recordsmith
