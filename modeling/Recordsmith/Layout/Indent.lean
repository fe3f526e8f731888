/-
# Recordsmith.Layout.Indent — one level of depth
-/
namespace Recordsmith

set_option autoImplicit false

/-- What stands in front of a line for each level of its depth. -/
inductive Indent where
  | spaces (width : Nat)
  | tab
deriving DecidableEq, Repr

namespace Indent

/-- Two spaces, as is usual in Dart. -/
def standard : Indent := .spaces 2

/-- The text for one level. -/
def unit : Indent → String
  | .spaces width => String.ofList (List.replicate width ' ')
  | .tab => "\t"

/-- The text for `depth` levels. -/
def ofDepth (indent : Indent) (depth : Nat) : String :=
  String.join (List.replicate depth indent.unit)

end Indent

end Recordsmith
