/-
# Recordsmith.TypeExpr.Printer — writing a type

The canonical text of a type: no blanks but one behind each comma, and the null
mark last. Generated code and error messages spell types this way.
-/
import Recordsmith.TypeExpr.Basic

namespace Recordsmith.TypeExpr

set_option autoImplicit false

/-- The mark behind a type that may be null. -/
def nullMark (nullable : Bool) : String :=
  if nullable then "?" else ""

mutual

/-- The canonical text of a type. -/
def render : TypeExpr → String
  | .scalar name nullable => name ++ nullMark nullable
  | .list element nullable =>
      Container.list.name ++ "<" ++ render element ++ ">" ++ nullMark nullable
  | .map key value nullable =>
      Container.map.name ++ "<" ++ render key ++ ", " ++ render value ++ ">" ++ nullMark nullable
  | .generic name args nullable =>
      name ++ "<" ++ ", ".intercalate (renderEach args) ++ ">" ++ nullMark nullable

def renderEach : List TypeExpr → List String
  | [] => []
  | arg :: rest => render arg :: renderEach rest

end

end Recordsmith.TypeExpr
