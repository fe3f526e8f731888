/-
# Recordsmith.TypeExpr.Error — why a type is no type

Each cause carries the trimmed text of the type it was found in, which for a
type argument is that argument alone.
-/
namespace Recordsmith

set_option autoImplicit false

/-- Why a text is not a type. -/
inductive TypeError where
  | unbalancedBrackets (text : String)
  | invalidIdentifier (name text : String)
  | emptyArgument (text : String)
  | trailingInput (trailing text : String)
  | arity (container : String) (expected found : Nat) (text : String)
  | missingArguments (container text : String)
deriving DecidableEq, Repr

/-- The sentence shown for a cause. -/
def TypeError.message : TypeError → String
  | .unbalancedBrackets text => "unbalanced brackets in '" ++ text ++ "'"
  | .invalidIdentifier name text =>
      "'" ++ name ++ "' is not a valid type name (in '" ++ text ++ "')"
  | .emptyArgument text => "empty type argument in '" ++ text ++ "'"
  | .trailingInput trailing text =>
      "unexpected '" ++ trailing ++ "' after type arguments in '" ++ text ++ "'"
  | .arity container expected found text =>
      container ++ " takes " ++ toString expected ++ " type argument(s), got " ++
        toString found ++ " in '" ++ text ++ "'"
  | .missingArguments container text =>
      container ++ " requires type arguments (in '" ++ text ++ "')"

end Recordsmith
