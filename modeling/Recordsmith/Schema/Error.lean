/-
# Recordsmith.Schema.Error — why a schema is refused

One constructor for each cause, from a file that cannot be read to a record
defined twice. A cause has a message, a code for tools, and for some causes a
hint. Those that concern one record name it.
-/
import Recordsmith.TypeExpr.Error

namespace Recordsmith

set_option autoImplicit false

/-- Why a schema file, a record or a field is refused. -/
inductive SchemaError where
  | unreadable (path : String)
  | unsupportedFile (path : String)
  | invalidJson (path : String)
  | invalidToml (path : String)
  | invalidField (record : String) (index : Nat) (text : String)
  | invalidType (record field : String) (cause : TypeError)
  | invalidName (record name : String)
  | emptyRecord (record : String)
  | duplicateField (record field : String)
  | duplicateRecord (name path previous : String)
  | reservedName (name : String)
deriving DecidableEq, Repr

namespace SchemaError

/-- The sentence shown for a cause; the fault inside a type is not part of it. -/
def message : SchemaError → String
  | .unreadable path => "failed to read '" ++ path ++ "'"
  | .unsupportedFile path => "unsupported schema file '" ++ path ++ "'"
  | .invalidJson path => "failed to parse " ++ path
  | .invalidToml path => "failed to parse " ++ path
  | .invalidField record index text =>
      "problem splitting field " ++ toString index ++ " of " ++ record ++ ": " ++ text
  | .invalidType record field _ => "invalid type for field '" ++ field ++ "' of " ++ record
  | .invalidName record name =>
      "'" ++ name ++ "' in " ++ record ++ " is not a valid Dart identifier"
  | .emptyRecord record => "record " ++ record ++ " has no fields"
  | .duplicateField record field => "duplicate field '" ++ field ++ "' in " ++ record
  | .duplicateRecord name path previous =>
      "duplicate record " ++ name ++ " in " ++ path ++ " (previous " ++ previous ++ ")"
  | .reservedName name => "'" ++ name ++ "' is reserved"

/-- The code of a cause. -/
def code : SchemaError → String
  | .unreadable _ => "djc::io"
  | .unsupportedFile _ => "djc::unsupported_file"
  | .invalidJson _ => "djc::json_error"
  | .invalidToml _ => "djc::toml_error"
  | .invalidField _ _ _ => "djc::invalid_field"
  | .invalidType _ _ _ => "djc::invalid_type"
  | .invalidName _ _ => "djc::invalid_name"
  | .emptyRecord _ => "djc::empty_record"
  | .duplicateField _ _ => "djc::duplicate_field"
  | .duplicateRecord _ _ _ => "djc::duplicate_record"
  | .reservedName _ => "djc::reserved_name"

/-- What to do about a cause, where that is not obvious. -/
def help? : SchemaError → Option String
  | .unsupportedFile _ => some "record definitions are read from .json or .toml files"
  | .invalidField _ _ _ =>
      some "fields are declared as '<type> <name>', e.g. 'List<Item>? items'"
  | .invalidName _ _ =>
      some ("names start with a letter, '_' or '$' and contain only ASCII letters, digits, " ++
        "'_' and '$'")
  | .emptyRecord _ => some "generated equality needs at least one field to compare"
  | .duplicateRecord _ _ _ => some "exclude one of them with --exclude, or rename it"
  | _ => none

/-- The record a cause is about. -/
def record? : SchemaError → Option String
  | .invalidField record _ _ => some record
  | .invalidType record _ _ => some record
  | .invalidName record _ => some record
  | .emptyRecord record => some record
  | .duplicateField record _ => some record
  | .duplicateRecord name _ _ => some name
  | _ => none

end SchemaError

end Recordsmith
