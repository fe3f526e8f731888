/-
# Recordsmith.Lint — rules for records

Three rules are checked over all records of a run:

* *unknown-reference* warns of a reference to a record that is not among them;
* *record-naming* warns of a record name that is not in UpperCamelCase;
* *field-naming* reports a field whose name is a reserved word of Dart, the name
  of a generated member, or the name of its record.

The findings of a rule come in the order of the records and of their fields.
-/
import Recordsmith.Diagnostic
import Recordsmith.Record.Basic

namespace Recordsmith

set_option autoImplicit false

/-- The rules for records. -/
inductive Lint where
  | unknownReference
  | recordNaming
  | fieldNaming
deriving DecidableEq, Repr

namespace Lint

/-- The rules that are checked unless others are asked for. -/
def standard : List Lint :=
  [.unknownReference, .recordNaming, .fieldNaming]

/-- The name of a rule. -/
def name : Lint → String
  | .unknownReference => "unknown-reference"
  | .recordNaming => "record-naming"
  | .fieldNaming => "field-naming"

/-- The rule with this name. -/
def ofName? (name : String) : Option Lint :=
  standard.find? (·.name == name)

/-- What a rule looks for. -/
def description : Lint → String
  | .unknownReference => "Detect fields referring to record types that are not generated"
  | .recordNaming => "Check record names follow UpperCamelCase conventions"
  | .fieldNaming => "Detect field names that are reserved or clash with generated members"

/-- The words that no Dart identifier may be. -/
def reservedWords : List String :=
  ["assert", "break", "case", "catch", "class", "const", "continue", "default", "do", "else",
    "enum", "extends", "false", "final", "finally", "for", "if", "in", "is", "new", "null",
    "rethrow", "return", "super", "switch", "this", "throw", "true", "try", "var", "void",
    "while", "with"]

/-- The members that every generated class has or may have. -/
def memberNames : List String :=
  ["fields", "getAttr", "setAttr", "toMap", "copy", "hashCode", "runtimeType", "toString",
    "noSuchMethod"]

/-- The place of a field. -/
def place (record : Record) (field : Field) : String :=
  record.name ++ "." ++ field.name

/-- A letter in upper case, then letters and digits, all ASCII. -/
def isUpperCamelCase (name : List Char) : Bool :=
  match name with
  | [] => false
  | c :: rest => c.isUpper && rest.all Char.isAlphanum

/-- What is wrong with the name of a field. -/
def namingFault? (record : Record) (field : Field) : Option String :=
  if field.name ∈ reservedWords then some ("'" ++ field.name ++ "' is a Dart reserved word")
  else if field.name ∈ memberNames then
    some ("'" ++ field.name ++ "' clashes with a generated member")
  else if field.name = record.name then
    some ("'" ++ field.name ++ "' has the same name as its record")
  else none

/-- The findings of a rule about one field, if `known` are the records there are. -/
def checkField (known : List String) (record : Record) (field : Field) : Lint → List Diagnostic
  | .unknownReference =>
      (field.type.references.filter (· ∉ known)).map fun name =>
        ⟨.warning, unknownReference.name,
          name ++ " ref'd by " ++ record.name ++ " is not among the generated records",
          some (place record field)⟩
  | .recordNaming => []
  | .fieldNaming =>
      (namingFault? record field).toList.map fun message =>
        ⟨.error, fieldNaming.name, message, some (place record field)⟩

/-- The findings of a rule about a record itself. -/
def checkName (record : Record) : Lint → List Diagnostic
  | .recordNaming =>
      if isUpperCamelCase record.name.toList then []
      else
        [⟨.warning, recordNaming.name,
          "record '" ++ record.name ++
            "' should use UpperCamelCase (e.g., 'UserProfile' not 'user_profile')",
          some record.name⟩]
  | _ => []

/-- The findings of a rule. -/
def check (lint : Lint) (records : List Record) : List Diagnostic :=
  let known := records.map Record.name
  records.flatMap fun record =>
    checkName record lint ++ record.fields.flatMap fun field => checkField known record field lint

/-- The findings of several rules in turn. -/
def checkAll (lints : List Lint) (records : List Record) : List Diagnostic :=
  lints.flatMap fun lint => lint.check records

end Lint

end Recordsmith
