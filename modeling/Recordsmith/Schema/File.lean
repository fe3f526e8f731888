/-
# Recordsmith.Schema.File — schema files

A schema file is JSON or TOML, told by its extension. Its document is read as a
whole first; then its records are built in document order, and the first fault
is the file's fault. The generated module is named after the file.
-/
import Recordsmith.Path
import Recordsmith.Schema.OfJson
import Recordsmith.Schema.OfToml

namespace Recordsmith

set_option autoImplicit false

/-- The notations of a schema. -/
inductive Format where
  | json
  | toml
deriving DecidableEq, Repr

/-- The notation that a file's extension stands for. -/
def Format.ofPath? (path : String) : Option Format :=
  match Path.extension? path with
  | some "json" => some .json
  | some "toml" => some .toml
  | _ => none

/-- The record name kept for the generator. -/
def reservedName : String := "_djcmeta"

namespace Outline

/-- The record with this name and these entries. -/
def toRecord (name : String) (entries : List FieldEntry) : Except SchemaError Record :=
  if name = reservedName then .error (.reservedName name)
  else
    match FieldEntry.toFields name 0 entries with
    | .error cause => .error cause
    | .ok fields => Record.ofFields name fields

/-- The records of an outline. -/
def toRecords : Outline → Except SchemaError (List Record)
  | [] => .ok []
  | (name, entries) :: rest =>
      match toRecord name entries with
      | .error cause => .error cause
      | .ok record =>
          match toRecords rest with
          | .error cause => .error cause
          | .ok records => .ok (record :: records)

end Outline

/-- The records of one file. -/
structure SchemaFile where
  path : String
  records : List Record

namespace SchemaFile

/-- The outline of a document, whatever its notation. -/
def outline (content : String) (format : Format) (path : String) :
    Except SchemaError Outline :=
  match format with
  | .json =>
      match (Json.parse? content).bind Outline.ofJson? with
      | none => .error (.invalidJson path)
      | some outline => .ok outline
  | .toml =>
      match (Toml.parse? content).bind Outline.ofToml? with
      | none => .error (.invalidToml path)
      | some outline => .ok outline

/-- Read a schema from the content of a file. -/
def parse (content : String) (format : Format) (path : String) :
    Except SchemaError SchemaFile :=
  match outline content format path with
  | .error cause => .error cause
  | .ok outline =>
      match outline.toRecords with
      | .error cause => .error cause
      | .ok records => .ok ⟨path, records⟩

/-- The name of the module generated from a file: its stem, or `records`. -/
def moduleName (file : SchemaFile) : String :=
  (Path.stem? file.path).getD "records"

end SchemaFile

end Recordsmith
