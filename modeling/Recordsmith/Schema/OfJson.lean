/-
# Recordsmith.Schema.OfJson — outlines in JSON

The document is an object of records. A record is an object with a key `fields`,
or an array with the field list as its only element. What stands under other
keys of a record is not looked at; a field entry is interpreted as a whole, and
for this it must be `Json.decodable`. A record name given twice keeps its first
place and its last value.
-/
import Recordsmith.Json.Reader
import Recordsmith.Schema.FieldEntry

namespace Recordsmith.Outline

open Recordsmith.Json

set_option autoImplicit false

/-- How many levels of containers a document may have where it is interpreted. -/
def maxDepth : Nat := 127

/-- The levels left inside a field list: the document, a record and the list are open. -/
def entryRoom : Nat := maxDepth - 3

/-- The text of a value that is a string. -/
def jsonText? : Json → Option String
  | .string pieces => text? pieces
  | _ => none

/-- The members of an object, if their keys are texts. -/
def namedMembers? (members : List (List Piece × Json)) : Option (List (String × Json)) :=
  members.mapM fun (key, value) => (text? key).map fun name => (name, value)

/-- A field entry. -/
def jsonEntry? (value : Json) : Option FieldEntry :=
  if value.decodable entryRoom then
    match value with
    | .string pieces => (text? pieces).map .declared
    | .object members =>
        (namedMembers? members).bind fun members =>
          FieldEntry.ofMembers? (members.map fun (key, value) => (key, jsonText? value))
    | _ => none
  else none

/-- A field list. -/
def jsonFields? : Json → Option (List FieldEntry)
  | .array items => items.mapM jsonEntry?
  | _ => none

/-- A record. Its keys must be texts. -/
def jsonRecord? : Json → Option (List FieldEntry)
  | .array [fields] => jsonFields? fields
  | .object members =>
      (namedMembers? members).bind fun members =>
        match members.filter fun (key, _) => key = "fields" with
        | [(_, fields)] => jsonFields? fields
        | _ => none
  | _ => none

/-- Give a name a value, in its place or at the end. -/
def put (name : String) (entries : List FieldEntry) : Outline → Outline
  | [] => [(name, entries)]
  | (other, old) :: rest =>
      if other = name then (name, entries) :: rest else (other, old) :: put name entries rest

/-- The outline that a document gives. -/
def ofJson? : Json → Option Outline
  | .object members =>
      (namedMembers? members).bind fun members =>
        members.foldlM
          (fun outline (name, value) =>
            (jsonRecord? value).map fun entries => put name entries outline)
          []
  | _ => none

end Recordsmith.Outline
