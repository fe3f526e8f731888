/-
# Recordsmith.Proofs.Schema.File — what an accepted schema file guarantees

The records of an accepted file are those of its document in document order, and
they are `Admissible`: their names are distinct and none is reserved, and their
types have a text (`admissible_of_parse`). Admissible records are accepted from
every document that gives them with their types apart, and each notation has such
a document (`outline_document`). A file that is refused has no outline, or its first
record with a fault gives the cause (`parse_eq_error_iff`).
-/
import Recordsmith.Proofs.Json.Written
import Recordsmith.Proofs.Toml.Written

namespace Recordsmith

open Recordsmith.Text
open Recordsmith.TypeExpr (WellFormed)

set_option autoImplicit false

/-- The document that writes records. -/
def Format.document : Format → List Record → String
  | .json => Json.document
  | .toml => Toml.document

namespace SchemaFile

/-- What records of one file have in common, beyond what each record is by itself. -/
structure Admissible (records : List Record) : Prop where
  names_nodup : (records.map Record.name).Nodup
  not_reserved : ∀ record ∈ records, record.name ≠ reservedName
  types_formed : ∀ record ∈ records, ∀ field ∈ record.fields, WellFormed field.type

/-- A record is what an entry of the outline says. -/
def Agrees (entry : String × List FieldEntry) (record : Record) : Prop :=
  Outline.Makes entry.1 entry.2 record ∧
    List.Forall₂ FieldEntry.Declares entry.2 record.fields

variable {content path : String} {format : Format}

theorem parse_eq_ok_iff {file : SchemaFile} :
    parse content format path = .ok file ↔
      file.path = path ∧ ∃ outline, SchemaFile.outline content format path = .ok outline ∧
        outline.toRecords = .ok file.records := by
  rw [parse]
  cases SchemaFile.outline content format path with
  | error cause => simp
  | ok outline =>
    cases built : outline.toRecords with
    | error cause => simp [built]
    | ok records =>
      obtain ⟨place, others⟩ := file
      simp [built, eq_comm]

theorem parse_eq_error_iff {cause : SchemaError} :
    parse content format path = .error cause ↔
      SchemaFile.outline content format path = .error cause ∨
        ∃ outline, SchemaFile.outline content format path = .ok outline ∧
          outline.toRecords = .error cause := by
  rw [parse]
  cases SchemaFile.outline content format path with
  | error other => simp
  | ok outline => cases built : outline.toRecords <;> simp [built]

/-! ## Accepted files -/

theorem agrees_of_toRecords {outline : Outline} {records : List Record}
    (built : outline.toRecords = .ok records) : List.Forall₂ Agrees outline records :=
  (Outline.toRecords_eq_ok_iff.1 built).imp fun _ _ makes => ⟨makes, makes.makeFields.declares⟩

theorem Agrees.types_formed {entry : String × List FieldEntry} {record : Record}
    (agrees : Agrees entry record) : ∀ field ∈ record.fields, WellFormed field.type := by
  intro field member
  have flipped : List.Forall₂ (flip FieldEntry.Declares) record.fields entry.2 :=
    List.Forall₂.flip agrees.2
  obtain ⟨source, declares⟩ := exists_of_forall₂ flipped field member
  exact FieldEntry.Declares.wellFormed declares

theorem admissible_of_parse {file : SchemaFile} (read : parse content format path = .ok file) :
    Admissible file.records := by
  obtain ⟨-, outline, decoded, built⟩ := parse_eq_ok_iff.1 read
  have flipped : List.Forall₂ (flip Agrees) file.records outline :=
    List.Forall₂.flip (agrees_of_toRecords built)
  have each : ∀ record ∈ file.records, ∃ entry, Agrees entry record := exists_of_forall₂ flipped
  refine ⟨?_, ?_, ?_⟩
  · rw [Outline.names_eq_of_makes (Outline.toRecords_eq_ok_iff.1 built)]
    exact nodup_names_of_outline decoded
  · intro record member
    obtain ⟨entry, agrees⟩ := each record member
    exact agrees.1.not_reserved
  · intro record member
    obtain ⟨entry, agrees⟩ := each record member
    exact agrees.types_formed

/-! ## Written files -/

theorem parse_of_outline_written {records : List Record} (admissible : Admissible records)
    (decoded : SchemaFile.outline content format path = .ok (Outline.written records)) :
    parse content format path = .ok ⟨path, records⟩ :=
  parse_eq_ok_iff.2 ⟨rfl, _, decoded,
    Outline.toRecords_written admissible.not_reserved admissible.types_formed⟩

theorem outline_document {records : List Record} (admissible : Admissible records)
    (format : Format) (path : String) :
    SchemaFile.outline (format.document records) format path = .ok (Outline.written records) := by
  cases format with
  | json => exact outline_json admissible.names_nodup admissible.types_formed path
  | toml => exact outline_toml admissible.names_nodup admissible.types_formed path

/-- **What a schema file guarantees.** If the file is accepted, its records are the entries
of the document one by one and in order, and they are admissible. Admissible records are
accepted, and read back as they are, from every document that gives them with their types
apart, and in both notations there is one. If the file is refused and has an outline, the
cause is the fault of the first record that has one. -/
theorem parse_guarantees (content : String) (format : Format) (path : String) :
    (∀ file, parse content format path = .ok file →
      ∃ outline, SchemaFile.outline content format path = .ok outline ∧ file.path = path ∧
        List.Forall₂ Agrees outline file.records ∧ Admissible file.records) ∧
    (∀ records, Admissible records →
      (SchemaFile.outline content format path = .ok (Outline.written records) →
        parse content format path = .ok ⟨path, records⟩) ∧
      parse (format.document records) format path = .ok ⟨path, records⟩ ∧
      SchemaFile.outline (format.document records) format path =
        .ok (Outline.written records)) ∧
    (∀ cause, parse content format path = .error cause ↔
      SchemaFile.outline content format path = .error cause ∨
        ∃ before name entries after,
          SchemaFile.outline content format path = .ok (before ++ (name, entries) :: after) ∧
          (∀ earlier ∈ before, ∃ record, Outline.Makes earlier.1 earlier.2 record) ∧
          Outline.Fault name entries cause) := by
  refine ⟨?_, ?_, ?_⟩
  · intro file read
    obtain ⟨placed, outline, decoded, built⟩ := parse_eq_ok_iff.1 read
    exact ⟨outline, decoded, placed, agrees_of_toRecords built, admissible_of_parse read⟩
  · intro records admissible
    have decoded := outline_document admissible format path
    exact ⟨parse_of_outline_written admissible, parse_of_outline_written admissible decoded,
      decoded⟩
  · intro cause
    rw [parse_eq_error_iff]
    refine or_congr_right ?_
    simp only [Outline.toRecords_eq_error_iff]
    constructor
    · rintro ⟨outline, decoded, before, name, entries, after, rfl, earlier, fault⟩
      exact ⟨before, name, entries, after, decoded, earlier, fault⟩
    · rintro ⟨before, name, entries, after, decoded, earlier, fault⟩
      exact ⟨_, decoded, before, name, entries, after, rfl, earlier, fault⟩

/-- A train, to be read from a file. -/
def train : Record :=
  ⟨"Train", [⟨"stops", .list (.scalar "Stop" true) false, by decide⟩,
    ⟨"$cars", .map (.scalar "String" false) (.generic "Car" [.scalar "int" true] false) true,
      by decide⟩], by decide, by simp, by decide⟩

/-- `int no` -/
def car : Record :=
  ⟨"Car", [⟨"no", .scalar "int" false, by decide⟩], by decide, by decide, by decide⟩

/-- A document with a fault in its second record and another in its third. -/
def rails : String :=
  "\x7b\"Car\": [[\x7b\"type\": \"int\", \"name\": \"no\"\x7d]], " ++
    "\"Stop\": \x7b\"fields\": []\x7d, \"_djcmeta\": [[]]\x7d"

/-- A train is read back from a document in either notation. In `rails` a record without
fields is found before the reserved name behind it. -/
theorem parse_guarantees_train :
    Admissible [train] ∧
    (∀ format, parse (format.document [train]) format "rails" = .ok ⟨"rails", [train]⟩ ∧
      ∃ outline,
        SchemaFile.outline (format.document [train]) format "rails" = .ok outline ∧
        List.Forall₂ Agrees outline [train]) ∧
    parse rails .json "rails.json" = .error (.emptyRecord "Stop") := by
  have admissible : Admissible [train] := by
    refine ⟨by decide, by decide, ?_⟩
    have text : WellFormed (.scalar "String" false) := .scalar (by decide) (by decide) (by decide)
    have stop : WellFormed (.scalar "Stop" true) := .scalar (by decide) (by decide) (by decide)
    have number : WellFormed (.scalar "int" true) := .scalar (by decide) (by decide) (by decide)
    have car : WellFormed (.generic "Car" [.scalar "int" true] false) :=
      .generic (by decide) (by decide) (by decide) (by simp) (by simpa using number)
    simpa [train] using ⟨WellFormed.list stop, WellFormed.map text car⟩
  refine ⟨admissible, fun format => ?_, ?_⟩
  · have read := ((parse_guarantees "" format "rails").2.1 [train] admissible).2.1
    obtain ⟨outline, decoded, -, agree, -⟩ := (parse_guarantees _ format "rails").1 _ read
    exact ⟨read, outline, decoded, agree⟩
  · have decoded : SchemaFile.outline rails .json "rails.json" =
        .ok [("Car", [.typed "int" "no"]), ("Stop", []), (reservedName, [])] := by
      decide +kernel
    have number : WellFormed (.scalar "int" false) := .scalar (by decide) (by decide) (by decide)
    have formed : ∀ field ∈ car.fields, WellFormed field.type := by simpa [car] using number
    have makes : Outline.Makes "Car" [.typed "int" "no"] car :=
      ⟨rfl, by decide, by decide, by decide, by decide, by decide,
        Outline.makeFields_written "Car" formed⟩
    refine ((parse_guarantees _ .json "rails.json").2.2 _).2 (.inr ?_)
    refine ⟨[("Car", _)], "Stop", [], [(reservedName, [])], decoded, ?_, ?_⟩
    · simpa using ⟨car, makes⟩
    · exact .empty (by decide) (by decide) rfl

end SchemaFile

end Recordsmith
