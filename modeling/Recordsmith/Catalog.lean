/-
# Recordsmith.Catalog — the records of a run

A catalog collects records from several files in the order they come. No name
occurs twice, which is part of the type. A record that would repeat a name is
refused, and the records added before it stay.
-/
import Recordsmith.Schema.File

namespace Recordsmith

set_option autoImplicit false

/-- Which records of a file are wanted. -/
structure Filter where
  included : List String := []
  excluded : List String := []
deriving DecidableEq, Repr

/-- An excluded record is never wanted; without a list of wanted ones all others are. -/
def Filter.allows (filter : Filter) (name : String) : Bool :=
  name ∉ filter.excluded && (filter.included.isEmpty || name ∈ filter.included)

/-- A record, the module it goes to and the file it comes from. -/
structure Entry where
  module : String
  source : String
  record : Record

/-- Entries with distinct record names. -/
structure Catalog where
  entries : List Entry
  names_nodup : (entries.map (·.record.name)).Nodup

namespace Catalog

/-- The catalog without records. -/
def empty : Catalog :=
  ⟨[], by simp⟩

/-- The records in order. -/
def records (catalog : Catalog) : List Record :=
  catalog.entries.map (·.record)

/-- The names of the records in order. -/
def names (catalog : Catalog) : List String :=
  catalog.entries.map (·.record.name)

/-- The number of records. -/
def size (catalog : Catalog) : Nat :=
  catalog.entries.length

/-- The entry with this record name. -/
def get? (catalog : Catalog) (name : String) : Option Entry :=
  catalog.entries.find? (·.record.name == name)

/-- Whether there is a record with this name. -/
def contains (catalog : Catalog) (name : String) : Bool :=
  (catalog.get? name).isSome

theorem not_mem_of_get?_eq_none {catalog : Catalog} {name : String}
    (absent : catalog.get? name = none) : name ∉ catalog.entries.map (·.record.name) := by
  rw [get?, List.find?_eq_none] at absent
  intro found
  obtain ⟨entry, member, rfl⟩ := List.mem_map.1 found
  exact absent entry member (by simp)

theorem nodup_append_of_get?_eq_none {catalog : Catalog} {entry : Entry}
    (absent : catalog.get? entry.record.name = none) :
    ((catalog.entries ++ [entry]).map (·.record.name)).Nodup := by
  rw [List.map_append, List.nodup_append]
  refine ⟨catalog.names_nodup, by simp, ?_⟩
  intro a old b new same
  simp only [List.map_cons, List.map_nil, List.mem_singleton] at new
  subst new same
  exact not_mem_of_get?_eq_none absent old

/-- Add an entry at the end, unless its name is taken. -/
def insert (catalog : Catalog) (entry : Entry) : Except SchemaError Catalog :=
  match absent : catalog.get? entry.record.name with
  | some previous =>
      .error (.duplicateRecord entry.record.name entry.source previous.source)
  | none => .ok ⟨catalog.entries ++ [entry], nodup_append_of_get?_eq_none absent⟩

/-- Add entries one after the other up to the first whose name is taken: the catalog
reached, and the fault if there is one. -/
def insertAll (catalog : Catalog) : List Entry → Catalog × Except SchemaError Unit
  | [] => (catalog, .ok ())
  | entry :: rest =>
      match catalog.insert entry with
      | .error cause => (catalog, .error cause)
      | .ok catalog => insertAll catalog rest

/-- Add the wanted records of a file. -/
def addFile (catalog : Catalog) (file : SchemaFile) (filter : Filter) :
    Catalog × Except SchemaError Unit :=
  catalog.insertAll
    ((file.records.filter fun record => filter.allows record.name).map fun record =>
      ⟨file.moduleName, file.path, record⟩)

/-- Add the wanted records of several files in turn, up to the first fault. -/
def addFiles (filter : Filter) (catalog : Catalog) :
    List SchemaFile → Except SchemaError Catalog
  | [] => .ok catalog
  | file :: rest =>
      match catalog.addFile file filter with
      | (_, .error cause) => .error cause
      | (catalog, .ok ()) => addFiles filter catalog rest

end Catalog

end Recordsmith
