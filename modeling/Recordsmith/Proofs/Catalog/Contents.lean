/-
# Recordsmith.Proofs.Catalog.Contents — a catalog by its entries

A catalog is determined by its entries, so every operation is described by them:

* looking up a name gives the one entry with that name (`get?_eq_some_iff`);
* adding entries or files succeeds exactly if the entries so far with the new ones
  behind them make up a catalog, which is then the result (`insertAll_eq_ok_iff`,
  `addFiles_eq_ok_iff`).
-/
import Mathlib.Data.List.Nodup
import Recordsmith.Catalog

namespace Recordsmith

set_option autoImplicit false

/-- The entries for the wanted records of a file. -/
def SchemaFile.entries (file : SchemaFile) (filter : Filter) : List Entry :=
  (file.records.filter fun record => filter.allows record.name).map fun record =>
    ⟨file.moduleName, file.path, record⟩

namespace Catalog

theorem eq_iff_entries_eq {catalog other : Catalog} :
    catalog = other ↔ other.entries = catalog.entries := by
  constructor
  · rintro rfl
    rfl
  · intro same
    cases catalog
    cases other
    cases same
    rfl

/-- The first entries of a catalog make up a catalog. -/
theorem exists_front {catalog : Catalog} {front back : List Entry}
    (split : catalog.entries = front ++ back) : ∃ first : Catalog, first.entries = front := by
  have unrepeated := catalog.names_nodup
  rw [split, List.map_append] at unrepeated
  exact ⟨⟨front, (List.nodup_append.1 unrepeated).1⟩, rfl⟩

/-! ## Looking up -/

theorem get?_of_mem {catalog : Catalog} {entry : Entry} (member : entry ∈ catalog.entries) :
    catalog.get? entry.record.name = some entry := by
  cases found : catalog.get? entry.record.name with
  | none => exact absurd (List.mem_map_of_mem member) (not_mem_of_get?_eq_none found)
  | some other =>
    rw [get?] at found
    have sameName : other.record.name = entry.record.name := by
      simpa using List.find?_some found
    rw [List.inj_on_of_nodup_map catalog.names_nodup (List.mem_of_find?_eq_some found) member
      sameName]

theorem get?_eq_some_iff {catalog : Catalog} {name : String} {entry : Entry} :
    catalog.get? name = some entry ↔ entry ∈ catalog.entries ∧ entry.record.name = name := by
  constructor
  · intro found
    rw [get?] at found
    exact ⟨List.mem_of_find?_eq_some found, by simpa using List.find?_some found⟩
  · rintro ⟨member, rfl⟩
    exact get?_of_mem member

theorem get?_eq_none_iff {catalog : Catalog} {name : String} :
    catalog.get? name = none ↔ name ∉ catalog.records.map Record.name := by
  have named : catalog.records.map Record.name = catalog.entries.map (·.record.name) := by
    rw [records, List.map_map]
    rfl
  rw [named]
  constructor
  · exact not_mem_of_get?_eq_none
  · intro missing
    rw [Option.eq_none_iff_forall_ne_some]
    intro entry found
    obtain ⟨member, rfl⟩ := get?_eq_some_iff.1 found
    exact missing (List.mem_map_of_mem member)

/-! ## Adding -/

theorem insert_eq_ok_iff {catalog result : Catalog} {entry : Entry} :
    catalog.insert entry = .ok result ↔ result.entries = catalog.entries ++ [entry] := by
  rw [insert]
  split
  · next previous found =>
    obtain ⟨member, sameName⟩ := get?_eq_some_iff.1 found
    constructor
    · intro impossible
      cases impossible
    · intro same
      have unrepeated := result.names_nodup
      rw [same, List.map_append, List.nodup_append] at unrepeated
      exact absurd sameName (unrepeated.2.2 _ (List.mem_map_of_mem member) _ (by simp))
  · rw [Except.ok.injEq, eq_iff_entries_eq]

theorem insertAll_eq_ok_iff {catalog result : Catalog} {entries : List Entry} :
    catalog.insertAll entries = (result, .ok ()) ↔
      result.entries = catalog.entries ++ entries := by
  induction entries generalizing catalog with
  | nil => simp [insertAll, eq_iff_entries_eq]
  | cons entry rest ih =>
    rw [insertAll, List.append_cons]
    cases inserted : catalog.insert entry with
    | ok next => rw [ih, insert_eq_ok_iff.1 inserted]
    | error cause =>
      constructor
      · intro impossible
        cases impossible
      · intro same
        obtain ⟨first, front⟩ := exists_front same
        rw [insert_eq_ok_iff.2 front] at inserted
        cases inserted

theorem addFiles_eq_ok_iff {filter : Filter} {catalog result : Catalog}
    {files : List SchemaFile} :
    addFiles filter catalog files = .ok result ↔
      result.entries = catalog.entries ++ files.flatMap fun file => file.entries filter := by
  induction files generalizing catalog with
  | nil => simp [addFiles, eq_iff_entries_eq]
  | cons file rest ih =>
    rw [addFiles, List.flatMap_cons, ← List.append_assoc]
    split
    · next reached cause added =>
      constructor
      · intro impossible
        cases impossible
      · intro same
        obtain ⟨first, front⟩ := exists_front same
        have succeeded : catalog.addFile file filter = (first, .ok ()) :=
          insertAll_eq_ok_iff.2 front
        rw [succeeded] at added
        cases added
    · next reached added => rw [ih, insertAll_eq_ok_iff.1 added, SchemaFile.entries]

/-- The catalog of some files, if no two of their wanted records have one name. -/
theorem exists_addFiles_iff {filter : Filter} {files : List SchemaFile} :
    (∃ catalog, addFiles filter .empty files = .ok catalog) ↔
      ((files.flatMap fun file => file.entries filter).map (·.record.name)).Nodup := by
  constructor
  · rintro ⟨catalog, added⟩
    rw [addFiles_eq_ok_iff] at added
    have unrepeated := catalog.names_nodup
    rwa [added] at unrepeated
  · intro unrepeated
    exact ⟨⟨_, unrepeated⟩, addFiles_eq_ok_iff.2 rfl⟩

end Catalog

end Recordsmith
