/-
# Recordsmith.Proofs.Catalog.Calls — catalogs under any sequence of calls

A catalog is changed by two calls: an entry is inserted, or the wanted records of
a file are added. Either may fail, and a file that fails leaves the records in
front of the one that it fails at. `perform` is one call with its outcome,
`performAll` is what any sequence of calls leaves, failing calls included.

* `entries_prefix_perform`, `entries_prefix_performAll`: calls only append;
* `insert_eq_error`: an entry whose name is taken is refused;
* `perform_addFile_of_nodup`, `perform_addFile_of_firstTaken`: a file appends its
  wanted records, up to the first whose name is taken (`FirstTaken`).

`performAll_conduct` puts these together for the catalogs that can be reached from
the empty one.
-/
import Mathlib.Data.List.Induction
import Recordsmith.Proofs.Catalog.Contents

namespace Recordsmith

set_option autoImplicit false

namespace Catalog

/-- A change asked of a catalog. -/
inductive Call where
  | insert (entry : Entry)
  | addFile (file : SchemaFile) (filter : Filter)

/-- The catalog that a call leaves, and its outcome. -/
def perform (catalog : Catalog) : Call → Catalog × Except SchemaError Unit
  | .insert entry =>
      match catalog.insert entry with
      | .error cause => (catalog, .error cause)
      | .ok next => (next, .ok ())
  | .addFile file filter => catalog.addFile file filter

/-- The catalog that calls leave one after the other, whether they fail or not. -/
def performAll (catalog : Catalog) (calls : List Call) : Catalog :=
  calls.foldl (fun catalog call => (catalog.perform call).1) catalog

/-- The record is the first of `records` whose name is taken, by an entry of the catalog or
by one of the records `front` in front of it. -/
structure FirstTaken (catalog : Catalog) (records front : List Record) (record : Record) :
    Prop where
  split : front ++ [record] <+: records
  fresh : (catalog.names ++ front.map Record.name).Nodup
  taken : record.name ∈ catalog.names ++ front.map Record.name

variable {catalog : Catalog}

/-! ## Looking up -/

theorem mem_names_iff {name : String} :
    name ∈ catalog.names ↔ ∃ entry, catalog.get? name = some entry := by
  simp only [get?_eq_some_iff, names, List.mem_map]

theorem filter_entries_eq (catalog : Catalog) (name : String) :
    catalog.entries.filter (·.record.name == name) = (catalog.get? name).toList := by
  cases found : catalog.get? name with
  | none =>
    have absent : name ∉ catalog.entries.map (·.record.name) := not_mem_of_get?_eq_none found
    rw [Option.toList_none, List.filter_eq_nil_iff]
    intro entry member named
    exact absent (List.mem_map.2 ⟨entry, member, by simpa using named⟩)
  | some entry =>
    have unrepeated : (catalog.entries.filter (·.record.name == name)).Nodup :=
      (List.Nodup.of_map _ catalog.names_nodup).filter _
    rw [Option.toList_some, ← List.perm_singleton,
      List.perm_ext_iff_of_nodup unrepeated (List.nodup_singleton entry)]
    intro other
    rw [List.mem_filter, List.mem_singleton, beq_iff_eq, ← get?_eq_some_iff, found,
      Option.some.injEq, eq_comm]

/-! ## Adding entries -/

/-- Entries that make up a catalog with those already there are passed over. -/
theorem insertAll_append {next : Catalog} {front : List Entry}
    (appended : next.entries = catalog.entries ++ front) (back : List Entry) :
    catalog.insertAll (front ++ back) = next.insertAll back := by
  induction front generalizing catalog with
  | nil =>
    rw [List.append_nil] at appended
    rw [eq_iff_entries_eq.2 appended, List.nil_append]
  | cons entry rest ih =>
    rw [List.append_cons] at appended
    obtain ⟨first, reached⟩ := exists_front appended
    rw [← reached] at appended
    rw [List.cons_append, insertAll, insert_eq_ok_iff.2 reached]
    exact ih appended

theorem insert_eq_error {entry previous : Entry}
    (found : catalog.get? entry.record.name = some previous) :
    catalog.insert entry =
      .error (.duplicateRecord entry.record.name entry.source previous.source) := by
  rw [insert]
  split
  · next other alsoFound =>
    rw [found] at alsoFound
    cases alsoFound
    rfl
  · next absent =>
    rw [found] at absent
    cases absent

theorem entries_prefix_insertAll (catalog : Catalog) (entries : List Entry) :
    catalog.entries <+: (catalog.insertAll entries).1.entries := by
  induction entries generalizing catalog with
  | nil => exact List.prefix_rfl
  | cons entry rest ih =>
    rw [insertAll]
    cases inserted : catalog.insert entry with
    | error cause => exact List.prefix_rfl
    | ok next =>
      have once : catalog.entries <+: next.entries := by
        rw [insert_eq_ok_iff.1 inserted]
        exact List.prefix_append _ _
      exact once.trans (ih next)

/-! ## Names that are taken -/

/-- A list of records goes behind a catalog as a whole, or one of them is the first whose
name is taken. -/
theorem nodup_or_firstTaken (catalog : Catalog) (records : List Record) :
    (catalog.names ++ records.map Record.name).Nodup ∨
      ∃ front record, FirstTaken catalog records front record := by
  induction records using List.reverseRecOn with
  | nil =>
    rw [List.map_nil, List.append_nil]
    exact .inl catalog.names_nodup
  | append_singleton front record ih =>
    rcases ih with fresh | ⟨earlier, first, found⟩
    · by_cases taken : record.name ∈ catalog.names ++ front.map Record.name
      · exact .inr ⟨front, record, List.prefix_rfl, fresh, taken⟩
      · refine .inl ?_
        rw [List.map_append, ← List.append_assoc, List.map_singleton, ← List.concat_eq_append]
        exact fresh.concat taken
    · exact .inr ⟨earlier, first, found.split.trans (List.prefix_append _ _), found.fresh,
        found.taken⟩

theorem FirstTaken.not_nodup {records front : List Record} {record : Record}
    (first : FirstTaken catalog records front record) :
    ¬(catalog.names ++ records.map Record.name).Nodup := by
  obtain ⟨back, rfl⟩ := first.split
  intro unrepeated
  rw [List.map_append, List.map_append, ← List.append_assoc, ← List.append_assoc] at unrepeated
  have apart := (List.nodup_append.1 (List.nodup_append.1 unrepeated).1).2.2
  exact apart _ first.taken _ (by simp) rfl

/-! ## One call -/

/-- The entry of a record of this file. -/
def entryOf (file : SchemaFile) (record : Record) : Entry :=
  ⟨file.moduleName, file.path, record⟩

/-- The records of a file that a filter admits. -/
def admitted (file : SchemaFile) (filter : Filter) : List Record :=
  file.records.filter fun record =>
    record.name ∉ filter.excluded ∧ (filter.included = [] ∨ record.name ∈ filter.included)

theorem names_append_entryOf (catalog : Catalog) (file : SchemaFile) (records : List Record) :
    (catalog.entries ++ records.map (entryOf file)).map (·.record.name) =
      catalog.names ++ records.map Record.name := by
  rw [List.map_append, List.map_map]
  rfl

theorem perform_addFile (catalog : Catalog) (file : SchemaFile) (filter : Filter) :
    catalog.perform (.addFile file filter) =
      catalog.insertAll ((admitted file filter).map (entryOf file)) := by
  have same : (file.records.filter fun record => filter.allows record.name) =
      admitted file filter := by
    apply List.filter_congr
    intro record _
    rw [Bool.eq_iff_iff]
    simp [Filter.allows]
  rw [perform, addFile, same]
  rfl

theorem perform_addFile_of_nodup {file : SchemaFile} {filter : Filter}
    (fresh : (catalog.names ++ (admitted file filter).map Record.name).Nodup) :
    ∃ next, catalog.perform (.addFile file filter) = (next, .ok ()) ∧
      next.entries = catalog.entries ++ (admitted file filter).map (entryOf file) := by
  rw [← names_append_entryOf catalog file] at fresh
  refine ⟨⟨_, fresh⟩, ?_, rfl⟩
  rw [perform_addFile]
  exact insertAll_eq_ok_iff.2 rfl

theorem perform_addFile_of_firstTaken {file : SchemaFile} {filter : Filter}
    {front : List Record} {record : Record}
    (first : FirstTaken catalog (admitted file filter) front record) :
    ∃ next previous, catalog.perform (.addFile file filter) =
        (next, .error (.duplicateRecord record.name file.path previous.source)) ∧
      next.entries = catalog.entries ++ front.map (entryOf file) ∧
      next.get? record.name = some previous := by
  have fresh := first.fresh
  rw [← names_append_entryOf catalog file] at fresh
  let next : Catalog := ⟨catalog.entries ++ front.map (entryOf file), fresh⟩
  have present : record.name ∈ next.names := by
    rw [names, names_append_entryOf]
    exact first.taken
  obtain ⟨previous, found⟩ := mem_names_iff.1 present
  refine ⟨next, previous, ?_, rfl, found⟩
  obtain ⟨back, split⟩ := first.split
  have refused : next.insert (entryOf file record) =
      .error (.duplicateRecord record.name file.path previous.source) := insert_eq_error found
  rw [perform_addFile, ← split, List.append_assoc, List.map_append,
    insertAll_append (rfl : next.entries = _), List.singleton_append, List.map_cons, insertAll,
    refused]

theorem entries_prefix_perform (catalog : Catalog) (call : Call) :
    catalog.entries <+: (catalog.perform call).1.entries := by
  cases call with
  | insert entry =>
    rw [perform]
    cases inserted : catalog.insert entry with
    | error cause => exact List.prefix_rfl
    | ok next =>
      rw [insert_eq_ok_iff.1 inserted]
      exact List.prefix_append _ _
  | addFile file filter => exact entries_prefix_insertAll _ _

/-! ## Sequences of calls -/

theorem entries_prefix_performAll (catalog : Catalog) (calls : List Call) :
    catalog.entries <+: (catalog.performAll calls).entries := by
  induction calls generalizing catalog with
  | nil => exact List.prefix_rfl
  | cons call rest ih => exact (entries_prefix_perform catalog call).trans (ih _)

theorem performAll_append (catalog : Catalog) (earlier later : List Call) :
    catalog.performAll (earlier ++ later) = (catalog.performAll earlier).performAll later :=
  List.foldl_append

/-- What holds of a catalog and of the next call on it. -/
structure Conduct (catalog : Catalog) : Prop where
  /-- No two entries have one name. -/
  names_nodup : catalog.names.Nodup
  /-- Looking up a name gives the one entry of that name, or nothing if there is none. -/
  lookup : ∀ name, catalog.entries.filter (·.record.name == name) = (catalog.get? name).toList
  /-- An insertion fails if the name is taken, and changes nothing then. -/
  insert_taken : ∀ entry : Entry, entry.record.name ∈ catalog.names →
    ∃ previous, catalog.get? entry.record.name = some previous ∧
      catalog.perform (.insert entry) =
        (catalog, .error (.duplicateRecord entry.record.name entry.source previous.source))
  /-- Otherwise it succeeds and appends the entry. -/
  insert_fresh : ∀ entry : Entry, entry.record.name ∉ catalog.names →
    ∃ next, catalog.perform (.insert entry) = (next, .ok ()) ∧
      next.entries = catalog.entries ++ [entry]
  /-- A file none of whose wanted records has a taken name is appended, in its order. -/
  addFile_fresh : ∀ file filter,
    (¬∃ front record, FirstTaken catalog (admitted file filter) front record) →
    ∃ next, catalog.perform (.addFile file filter) = (next, .ok ()) ∧
      next.entries = catalog.entries ++ (admitted file filter).map (entryOf file)
  /-- Any other file is appended up to the first taken name, and fails with that name, its own
  path and the source of the entry that has the name. -/
  addFile_taken : ∀ file filter front record,
    FirstTaken catalog (admitted file filter) front record →
    ∃ next previous, catalog.perform (.addFile file filter) =
        (next, .error (.duplicateRecord record.name file.path previous.source)) ∧
      next.entries = catalog.entries ++ front.map (entryOf file) ∧
      next.get? record.name = some previous

/-- **Catalogs keep their names apart and only grow.** Whatever calls were made from the empty
catalog on, and however many of them failed: names are distinct and a name finds its entry;
what was there before stays in front; an insertion fails exactly if its name is taken; and
a file is added up to the first wanted record whose name is taken. -/
theorem performAll_conduct (calls : List Call) :
    Conduct (Catalog.empty.performAll calls) ∧
      ∀ more, (Catalog.empty.performAll calls).entries <+:
        (Catalog.empty.performAll (calls ++ more)).entries := by
  constructor
  · constructor
    case names_nodup => exact Catalog.names_nodup _
    case lookup => exact filter_entries_eq _
    case insert_taken =>
      intro entry present
      obtain ⟨previous, found⟩ := mem_names_iff.1 present
      refine ⟨previous, found, ?_⟩
      rw [perform, insert_eq_error found]
    case insert_fresh =>
      intro entry absent
      have missing : (Catalog.empty.performAll calls).get? entry.record.name = none := by
        rw [Option.eq_none_iff_forall_ne_some]
        intro other found
        exact absent (mem_names_iff.2 ⟨other, found⟩)
      let next : Catalog := ⟨_, nodup_append_of_get?_eq_none missing⟩
      have inserted : (Catalog.empty.performAll calls).insert entry = .ok next :=
        insert_eq_ok_iff.2 rfl
      refine ⟨next, ?_, rfl⟩
      rw [perform, inserted]
    case addFile_fresh =>
      intro file filter untaken
      rcases nodup_or_firstTaken (Catalog.empty.performAll calls) (admitted file filter) with
        fresh | taken
      · exact perform_addFile_of_nodup fresh
      · exact absurd taken untaken
    case addFile_taken =>
      intro file filter front record first
      exact perform_addFile_of_firstTaken first
  · intro more
    rw [performAll_append]
    exact entries_prefix_performAll _ _

/-- `int width` -/
def pen : Record :=
  ⟨"Pen", [⟨"width", .scalar "int" false, by decide⟩], by decide, by decide, by decide⟩

/-- `String colour` -/
def ink : Record :=
  ⟨"Ink", [⟨"colour", .scalar "String" false, by decide⟩], by decide, by decide, by decide⟩

/-- `List<Ink> stains` -/
def blotter : Record :=
  ⟨"Blotter", [⟨"stains", .list (.scalar "Ink" false) false, by decide⟩], by decide, by decide,
    by decide⟩

/-- The file fails at its second record, whose name came from another file. Ink stays, and
the blotter can be added afterwards. -/
theorem performAll_conduct_blotter :
    ∃ reached final : Catalog,
      (Catalog.empty.performAll [.insert ⟨"old", "old.toml", pen⟩]).perform
          (.addFile ⟨"desk.json", [ink, pen, blotter]⟩ {}) =
        (reached, .error (.duplicateRecord "Pen" "desk.json" "old.toml")) ∧
      reached.names = ["Pen", "Ink"] ∧
      reached.perform (.addFile ⟨"desk.json", [ink, pen, blotter]⟩ ⟨[], ["Pen", "Ink"]⟩) =
        (final, .ok ()) ∧
      final.names = ["Pen", "Ink", "Blotter"] := by
  let start : Call := .insert ⟨"old", "old.toml", pen⟩
  let desk : SchemaFile := ⟨"desk.json", [ink, pen, blotter]⟩
  have held : (Catalog.empty.performAll [start]).names = ["Pen"] := rfl
  have first : FirstTaken (Catalog.empty.performAll [start]) (admitted desk {}) [ink] pen := by
    refine ⟨⟨[blotter], rfl⟩, ?_, ?_⟩
    · rw [held]
      decide
    · rw [held]
      decide
  obtain ⟨reached, previous, failed, appended, found⟩ :=
    (performAll_conduct [start]).1.addFile_taken desk {} [ink] pen first
  have named : reached.names = ["Pen", "Ink"] := by
    rw [names, appended]
    rfl
  have origin : previous = ⟨"old", "old.toml", pen⟩ := by
    rw [get?, appended] at found
    exact (Option.some.inj found).symm
  subst origin
  have later : reached = Catalog.empty.performAll [start, .addFile desk {}] :=
    (congrArg Prod.fst failed).symm
  have untaken : ¬∃ front record, FirstTaken (Catalog.empty.performAll [start, .addFile desk {}])
      (admitted desk ⟨[], ["Pen", "Ink"]⟩) front record := by
    rintro ⟨front, record, clash⟩
    apply clash.not_nodup
    rw [← later, named]
    decide
  obtain ⟨final, succeeded, complete⟩ :=
    (performAll_conduct [start, .addFile desk {}]).1.addFile_fresh desk ⟨[], ["Pen", "Ink"]⟩
      untaken
  rw [← later] at succeeded complete
  refine ⟨reached, final, failed, named, succeeded, ?_⟩
  rw [names, complete, appended]
  rfl

end Catalog

end Recordsmith
