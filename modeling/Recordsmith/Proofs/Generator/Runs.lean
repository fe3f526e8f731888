/-
# Recordsmith.Proofs.Generator.Runs — what a run generates

A run over records ends in one of two ways. Either it *stops* at a record without
a class, which only a run that does not keep going does, or it generates the
classes of all records that have one. The equations here say so for each form of
output, and proofs about generated files start from them:

* `Settings.classes_eq` for records in turn;
* `Catalog.singleFile_eq` for one file;
* `Catalog.modules_eq` for a file for each module.

The records of the modules, one module after the other, are the records of the
catalog in another order (`Catalog.moduleRecords_perm`).
-/
import Mathlib.Data.List.Nodup
import Mathlib.Data.List.Perm.Basic
import Recordsmith.Generator
import Recordsmith.Proofs.Catalog.Contents
import Recordsmith.Proofs.Class.Synthesis

namespace Recordsmith

set_option autoImplicit false

/-- Whether the record has a class. -/
def Record.isSupported (record : Record) : Bool :=
  record.unsupported?.isNone

namespace Settings

/-- The fault that ends a run over these records. -/
def stop? (settings : Settings) (records : List Record) : Option Unsupported :=
  if settings.keepGoing then none else records.findSome? Record.unsupported?

/-- The lines of the class that a supported record has. -/
def linesOf (settings : Settings) (record : Record) : List String :=
  Dart.Expr.lines settings.indent (Class.ofRecord settings.options record)

/-- The names and class lines of the supported records. -/
def generated (settings : Settings) (records : List Record) : List (String × List String) :=
  (records.filter Record.isSupported).map fun record => (record.name, settings.linesOf record)

theorem mem_map_fst_generated {settings : Settings} {records : List Record} {name : String} :
    name ∈ (settings.generated records).map Prod.fst ↔
      ∃ record ∈ records, record.isSupported = true ∧ record.name = name := by
  simp only [generated, List.map_map, List.mem_map, List.mem_filter, Function.comp_apply, and_assoc]

theorem classLines_eq (settings : Settings) (record : Record) :
    settings.classLines record =
      record.unsupported?.elim (.ok (settings.linesOf record)) .error := by
  rw [classLines, Class.lines, Class.assemble_eq, map_elim_ok]
  rfl

theorem classLines_eq_ok (settings : Settings) {record : Record}
    (supported : record.isSupported = true) :
    settings.classLines record = .ok (settings.linesOf record) := by
  rw [classLines_eq, Option.isNone_iff_eq_none.1 supported]
  rfl

theorem stop?_append (settings : Settings) (front back : List Record) :
    settings.stop? (front ++ back) = (settings.stop? front).or (settings.stop? back) := by
  rw [stop?, stop?, stop?]
  split
  · rfl
  · rw [List.findSome?_append]

theorem stop?_eq_none_iff {settings : Settings} {records : List Record} :
    settings.stop? records = none ↔
      settings.keepGoing = true ∨ ∀ record ∈ records, record.isSupported = true := by
  rw [stop?]
  split
  · next keepsGoing => simp [keepsGoing]
  · next stops => simp [stops, Record.isSupported]

theorem stop?_eq_none_of_perm (settings : Settings) {records others : List Record}
    (order : records.Perm others) :
    settings.stop? records = none ↔ settings.stop? others = none := by
  simp only [stop?_eq_none_iff, order.mem_iff]

theorem elim_eq_ok_iff {α : Type} {stop : Option Unsupported} {value result : α} :
    (stop.elim (.ok value) .error : Except Unsupported α) = .ok result ↔
      stop = none ∧ value = result := by
  cases stop with
  | none => simp
  | some unsupported => simp

/-- A run over records stops, or generates the classes of the supported ones. -/
theorem classes_eq (settings : Settings) (records : List Record) :
    settings.classes records =
      (settings.stop? records).elim (.ok (settings.generated records)) .error := by
  induction records with
  | nil =>
    have unstopped : settings.stop? [] = none := stop?_eq_none_iff.2 (by simp)
    rw [unstopped]
    rfl
  | cons record rest ih =>
    rw [classes, classLines_eq]
    cases found : record.unsupported? with
    | none =>
      have passed : settings.stop? (record :: rest) = settings.stop? rest := by
        rw [stop?, stop?, List.findSome?_cons_of_isNone (by simp [found])]
      have counted : settings.generated (record :: rest) =
          (record.name, settings.linesOf record) :: settings.generated rest := by
        rw [generated, List.filter_cons_of_pos (by simp [Record.isSupported, found])]
        rfl
      simp only [Option.elim_none, ih, map_elim_ok, passed, counted]
    | some unsupported =>
      have skipped : settings.generated (record :: rest) = settings.generated rest := by
        rw [generated, List.filter_cons_of_neg (by simp [Record.isSupported, found])]
        rfl
      simp only [Option.elim_some, ih, skipped]
      cases keeps : settings.keepGoing with
      | true => simp [stop?, keeps]
      | false => simp [stop?, keeps, found]

end Settings

namespace Catalog

/-! ## The forms of output -/

theorem singleFile_eq (catalog : Catalog) (settings : Settings) :
    catalog.singleFile settings =
      (settings.stop? catalog.records).elim
        (.ok ⟨SourceFile.render ⟨[], (settings.generated catalog.records).map Prod.snd⟩,
          (settings.generated catalog.records).map Prod.fst⟩) .error := by
  rw [singleFile, Settings.classes_eq, map_elim_ok]

theorem eq_of_singleFile {catalog : Catalog} {settings : Settings} {single : Generated String}
    (generates : catalog.singleFile settings = .ok single) :
    single.output = SourceFile.render ⟨[], (settings.generated catalog.records).map Prod.snd⟩ ∧
      single.records = (settings.generated catalog.records).map Prod.fst := by
  rw [singleFile_eq, Settings.elim_eq_ok_iff] at generates
  obtain ⟨-, rfl⟩ := generates
  exact ⟨rfl, rfl⟩

/-- The file of a module with the classes of its supported records. -/
def fileOf (catalog : Catalog) (settings : Settings) (name : String) : GeneratedFile :=
  ⟨moduleFile name, SourceFile.render ⟨catalog.importsFor name,
    (settings.generated (catalog.recordsOf name)).map Prod.snd⟩⟩

theorem module_eq (catalog : Catalog) (settings : Settings) (name : String) :
    catalog.module settings name =
      (settings.stop? (catalog.recordsOf name)).elim
        (.ok ⟨catalog.fileOf settings name,
          (settings.generated (catalog.recordsOf name)).map Prod.fst⟩) .error := by
  rw [module, Settings.classes_eq, map_elim_ok]
  rfl

theorem moduleList_eq (catalog : Catalog) (settings : Settings) (names : List String) :
    catalog.moduleList settings names =
      (settings.stop? (names.flatMap catalog.recordsOf)).elim
        (.ok (names.map fun name => ⟨catalog.fileOf settings name,
          (settings.generated (catalog.recordsOf name)).map Prod.fst⟩)) .error := by
  induction names with
  | nil =>
    have unstopped : settings.stop? [] = none := Settings.stop?_eq_none_iff.2 (by simp)
    rw [List.flatMap_nil, unstopped]
    rfl
  | cons name rest ih =>
    rw [moduleList, module_eq, List.flatMap_cons, Settings.stop?_append]
    cases settings.stop? (catalog.recordsOf name) with
    | none => simp only [Option.elim_none, ih, map_elim_ok, Option.none_or, List.map_cons]
    | some unsupported => rfl

/-- The records of all modules, one module after the other. -/
def moduleRecords (catalog : Catalog) : List Record :=
  catalog.moduleNames.flatMap catalog.recordsOf

theorem modules_eq (catalog : Catalog) (settings : Settings) :
    catalog.modules settings =
      (settings.stop? catalog.moduleRecords).elim
        (.ok ⟨catalog.moduleNames.map (catalog.fileOf settings) ++ [SourceFile.support],
          (settings.generated catalog.moduleRecords).map Prod.fst⟩) .error := by
  have counted : (catalog.moduleNames.flatMap fun name =>
      (settings.generated (catalog.recordsOf name)).map Prod.fst) =
        (settings.generated catalog.moduleRecords).map Prod.fst := by
    simp only [Settings.generated, moduleRecords, List.filter_flatMap, List.map_flatMap]
  rw [modules, moduleList_eq, map_elim_ok, List.map_map, List.flatMap_map, counted]
  rfl

theorem eq_of_modules {catalog : Catalog} {settings : Settings}
    {generated : Generated (List GeneratedFile)}
    (generates : catalog.modules settings = .ok generated) :
    generated.output = catalog.moduleNames.map (catalog.fileOf settings) ++ [SourceFile.support] ∧
      generated.records = (settings.generated catalog.moduleRecords).map Prod.fst := by
  rw [modules_eq, Settings.elim_eq_ok_iff] at generates
  obtain ⟨-, rfl⟩ := generates
  exact ⟨rfl, rfl⟩

theorem moduleFile_inj {name other : String} : moduleFile name = moduleFile other ↔ name = other :=
  String.append_left_inj ".dart"

/-! ## Records by module -/

theorem mem_moduleNames {catalog : Catalog} {name : String} :
    name ∈ catalog.moduleNames ↔ ∃ entry ∈ catalog.entries, entry.module = name := by
  rw [moduleNames, mem_distinct, List.mem_map]

theorem mem_recordsOf {catalog : Catalog} {module : String} {record : Record} :
    record ∈ catalog.recordsOf module ↔
      ∃ entry ∈ catalog.entries, entry.module = module ∧ entry.record = record := by
  simp only [recordsOf, List.mem_mergeSort, entriesOf, List.mem_map, List.mem_filter, beq_iff_eq,
    and_assoc]

theorem entries_nodup (catalog : Catalog) : catalog.entries.Nodup :=
  List.Nodup.of_map _ catalog.names_nodup

theorem names_eq_map_records (catalog : Catalog) :
    catalog.names = catalog.records.map Record.name := by
  rw [names, records, List.map_map]
  rfl

theorem flatMap_entriesOf_perm (catalog : Catalog) :
    (catalog.moduleNames.flatMap catalog.entriesOf).Perm catalog.entries := by
  have apart : (catalog.moduleNames.flatMap catalog.entriesOf).Nodup := by
    rw [List.nodup_flatMap]
    refine ⟨fun name _ => catalog.entries_nodup.filter _, ?_⟩
    refine (nodup_distinct _).imp fun {name other} different => ?_
    intro entry mine theirs
    simp only [entriesOf, List.mem_filter, beq_iff_eq] at mine theirs
    exact different (mine.2.symm.trans theirs.2)
  rw [List.perm_ext_iff_of_nodup apart catalog.entries_nodup]
  intro entry
  simp only [List.mem_flatMap, entriesOf, List.mem_filter, beq_iff_eq, moduleNames, mem_distinct,
    List.mem_map]
  constructor
  · rintro ⟨name, -, member, -⟩
    exact member
  · intro member
    exact ⟨entry.module, ⟨entry, member, rfl⟩, member, rfl⟩

/-- No record is lost or repeated when records are grouped by their modules. -/
theorem moduleRecords_perm (catalog : Catalog) :
    catalog.moduleRecords.Perm catalog.records := by
  have sorted : catalog.moduleRecords.Perm
      (catalog.moduleNames.flatMap fun name => (catalog.entriesOf name).map (·.record)) := by
    apply List.Perm.flatMap_left
    intro name _
    exact List.mergeSort_perm _ _
  rw [← List.map_flatMap] at sorted
  exact sorted.trans (catalog.flatMap_entriesOf_perm.map _)

/-- The generated records are the entries with a class, whatever the order of the records. -/
theorem mem_generated_iff {catalog : Catalog} {settings : Settings} {records : List Record}
    (order : records.Perm catalog.records) {name : String} :
    name ∈ (settings.generated records).map Prod.fst ↔
      ∃ entry, catalog.get? name = some entry ∧ entry.record.isSupported = true := by
  rw [Settings.mem_map_fst_generated]
  simp only [order.mem_iff, Catalog.records, List.mem_map, get?_eq_some_iff]
  constructor
  · rintro ⟨_, ⟨entry, member, rfl⟩, supported, named⟩
    exact ⟨entry, ⟨member, named⟩, supported⟩
  · rintro ⟨entry, ⟨member, named⟩, supported⟩
    exact ⟨entry.record, ⟨entry, member, rfl⟩, supported, named⟩

theorem modules_eq_ok {catalog : Catalog} {settings : Settings}
    (unstopped : settings.stop? catalog.records = none) :
    catalog.modules settings =
      .ok ⟨catalog.moduleNames.map (catalog.fileOf settings) ++ [SourceFile.support],
        (settings.generated catalog.moduleRecords).map Prod.fst⟩ := by
  rw [modules_eq, (settings.stop?_eq_none_of_perm catalog.moduleRecords_perm).2 unstopped]
  rfl

end Catalog

end Recordsmith
