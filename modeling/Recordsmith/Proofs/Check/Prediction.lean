/-
# Recordsmith.Proofs.Check.Prediction — a check foretells a run

A check tries every record with the usual options only, while a run may have any
options, goes by modules or not, and keeps going or not. Still a check says what
each run will do, since whether a record has a class depends on its types alone
(`Class.accepted_iff_supported`).

A check *flags* a record if it has a `codegen` finding about one of its fields.
The findings name their field by its place, and no two records of a catalog share
a place (`Lint.name_eq_of_place_eq`), so flags and records without a class are the
same thing (`Catalog.flags_iff`). The main statement is `check_foretells`.
-/
import Mathlib.Data.List.Nodup
import Recordsmith.Check
import Recordsmith.Proofs.Class.Acceptance
import Recordsmith.Proofs.Generator.Runs
import Recordsmith.Proofs.Text.Trim

namespace Recordsmith

set_option autoImplicit false

/-- The findings about records without a class. -/
def CheckReport.codegen (report : CheckReport) : List Diagnostic :=
  report.diagnostics.filter (·.lint == "codegen")

/-- Whether a finding is about a field of a record. -/
def Diagnostic.concerns (diagnostic : Diagnostic) (record : Record) : Bool :=
  record.fields.any fun field => diagnostic.location == some (Lint.place record field)

/-! ## Places -/

/-- A place tells the record. -/
theorem Lint.name_eq_of_place_eq {record other : Record} {field otherField : Field}
    (same : place record field = place other otherField) : record.name = other.name := by
  have noDot : ∀ named : Record, ∀ c ∈ named.name.toList, (c != '.') = true := by
    intro named c member
    rw [bne_iff_ne]
    rintro rfl
    exact Text.not_mem_of_isIdentifier named.name_valid (by decide) member
  have front : ∀ (named : Record) (member : Field),
      (place named member).toList.takeWhile (· != '.') = named.name.toList := by
    intro named member
    rw [place, String.toList_append, String.toList_append, List.append_assoc,
      List.takeWhile_append_of_pos (noDot named)]
    simp
  rw [← String.toList_inj, ← front record field, same, front other otherField]

/-- What is reported of a record is about the record. -/
theorem Unsupported.place_eq {record : Record} {unsupported : Unsupported}
    (found : record.unsupported? = some unsupported) :
    ∃ field ∈ record.fields,
      unsupported.toDiagnostic.location = some (Lint.place record field) := by
  obtain ⟨before, field, after, fault, order, -, -, rfl⟩ :=
    Record.unsupported?_eq_some_iff.1 found
  exact ⟨field, by simp [order], rfl⟩

/-! ## Rules -/

/-- The findings of a rule bear its name, and only those on field names are errors. -/
theorem Lint.of_mem_check {lint : Lint} {records : List Record} {diagnostic : Diagnostic}
    (member : diagnostic ∈ lint.check records) :
    diagnostic.lint = lint.name ∧ diagnostic.isError = decide (lint = .fieldNaming) := by
  simp only [Lint.check, List.mem_flatMap, List.mem_append] at member
  obtain ⟨record, -, named | ⟨field, -, found⟩⟩ := member
  · cases lint with
    | recordNaming =>
      rw [Lint.checkName] at named
      split at named
      · cases named
      · obtain rfl := List.mem_singleton.1 named
        exact ⟨rfl, rfl⟩
    | unknownReference => cases named
    | fieldNaming => cases named
  · cases lint with
    | unknownReference =>
      obtain ⟨name, -, rfl⟩ := List.mem_map.1 found
      exact ⟨rfl, rfl⟩
    | recordNaming => cases found
    | fieldNaming =>
      obtain ⟨message, -, rfl⟩ := List.mem_map.1 found
      exact ⟨rfl, rfl⟩

theorem Lint.namingFault?_eq_none_iff {record : Record} {field : Field} :
    namingFault? record field = none ↔
      field.name ∉ reservedWords ∧ field.name ∉ memberNames ∧ field.name ≠ record.name := by
  rw [namingFault?]
  split
  · next reserved => simp [reserved]
  · next unreserved =>
    split
    · next clashes => simp [clashes]
    · next free =>
      split
      · next same => simp [same]
      · next different => simp [unreserved, free, different]

theorem Lint.fieldNaming_check_eq_nil_iff {records : List Record} :
    fieldNaming.check records = [] ↔
      ∀ record ∈ records, ∀ field ∈ record.fields, namingFault? record field = none := by
  simp only [check, checkName, List.nil_append, List.flatMap_eq_nil_iff, checkField,
    List.map_eq_nil_iff, Option.toList_eq_nil_iff]

namespace Catalog

variable {catalog : Catalog}

theorem eq_of_name_eq {record other : Record} (member : record ∈ catalog.records)
    (otherMember : other ∈ catalog.records) (same : record.name = other.name) :
    record = other := by
  have unrepeated : (catalog.records.map Record.name).Nodup := by
    rw [← names_eq_map_records]
    exact catalog.names_nodup
  exact List.inj_on_of_nodup_map unrepeated member otherMember same

theorem concerns_iff {record other : Record} {unsupported : Unsupported}
    (member : record ∈ catalog.records) (otherMember : other ∈ catalog.records)
    (found : record.unsupported? = some unsupported) :
    unsupported.toDiagnostic.concerns other = true ↔ record.name = other.name := by
  obtain ⟨field, fieldMember, located⟩ := Unsupported.place_eq found
  simp only [Diagnostic.concerns, List.any_eq_true, beq_iff_eq, located, Option.some.injEq]
  constructor
  · rintro ⟨otherField, -, same⟩
    exact Lint.name_eq_of_place_eq same
  · intro same
    obtain rfl := eq_of_name_eq member otherMember same
    exact ⟨field, fieldMember, rfl⟩

/-! ## The findings of a check -/

theorem codegenDiagnostics_eq (catalog : Catalog) :
    catalog.codegenDiagnostics =
      (catalog.records.filterMap Record.unsupported?).map Unsupported.toDiagnostic := by
  rw [codegenDiagnostics, List.map_filterMap]
  congr 1
  funext record
  rw [Settings.classLines_eq]
  cases record.unsupported? with
  | none => rfl
  | some unsupported => rfl

theorem codegen_check (catalog : Catalog) :
    catalog.check.codegen =
      (catalog.records.filterMap Record.unsupported?).map Unsupported.toDiagnostic := by
  have lints : (Lint.checkAll Lint.standard catalog.records).filter (·.lint == "codegen") = [] := by
    rw [List.filter_eq_nil_iff]
    intro diagnostic member
    obtain ⟨lint, -, found⟩ := List.mem_flatMap.1 member
    rw [(Lint.of_mem_check found).1]
    cases lint <;> decide
  have all : catalog.codegenDiagnostics.filter (·.lint == "codegen") =
      catalog.codegenDiagnostics := by
    rw [List.filter_eq_self, codegenDiagnostics_eq, List.forall_mem_map]
    intro unsupported _
    rfl
  rw [CheckReport.codegen, check, List.filter_append, lints, List.nil_append, all,
    codegenDiagnostics_eq]

theorem codegen_check_eq_nil_iff :
    catalog.check.codegen = [] ↔ ∀ record ∈ catalog.records, record.isSupported = true := by
  rw [codegen_check, List.map_eq_nil_iff, List.filterMap_eq_nil_iff]
  simp only [Record.isSupported, Option.isNone_iff_eq_none]

/-- Whether a check has a `codegen` finding about the record. -/
def flags (catalog : Catalog) (record : Record) : Bool :=
  catalog.check.codegen.any (·.concerns record)

theorem flags_iff {record : Record} (member : record ∈ catalog.records) :
    catalog.flags record = true ↔ record.isSupported = false := by
  simp only [flags, codegen_check, List.any_map, List.any_eq_true, List.mem_filterMap,
    Function.comp_apply]
  constructor
  · rintro ⟨unsupported, ⟨other, otherMember, found⟩, about⟩
    have same := (concerns_iff otherMember member found).1 about
    rw [← eq_of_name_eq otherMember member same, Record.isSupported, found]
    rfl
  · intro refused
    rw [Record.isSupported, ← Bool.not_eq_true, Option.isNone_iff_eq_none, ← ne_eq,
      Option.ne_none_iff_exists'] at refused
    obtain ⟨unsupported, found⟩ := refused
    exact ⟨unsupported, ⟨record, member, found⟩, (concerns_iff member member found).2 rfl⟩

theorem filter_not_flags (catalog : Catalog) :
    (catalog.records.filter fun record => !catalog.flags record) =
      catalog.records.filter Record.isSupported := by
  apply List.filter_congr
  intro record member
  rw [Bool.eq_iff_iff, Bool.not_eq_true', ← Bool.not_eq_true, flags_iff member,
    Bool.not_eq_false]

/-- A record has at most one `codegen` finding. -/
theorem countP_concerns_le (catalog : Catalog) {record : Record}
    (member : record ∈ catalog.records) :
    catalog.check.codegen.countP (·.concerns record) ≤ 1 := by
  have unrepeated : (catalog.records.map Record.name).count record.name ≤ 1 := by
    rw [← names_eq_map_records]
    exact List.nodup_iff_count_le_one.1 catalog.names_nodup _
  rw [List.count, List.countP_map] at unrepeated
  rw [codegen_check, List.countP_map, List.countP_filterMap]
  refine Nat.le_trans (List.countP_mono_left ?_) unrepeated
  intro other otherMember counted
  cases found : other.unsupported? with
  | none => simp [found] at counted
  | some unsupported =>
    simp only [found, Option.map_some, Option.getD_some, Function.comp_apply] at counted
    simpa using (concerns_iff otherMember member found).1 counted

/-! ## Runs that keep going -/

/-- The records that a run has generated and those that a check flags make up the catalog. -/
structure LeavesOutFlagged (catalog : Catalog) (generated : List String) : Prop where
  skipped_iff : ∀ record ∈ catalog.records, record.name ∉ generated ↔ catalog.flags record = true
  partition : (generated ++ (catalog.records.filter catalog.flags).map Record.name).Perm
    catalog.names
  length_le : generated.length ≤ catalog.size

theorem leavesOutFlagged_of_perm {generated : List String}
    (supported : generated.Perm ((catalog.records.filter Record.isSupported).map Record.name)) :
    LeavesOutFlagged catalog generated := by
  have partition : (generated ++ (catalog.records.filter catalog.flags).map Record.name).Perm
      catalog.names := by
    rw [← filter_not_flags] at supported
    refine (supported.append_right _).trans ?_
    rw [← List.map_append, names_eq_map_records]
    exact (List.perm_append_comm.trans (List.filter_append_perm _ _)).map _
  refine ⟨fun record member => ?_, partition, ?_⟩
  · rw [flags_iff member, ← Bool.not_eq_true, not_iff_not, supported.mem_iff, List.mem_map]
    constructor
    · rintro ⟨other, listed, same⟩
      obtain ⟨otherMember, isSupported⟩ := List.mem_filter.1 listed
      rwa [← eq_of_name_eq otherMember member same]
    · intro isSupported
      exact ⟨record, List.mem_filter.2 ⟨member, isSupported⟩, rfl⟩
  · have total := partition.length_eq
    simp only [List.length_append, names, List.length_map] at total
    rw [size]
    omega

/-- The catalog of the entries whose records are wanted. -/
def keeping (catalog : Catalog) (wanted : Record → Bool) : Catalog :=
  ⟨catalog.entries.filter fun entry => wanted entry.record,
    catalog.names_nodup.sublist (List.filter_sublist.map _)⟩

theorem records_keeping (catalog : Catalog) (wanted : Record → Bool) :
    (catalog.keeping wanted).records = catalog.records.filter wanted := by
  rw [records, records, keeping, List.filter_map]
  rfl

theorem generated_filter (settings : Settings) (records : List Record) :
    settings.generated (records.filter Record.isSupported) = settings.generated records := by
  simp only [Settings.generated, List.filter_filter, Bool.and_self]

theorem map_fst_generated (settings : Settings) (records : List Record) :
    (settings.generated records).map Prod.fst =
      (records.filter Record.isSupported).map Record.name := by
  rw [Settings.generated, List.map_map]
  rfl

/-! ## Valid catalogs -/

theorem isValid_check_iff :
    catalog.check.isValid = true ↔
      Lint.fieldNaming.check catalog.records = [] ∧ catalog.check.codegen = [] := by
  have severe : ∀ diagnostic ∈ catalog.codegenDiagnostics, diagnostic.isError = true := by
    rw [codegenDiagnostics_eq, List.forall_mem_map]
    intro unsupported _
    rfl
  rw [CheckReport.isValid, Bool.not_eq_true', List.any_eq_false, codegen_check,
    ← codegenDiagnostics_eq, check]
  simp only [List.forall_mem_append]
  apply and_congr
  · constructor
    · intro harmless
      rw [List.eq_nil_iff_forall_not_mem]
      intro diagnostic found
      have member : diagnostic ∈ Lint.checkAll Lint.standard catalog.records :=
        List.mem_flatMap.2 ⟨.fieldNaming, by decide, found⟩
      exact harmless diagnostic member (Lint.of_mem_check found).2
    · intro clean diagnostic member isError
      obtain ⟨lint, -, found⟩ := List.mem_flatMap.1 member
      rw [(Lint.of_mem_check found).2, decide_eq_true_eq] at isError
      rw [isError, clean] at found
      cases found
  · rw [List.eq_nil_iff_forall_not_mem]
    exact forall₂_congr fun diagnostic member => by simp [severe diagnostic member]

/-! ## Runs that stop -/

/-- A run without `keepGoing` over the records in any order fails if one has no class. -/
theorem exists_stop?_iff {settings : Settings} (stops : settings.keepGoing = false)
    {records : List Record} (order : records.Perm catalog.records) :
    (∃ cause, settings.stop? records = some cause) ↔ catalog.check.codegen ≠ [] := by
  rw [← Option.ne_none_iff_exists', ne_eq, ne_eq, Settings.stop?_eq_none_iff,
    codegen_check_eq_nil_iff]
  simp [stops, order.mem_iff]

theorem elim_eq_error_iff {α : Type} {stop : Option Unsupported} {value : α}
    {cause : Unsupported} :
    (stop.elim (.ok value) .error : Except Unsupported α) = .error cause ↔ stop = some cause := by
  cases stop with
  | none => simp
  | some other => simp

/-- **A check foretells every run**, whatever its options and indent.

* A record has at most one `codegen` finding, and every such finding is about a record.
* A run that does not keep going fails, with or without modules, if there is a `codegen`
  finding; the fault of a single file is the one found first.
* A run that keeps going never fails. It leaves out the records with a `codegen` finding
  and generates the others, and a single file is the same as without the records left out.
* A check finds a catalog valid if all field names keep to the naming rule and all
  field types are supported. -/
theorem check_foretells (catalog : Catalog) (options : ClassOptions) (indent : Indent) :
    ((∀ record ∈ catalog.records, catalog.check.codegen.countP (·.concerns record) ≤ 1) ∧
      ∀ finding ∈ catalog.check.codegen, ∃ record ∈ catalog.records, finding.concerns record) ∧
    (((∃ cause, catalog.singleFile ⟨options, indent, false⟩ = .error cause) ↔
        catalog.check.codegen ≠ []) ∧
      ((∃ cause, catalog.modules ⟨options, indent, false⟩ = .error cause) ↔
        catalog.check.codegen ≠ []) ∧
      ∀ cause, catalog.singleFile ⟨options, indent, false⟩ = .error cause →
        catalog.check.codegen.head? = some cause.toDiagnostic) ∧
    (∃ single files, catalog.singleFile ⟨options, indent, true⟩ = .ok single ∧
      catalog.modules ⟨options, indent, true⟩ = .ok files ∧
      LeavesOutFlagged catalog single.records ∧ LeavesOutFlagged catalog files.records ∧
      ∀ keepGoing, (catalog.keeping fun record => !catalog.flags record).singleFile
        ⟨options, indent, keepGoing⟩ = .ok single) ∧
    (catalog.check.isValid = true ↔
      ∀ record ∈ catalog.records, ∀ field ∈ record.fields,
        (field.name ∉ Lint.reservedWords ∧ field.name ∉ Lint.memberNames ∧
          field.name ≠ record.name) ∧ field.type.Supported) := by
  refine ⟨⟨fun record member => catalog.countP_concerns_le member, ?_⟩, ⟨?_, ?_, ?_⟩, ?_, ?_⟩
  · rw [codegen_check, List.forall_mem_map]
    intro unsupported member
    obtain ⟨record, recordMember, found⟩ := List.mem_filterMap.1 member
    exact ⟨record, recordMember, (concerns_iff recordMember recordMember found).2 rfl⟩
  · simp only [singleFile_eq, elim_eq_error_iff]
    exact exists_stop?_iff rfl (.refl _)
  · simp only [modules_eq, elim_eq_error_iff]
    exact exists_stop?_iff rfl catalog.moduleRecords_perm
  · intro cause failed
    rw [singleFile_eq, elim_eq_error_iff] at failed
    rw [codegen_check, List.head?_map, List.head?_filterMap]
    exact congrArg _ failed
  · refine ⟨_, _, singleFile_eq _ _, modules_eq _ _, ?_, ?_, fun keepGoing => ?_⟩
    · rw [map_fst_generated]
      exact leavesOutFlagged_of_perm (.refl _)
    · rw [map_fst_generated]
      exact leavesOutFlagged_of_perm ((catalog.moduleRecords_perm.filter _).map _)
    · have unstopped : Settings.stop? ⟨options, indent, keepGoing⟩
          (catalog.records.filter Record.isSupported) = none := by
        rw [Settings.stop?_eq_none_iff]
        exact .inr fun record member => (List.mem_filter.1 member).2
      rw [singleFile_eq, records_keeping, filter_not_flags, unstopped, generated_filter]
      rfl
  · rw [isValid_check_iff, Lint.fieldNaming_check_eq_nil_iff, codegen_check_eq_nil_iff]
    simp only [Record.isSupported, Option.isNone_iff_eq_none, Record.unsupported?_eq_none_iff,
      Lint.namingFault?_eq_none_iff]
    constructor
    · rintro ⟨named, supported⟩ record member field fieldMember
      exact ⟨named record member field fieldMember, supported record member field fieldMember⟩
    · intro fit
      exact ⟨fun record member field fieldMember => (fit record member field fieldMember).1,
        fun record member field fieldMember => (fit record member field fieldMember).2⟩

/-- `Set<int> marks`, a record without a class -/
def sheet : Record :=
  ⟨"Sheet", [⟨"marks", .generic "Set" [.scalar "int" false] false, by decide⟩],
    by decide, by decide, by decide⟩

/-- `int length`, `Sheet? sheet` -/
def row : Record :=
  ⟨"Row", [⟨"length", .scalar "int" false, by decide⟩, ⟨"sheet", .scalar "Sheet" true, by decide⟩],
    by decide, by decide, by decide⟩

def sheetsAndRows : Catalog :=
  ⟨[⟨"sheets", "sheets.json", sheet⟩, ⟨"rows", "rows.json", row⟩], by decide⟩

/-- The runs have other options than the check. -/
theorem check_foretells_sheets :
    (∃ cause, sheetsAndRows.modules ⟨⟨true, false⟩, .tab, false⟩ = .error cause) ∧
    ∃ files, sheetsAndRows.modules ⟨⟨true, false⟩, .tab, true⟩ = .ok files ∧
      "Sheet" ∉ files.records ∧ "Row" ∈ files.records := by
  obtain ⟨-, ⟨-, stops, -⟩, ⟨single, files, -, generated, -, left, -⟩, -⟩ :=
    check_foretells sheetsAndRows ⟨true, false⟩ .tab
  have sheetFlag : sheetsAndRows.flags sheet = true := by decide
  have rowFlag : ¬ sheetsAndRows.flags row = true := by decide
  refine ⟨stops.2 (by decide), files, generated, ?_, ?_⟩
  · exact (left.skipped_iff sheet (by simp [sheetsAndRows, records])).2 sheetFlag
  · by_contra skipped
    exact rowFlag ((left.skipped_iff row (by simp [sheetsAndRows, records])).1 skipped)

end Catalog

end Recordsmith
