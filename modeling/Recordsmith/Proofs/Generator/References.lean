/-
# Recordsmith.Proofs.Generator.References — where the records named in types are

A type *mentions* a record if the name of the record stands in it, at any depth.
Two computations go through what the fields of a catalog mention, each in its own
way: a module imports the modules of the records it refers to, and the usual rules
warn of records that are not there. `references_resolved` says that they deal with
every mention between them. A record that is mentioned is in the same module, or
in another one that is imported and generated, or there is a warning; and imports
and warnings have no other reason.

References from one module to another are called *crossings*. `mem_importsFor_iff`
says that the imports of a module are the modules its crossings lead to.
-/
import Recordsmith.Proofs.Check.Prediction
import Recordsmith.Proofs.Generator.Order

namespace Recordsmith

set_option autoImplicit false

/-! ## Mentions -/

theorem Builtin.ofName?_eq_none_iff {name : String} :
    ofName? name = none ↔ ∀ builtin : Builtin, builtin.name ≠ name := by
  have listed : ∀ builtin : Builtin, builtin ∈ all := by
    intro builtin
    cases builtin <;> decide
  simp only [ofName?, List.find?_eq_none, beq_iff_eq]
  exact ⟨fun missing builtin => missing builtin (listed builtin), fun missing builtin _ =>
    missing builtin⟩

namespace TypeExpr

/-- The name of a record stands in a type, as a scalar that is no builtin. -/
inductive Mentions (name : String) : TypeExpr → Prop
  | scalar {nullable : Bool} (custom : ∀ builtin : Builtin, builtin.name ≠ name) :
      Mentions name (.scalar name nullable)
  | within {type arg : TypeExpr} (among : arg ∈ type.args) (inner : Mentions name arg) :
      Mentions name type

theorem recordNamesOfAll_eq (args : List TypeExpr) :
    recordNamesOfAll args = args.flatMap recordNames := by
  induction args with
  | nil => rfl
  | cons arg rest ih => rw [recordNamesOfAll, ih, List.flatMap_cons]

theorem recordNames_eq_of_args {type : TypeExpr} (applied : type.args ≠ []) :
    type.recordNames = type.args.flatMap recordNames := by
  cases type with
  | scalar name nullable => exact absurd rfl applied
  | list element nullable => simp [recordNames, args]
  | map key value nullable => simp [recordNames, args]
  | generic name args nullable => exact recordNamesOfAll_eq args

theorem mentions_of_mem_recordNames {name : String} :
    ∀ type : TypeExpr, name ∈ type.recordNames → Mentions name type
  | .scalar other nullable, member => by
    rw [recordNames] at member
    split at member
    · next custom =>
      obtain rfl := List.mem_singleton.1 member
      exact .scalar (Builtin.ofName?_eq_none_iff.1 (Option.isNone_iff_eq_none.1 custom))
    · cases member
  | .list element nullable, member =>
    .within (List.mem_singleton_self element) (mentions_of_mem_recordNames element member)
  | .map key value nullable, member => by
    rcases List.mem_append.1 member with inKey | inValue
    · exact .within (by simp [args]) (mentions_of_mem_recordNames key inKey)
    · exact .within (by simp [args]) (mentions_of_mem_recordNames value inValue)
  | .generic other args nullable, member => by
    rw [recordNames, recordNamesOfAll_eq, List.mem_flatMap] at member
    obtain ⟨arg, among, inner⟩ := member
    have smaller := List.sizeOf_lt_of_mem among
    exact .within among (mentions_of_mem_recordNames arg inner)
termination_by type => sizeOf type

theorem mem_recordNames_iff {name : String} {type : TypeExpr} :
    name ∈ type.recordNames ↔ Mentions name type := by
  refine ⟨mentions_of_mem_recordNames type, fun mentions => ?_⟩
  induction mentions with
  | scalar custom => simp [recordNames, Builtin.ofName?_eq_none_iff.2 custom]
  | within among inner ih =>
    rw [recordNames_eq_of_args (List.ne_nil_of_mem among), List.mem_flatMap]
    exact ⟨_, among, ih⟩

end TypeExpr

theorem Record.mem_references_iff {record : Record} {name : String} :
    name ∈ record.references ↔ ∃ field ∈ record.fields, field.type.Mentions name := by
  simp only [references, mem_distinct, List.mem_flatMap, TypeExpr.references,
    TypeExpr.mem_recordNames_iff]

/-! ## Warnings -/

namespace Lint

/-- The warning that a record mentioned by a field is not there. -/
def missing (record : Record) (field : Field) (name : String) : Diagnostic where
  severity := .warning
  lint := "unknown-reference"
  message := name ++ " ref'd by " ++ record.name ++ " is not among the generated records"
  location := some (record.name ++ "." ++ field.name)

/-- A warning tells the record that it is about and the name that is missing. -/
theorem eq_of_missing_eq {record other : Record} {field otherField : Field} {name another : String}
    (same : missing record field name = missing other otherField another) :
    record.name = other.name ∧ name = another := by
  have named : record.name = other.name :=
    name_eq_of_place_eq (Option.some.inj (congrArg Diagnostic.location same))
  have messages := congrArg Diagnostic.message same
  simp only [missing, named, String.append_left_inj] at messages
  exact ⟨named, messages⟩

theorem mem_unknownReference_iff {records : List Record} {diagnostic : Diagnostic} :
    diagnostic ∈ unknownReference.check records ↔
      ∃ record ∈ records, ∃ field ∈ record.fields, ∃ name, field.type.Mentions name ∧
        name ∉ records.map Record.name ∧ diagnostic = missing record field name := by
  simp only [check, checkName, List.nil_append, List.mem_flatMap, checkField, List.mem_map,
    List.mem_filter, TypeExpr.references, mem_distinct, TypeExpr.mem_recordNames_iff,
    decide_eq_true_eq, and_assoc, @eq_comm _ diagnostic]
  rfl

theorem mem_checkAll_iff {records : List Record} {diagnostic : Diagnostic} :
    diagnostic ∈ checkAll standard records ∧ diagnostic.lint = "unknown-reference" ↔
      diagnostic ∈ unknownReference.check records := by
  rw [checkAll, List.mem_flatMap]
  constructor
  · rintro ⟨⟨lint, -, found⟩, named⟩
    rw [(of_mem_check found).1] at named
    cases lint with
    | unknownReference => exact found
    | recordNaming => exact absurd named (by decide)
    | fieldNaming => exact absurd named (by decide)
  · intro found
    exact ⟨⟨.unknownReference, by decide, found⟩, (of_mem_check found).1⟩

end Lint

namespace Catalog

variable {catalog : Catalog}

/-- The usual rules warn of exactly the mentions of records that are not there. -/
theorem missing_mem_checkAll_iff {warning : Diagnostic} :
    warning ∈ Lint.checkAll Lint.standard catalog.records ∧ warning.lint = "unknown-reference" ↔
      ∃ entry ∈ catalog.entries, ∃ field ∈ entry.record.fields, ∃ name,
        field.type.Mentions name ∧ catalog.get? name = none ∧
          warning = Lint.missing entry.record field name := by
  rw [Lint.mem_checkAll_iff, Lint.mem_unknownReference_iff]
  simp only [get?_eq_none_iff, records, List.mem_map, exists_exists_and_eq_and]

/-! ## Imports -/

/-- An entry refers to an entry of another module. -/
structure Crosses (catalog : Catalog) (source target : Entry) : Prop where
  source_mem : source ∈ catalog.entries
  target_mem : target ∈ catalog.entries
  refers : target.record.name ∈ source.record.references
  apart : target.module ≠ source.module

theorem mem_neighbours_iff {module other : String} :
    other ∈ catalog.neighbours module ↔
      ∃ source target, catalog.Crosses source target ∧ source.module = module ∧
        target.module = other := by
  simp only [neighbours, List.mem_filterMap, List.mem_flatMap, entriesOf, List.mem_filter,
    beq_iff_eq, Option.bind_eq_some_iff, get?_eq_some_iff]
  constructor
  · rintro ⟨name, ⟨source, ⟨sourceMember, rfl⟩, refers⟩, target, ⟨targetMember, rfl⟩, found⟩
    split at found
    · cases found
    · next apart => exact ⟨source, target, ⟨sourceMember, targetMember, refers, apart⟩, rfl,
        Option.some.inj found⟩
  · rintro ⟨source, target, crosses, rfl, rfl⟩
    refine ⟨target.record.name, ⟨source, ⟨crosses.source_mem, rfl⟩, crosses.refers⟩, target,
      ⟨crosses.target_mem, rfl⟩, ?_⟩
    rw [if_neg crosses.apart]

/-- The imports of a module are the modules that its crossings lead to. -/
theorem mem_importsFor_iff {module uri : String} :
    uri ∈ catalog.importsFor module ↔
      ∃ source target, catalog.Crosses source target ∧ source.module = module ∧
        uri = "./" ++ moduleFile target.module := by
  simp only [importsFor, List.mem_mergeSort, mem_distinct, List.mem_map, mem_neighbours_iff]
  constructor
  · rintro ⟨_, ⟨source, target, crosses, home, rfl⟩, rfl⟩
    exact ⟨source, target, crosses, home, rfl⟩
  · rintro ⟨source, target, crosses, home, rfl⟩
    exact ⟨_, ⟨source, target, crosses, home, rfl⟩, rfl⟩

theorem pairwise_importsFor (catalog : Catalog) (module : String) :
    (catalog.importsFor module).Pairwise (· < ·) := by
  apply pairwise_lt_mergeSort id
  rw [List.map_id]
  exact nodup_distinct _

theorem own_not_mem_importsFor (catalog : Catalog) (module : String) :
    "./" ++ moduleFile module ∉ catalog.importsFor module := by
  rw [mem_importsFor_iff]
  rintro ⟨source, target, crosses, rfl, same⟩
  rw [String.append_right_inj, moduleFile_inj] at same
  exact crosses.apart same.symm

theorem moduleFile_mem_paths {settings : Settings} {files : Generated (List GeneratedFile)}
    (generates : catalog.modules settings = .ok files) {entry : Entry}
    (member : entry ∈ catalog.entries) :
    moduleFile entry.module ∈ files.output.map (·.path) := by
  rw [(eq_of_modules generates).1, List.map_append, List.map_map]
  exact List.mem_append_left _
    (List.mem_map.2 ⟨entry.module, mem_moduleNames.2 ⟨entry, member, rfl⟩, rfl⟩)

/-! ## Every mention -/

/-- A record is in this module. -/
def IsLocal (catalog : Catalog) (module name : String) : Prop :=
  ∃ target, catalog.get? name = some target ∧ target.module = module

/-- A record is in another module, which is imported and has a file. -/
def IsImported (catalog : Catalog) (module name : String) : Prop :=
  ∃ target, catalog.get? name = some target ∧ target.module ≠ module ∧
    "./" ++ moduleFile target.module ∈ catalog.importsFor module ∧
    ∀ settings files, catalog.modules settings = .ok files →
      moduleFile target.module ∈ files.output.map (·.path)

/-- A record is not there, and the usual rules warn that the field mentions it. -/
def IsMissing (catalog : Catalog) (record : Record) (field : Field) (name : String) : Prop :=
  catalog.get? name = none ∧
    Lint.missing record field name ∈ Lint.checkAll Lint.standard catalog.records

/-- One of three statements holds, and the others do not. -/
def ExactlyOne (first second third : Prop) : Prop :=
  first ∧ ¬ second ∧ ¬ third ∨ ¬ first ∧ second ∧ ¬ third ∨ ¬ first ∧ ¬ second ∧ third

theorem isImported_of_crosses {source target : Entry} (crosses : catalog.Crosses source target) :
    catalog.IsImported source.module target.record.name :=
  ⟨target, get?_of_mem crosses.target_mem, crosses.apart,
    mem_importsFor_iff.2 ⟨source, target, crosses, rfl, rfl⟩,
    fun _ _ generates => moduleFile_mem_paths generates crosses.target_mem⟩

theorem exactlyOne_of_mentions {entry : Entry} (member : entry ∈ catalog.entries) {field : Field}
    (fieldMember : field ∈ entry.record.fields) {name : String}
    (mentions : field.type.Mentions name) :
    ExactlyOne (catalog.IsLocal entry.module name) (catalog.IsImported entry.module name)
      (catalog.IsMissing entry.record field name) := by
  cases found : catalog.get? name with
  | none =>
    refine .inr (.inr ⟨?_, ?_, found, ?_⟩)
    · rintro ⟨target, there, -⟩
      simp [found] at there
    · rintro ⟨target, there, -⟩
      simp [found] at there
    · exact (missing_mem_checkAll_iff.2
        ⟨entry, member, field, fieldMember, name, mentions, found, rfl⟩).1
  | some target =>
    have notMissing : ¬ catalog.IsMissing entry.record field name := by
      rintro ⟨absent, -⟩
      simp [found] at absent
    obtain ⟨targetMember, rfl⟩ := get?_eq_some_iff.1 found
    by_cases apart : target.module = entry.module
    · refine .inl ⟨⟨target, found, apart⟩, ?_, notMissing⟩
      rintro ⟨other, there, elsewhere, -⟩
      obtain rfl : target = other := Option.some.inj (found.symm.trans there)
      exact elsewhere apart
    · have refers := Record.mem_references_iff.2 ⟨field, fieldMember, mentions⟩
      refine .inr (.inl ⟨?_, isImported_of_crosses ⟨member, targetMember, refers, apart⟩,
        notMissing⟩)
      rintro ⟨other, there, home⟩
      obtain rfl : target = other := Option.some.inj (found.symm.trans there)
      exact apart home

/-- **Every record that is mentioned is local, imported or warned about**, and only one of
these; a record that is there is never warned about. Imports and warnings come from
mentions only. The imports of a module are strictly increasing and leave out the module
itself. -/
theorem references_resolved (catalog : Catalog) :
    (∀ entry ∈ catalog.entries, ∀ field ∈ entry.record.fields, ∀ name,
      field.type.Mentions name →
        ExactlyOne (catalog.IsLocal entry.module name) (catalog.IsImported entry.module name)
          (catalog.IsMissing entry.record field name) ∧
        (Lint.missing entry.record field name ∈ Lint.checkAll Lint.standard catalog.records →
          catalog.get? name = none)) ∧
    (∀ module, ∀ uri ∈ catalog.importsFor module,
      ∃ entry ∈ catalog.entries, entry.module = module ∧ ∃ field ∈ entry.record.fields, ∃ name,
        field.type.Mentions name ∧ ∃ target, catalog.get? name = some target ∧
          target.module ≠ module ∧ uri = "./" ++ moduleFile target.module) ∧
    (∀ warning ∈ Lint.checkAll Lint.standard catalog.records,
      warning.lint = "unknown-reference" →
      ∃ entry ∈ catalog.entries, ∃ field ∈ entry.record.fields, ∃ name,
        field.type.Mentions name ∧ catalog.get? name = none ∧
          warning = Lint.missing entry.record field name) ∧
    ∀ module, (catalog.importsFor module).Pairwise (· < ·) ∧
      "./" ++ moduleFile module ∉ catalog.importsFor module := by
  refine ⟨fun entry member field fieldMember name mentions => ⟨?_, ?_⟩, ?_, ?_, ?_⟩
  · exact exactlyOne_of_mentions member fieldMember mentions
  · intro warned
    obtain ⟨_, _, _, _, other, -, absent, same⟩ := missing_mem_checkAll_iff.1 ⟨warned, rfl⟩
    rw [(Lint.eq_of_missing_eq same).2]
    exact absent
  · intro module uri imported
    obtain ⟨source, target, crosses, rfl, rfl⟩ := mem_importsFor_iff.1 imported
    obtain ⟨field, fieldMember, mentions⟩ := Record.mem_references_iff.1 crosses.refers
    exact ⟨source, crosses.source_mem, rfl, field, fieldMember, _, mentions, target,
      get?_of_mem crosses.target_mem, crosses.apart, rfl⟩
  · intro warning found named
    exact missing_mem_checkAll_iff.1 ⟨found, named⟩
  · intro module
    exact ⟨catalog.pairwise_importsFor module, catalog.own_not_mem_importsFor module⟩

/-- `List<Board> boards` -/
def standBoards : Field :=
  ⟨"boards", .list (.scalar "Board" false) false, Eq.refl true⟩

/-- `Map<String, Set<Person?>> visitors` -/
def standVisitors : Field :=
  ⟨"visitors", .map (.scalar "String" false) (.generic "Set" [.scalar "Person" true] false) false,
    by decide⟩

def stand : Record :=
  ⟨"Stand", [standBoards, standVisitors], by decide, by decide, by decide⟩

def fair : Catalog :=
  ⟨[⟨"stands", "stands.json", stand⟩, ⟨"notes", "notes.toml", board⟩], by decide⟩

theorem references_resolved_fair :
    standBoards.type.Mentions "Board" ∧ fair.IsImported "stands" "Board" ∧
      standVisitors.type.Mentions "Person" ∧ fair.IsMissing stand standVisitors "Person" := by
  have boards : standBoards.type.Mentions "Board" :=
    .within (List.mem_singleton_self _) (.scalar (Builtin.ofName?_eq_none_iff.1 rfl))
  have visitors : standVisitors.type.Mentions "Person" :=
    TypeExpr.mem_recordNames_iff.1 (by decide)
  have member : ⟨"stands", "stands.json", stand⟩ ∈ fair.entries := by simp [fair]
  obtain ⟨resolved, -⟩ := references_resolved fair
  refine ⟨boards, ?_, visitors, ?_⟩
  · rcases (resolved _ member standBoards (by simp [stand]) "Board" boards).1 with
      ⟨⟨target, found, home⟩, -⟩ | ⟨-, imported, -⟩ | ⟨-, -, absent, -⟩
    · obtain rfl : ⟨"notes", "notes.toml", board⟩ = target := Option.some.inj found
      exact absurd home (by decide)
    · exact imported
    · cases absent
  · rcases (resolved _ member standVisitors (by simp [stand]) "Person" visitors).1 with
      ⟨⟨target, found, -⟩, -⟩ | ⟨-, ⟨target, found, -⟩, -⟩ | ⟨-, -, missing⟩
    · cases found
    · cases found
    · exact missing

end Catalog

end Recordsmith
