/-
# Recordsmith.Proofs.Generator.Skipping — what records left out leave behind

A run that keeps going leaves out the records without a class. Here its module
files are compared with those of the catalog from which these records have been
removed. The classes are the same (`recordsOf_keeping`), but the imports are not:
those of a module are made from all of its records, also those left out, and from
all records they refer to. So a record that is left out can leave an import behind
(`modules_badges`).

Removing records takes crossings away (`crosses_keeping_iff`) and so removes
imports and adds none (`importsFor_keeping_sublist`). The main statement
`modules_withoutFailing` says when none is removed: if each module that is
imported is also reached from one generated record to another.
-/
import Mathlib.Algebra.GroupWithZero.Nat
import Mathlib.Algebra.Order.BigOperators.Group.List
import Mathlib.Data.List.Sort
import Mathlib.Data.String.Basic
import Recordsmith.Proofs.Generator.References
import Recordsmith.Proofs.SourceFile

namespace Recordsmith

set_option autoImplicit false

/-! ## Headings -/

namespace SourceFile

/-- How many characters the lines of some imports have. -/
def importWidth (imports : List String) : Nat :=
  (imports.map fun uri => (importLine uri ++ "\n").length).sum

theorem length_block_heading (imports : List String) :
    (block (heading imports)).length = (block (heading [])).length + importWidth imports := by
  simp only [block, heading, importWidth, List.map_append, List.map_cons, List.map_map,
    Function.comp_def, List.append_nil, String.join_cons, String.join_append, String.length_append,
    String.length_join]
  omega

/-- Leaving imports out makes the lines shorter. -/
theorem eq_of_importWidth_eq {imports fewer : List String} (sublist : fewer.Sublist imports)
    (same : importWidth fewer = importWidth imports) : fewer = imports := by
  induction sublist with
  | slnil => rfl
  | @cons fewer rest uri sublist ih =>
    have atMost : importWidth fewer ≤ importWidth rest :=
      (sublist.map _).sum_le_sum fun _ _ => Nat.zero_le _
    have longer : importWidth (uri :: rest) = (importLine uri ++ "\n").length + importWidth rest :=
      List.sum_cons
    rw [String.length_append] at longer
    have newline : "\n".length = 1 := by decide
    omega
  | cons_cons uri sublist ih =>
    rw [importWidth, importWidth, List.map_cons, List.map_cons, List.sum_cons, List.sum_cons,
      Nat.add_left_cancel_iff] at same
    rw [ih same]

theorem heading_eq_iff {imports fewer : List String} (sublist : fewer.Sublist imports) :
    block (heading imports) = block (heading fewer) ↔ imports = fewer := by
  constructor
  · intro same
    have lengths := congrArg String.length same
    rw [length_block_heading, length_block_heading fewer, Nat.add_left_cancel_iff] at lengths
    exact (eq_of_importWidth_eq sublist lengths.symm).symm
  · rintro rfl
    rfl

end SourceFile

/-- The content of the first file with this path. -/
def Generated.contentOf? (files : Generated (List GeneratedFile)) (path : String) :
    Option String :=
  (files.output.find? (·.path == path)).map (·.content)

namespace Catalog

variable {catalog : Catalog} {settings : Settings}

/-- What stands behind the heading of the file of a module. -/
def classText (catalog : Catalog) (settings : Settings) (module : String) : String :=
  String.join (((settings.generated (catalog.recordsOf module)).map Prod.snd).map
    SourceFile.block)

theorem contentOf?_eq {files : Generated (List GeneratedFile)}
    (generates : catalog.modules settings = .ok files) {entry : Entry}
    (member : entry ∈ catalog.entries) :
    files.contentOf? (moduleFile entry.module) =
      some (SourceFile.block (SourceFile.heading (catalog.importsFor entry.module)) ++
        catalog.classText settings entry.module) := by
  have found : (catalog.moduleNames.find? fun name =>
      moduleFile name == moduleFile entry.module) = some entry.module := by
    cases found : catalog.moduleNames.find? fun name =>
        moduleFile name == moduleFile entry.module with
    | none =>
      have listed := mem_moduleNames.2 ⟨entry, member, rfl⟩
      exact absurd (beq_self_eq_true _) (List.find?_eq_none.1 found _ listed)
    | some name =>
      have same := List.find?_some found
      rw [beq_iff_eq, moduleFile_inj] at same
      rw [same]
  have mapped : (catalog.moduleNames.map (catalog.fileOf settings)).find?
      (·.path == moduleFile entry.module) = some (catalog.fileOf settings entry.module) := by
    rw [List.find?_map]
    exact congrArg (Option.map (catalog.fileOf settings)) found
  rw [Generated.contentOf?, (eq_of_modules generates).1, List.find?_append, mapped,
    Option.some_or, Option.map_some, fileOf, SourceFile.render_eq_append]
  rfl

/-! ## Records left out -/

theorem mem_entries_keeping {wanted : Record → Bool} {entry : Entry} :
    entry ∈ (catalog.keeping wanted).entries ↔
      entry ∈ catalog.entries ∧ wanted entry.record = true := by
  rw [keeping, List.mem_filter]

theorem recordsOf_keeping (catalog : Catalog) (wanted : Record → Bool) (module : String) :
    (catalog.keeping wanted).recordsOf module = (catalog.recordsOf module).filter wanted := by
  rw [recordsOf, recordsOf, filter_mergeSort Record.name wanted
    (catalog.nodup_names_entriesOf module), entriesOf, entriesOf, keeping, List.filter_map]
  simp only [List.filter_filter, Bool.and_comm, Function.comp_def]

theorem crosses_keeping_iff {wanted : Record → Bool} {source target : Entry} :
    (catalog.keeping wanted).Crosses source target ↔
      catalog.Crosses source target ∧ wanted source.record = true ∧
        wanted target.record = true := by
  constructor
  · rintro ⟨sourceMember, targetMember, refers, apart⟩
    rw [mem_entries_keeping] at sourceMember targetMember
    exact ⟨⟨sourceMember.1, targetMember.1, refers, apart⟩, sourceMember.2, targetMember.2⟩
  · rintro ⟨crosses, sourceWanted, targetWanted⟩
    exact ⟨mem_entries_keeping.2 ⟨crosses.source_mem, sourceWanted⟩,
      mem_entries_keeping.2 ⟨crosses.target_mem, targetWanted⟩, crosses.refers, crosses.apart⟩

theorem Crosses.ne_of_neighbours_eq_nil {source target : Entry} {module : String}
    (crosses : catalog.Crosses source target) (alone : catalog.neighbours module = []) :
    source.module ≠ module := by
  intro home
  have reached := mem_neighbours_iff.2 ⟨source, target, crosses, home, rfl⟩
  rw [alone] at reached
  cases reached

theorem importsFor_keeping_subset (catalog : Catalog) (wanted : Record → Bool) (module : String) :
    (catalog.keeping wanted).importsFor module ⊆ catalog.importsFor module := by
  intro uri imported
  obtain ⟨source, target, crosses, home, rfl⟩ := mem_importsFor_iff.1 imported
  exact mem_importsFor_iff.2 ⟨source, target, (crosses_keeping_iff.1 crosses).1, home, rfl⟩

/-- Removing records removes imports and adds none. -/
theorem importsFor_keeping_sublist (catalog : Catalog) (wanted : Record → Bool)
    (module : String) :
    ((catalog.keeping wanted).importsFor module).Sublist (catalog.importsFor module) :=
  List.sublist_of_subperm_of_pairwise
    (List.subperm_of_subset ((catalog.keeping wanted).pairwise_importsFor module).nodup
      (catalog.importsFor_keeping_subset wanted module))
    ((catalog.keeping wanted).pairwise_importsFor module) (catalog.pairwise_importsFor module)

/-- No import is removed if each imported module is reached between wanted records too. -/
theorem importsFor_keeping_eq_iff {wanted : Record → Bool} {module : String} :
    catalog.importsFor module = (catalog.keeping wanted).importsFor module ↔
      ∀ source target, catalog.Crosses source target → source.module = module →
        ∃ another reached, catalog.Crosses another reached ∧ another.module = module ∧
          reached.module = target.module ∧
          wanted another.record = true ∧ wanted reached.record = true := by
  constructor
  · intro same source target crosses home
    have imported : "./" ++ moduleFile target.module ∈ catalog.importsFor module :=
      mem_importsFor_iff.2 ⟨source, target, crosses, home, rfl⟩
    rw [same, mem_importsFor_iff] at imported
    obtain ⟨another, reached, kept, alsoHome, samePath⟩ := imported
    rw [String.append_right_inj, moduleFile_inj] at samePath
    obtain ⟨crossesToo, anotherWanted, reachedWanted⟩ := crosses_keeping_iff.1 kept
    exact ⟨another, reached, crossesToo, alsoHome, samePath.symm, anotherWanted, reachedWanted⟩
  · intro matched
    refine List.Subset.antisymm_of_pairwise (catalog.pairwise_importsFor module)
      ((catalog.keeping wanted).pairwise_importsFor module) ?_
      (catalog.importsFor_keeping_subset wanted module)
    intro uri imported
    obtain ⟨source, target, crosses, home, rfl⟩ := mem_importsFor_iff.1 imported
    obtain ⟨another, reached, crossesToo, alsoHome, sameModule, bothWanted⟩ :=
      matched source target crosses home
    exact mem_importsFor_iff.2
      ⟨another, reached, crosses_keeping_iff.2 ⟨crossesToo, bothWanted⟩, alsoHome, by
        rw [sameModule]⟩

/-- The catalog without the records that have no class. -/
def withoutFailing (catalog : Catalog) (settings : Settings) : Catalog :=
  catalog.keeping fun record => (settings.classLines record).isOk

theorem withoutFailing_eq (catalog : Catalog) (settings : Settings) :
    catalog.withoutFailing settings = catalog.keeping Record.isSupported := by
  have same : (fun record => (settings.classLines record).isOk) = Record.isSupported := by
    funext record
    rw [Settings.classLines_eq, Record.isSupported]
    cases record.unsupported? with
    | none => rfl
    | some unsupported => rfl
  rw [withoutFailing, same]

theorem mem_records_iff {files : Generated (List GeneratedFile)}
    (generates : catalog.modules settings = .ok files) {entry : Entry}
    (member : entry ∈ catalog.entries) :
    entry.record.name ∈ files.records ↔ entry.record.isSupported = true := by
  rw [(eq_of_modules generates).2, mem_generated_iff catalog.moduleRecords_perm,
    get?_of_mem member]
  simp

/-- Records without a class do not show in the text of the classes. -/
theorem classText_keeping (catalog : Catalog) (settings : Settings) (module : String) :
    (catalog.keeping Record.isSupported).classText settings module =
      catalog.classText settings module := by
  rw [classText, classText, recordsOf_keeping, generated_filter]

section Removal

variable {files remaining : Generated (List GeneratedFile)}
  (generates : catalog.modules settings = .ok files)
  (remains : (catalog.keeping Record.isSupported).modules settings = .ok remaining)
  {entry : Entry} (member : entry ∈ catalog.entries) (supported : entry.record.isSupported = true)
include remains member supported

theorem contentOf?_remaining_eq :
    remaining.contentOf? (moduleFile entry.module) =
      some (SourceFile.block (SourceFile.heading
        ((catalog.keeping Record.isSupported).importsFor entry.module)) ++
          catalog.classText settings entry.module) := by
  rw [contentOf?_eq remains (mem_entries_keeping.2 ⟨member, supported⟩), classText_keeping]

include generates in
theorem contentOf?_eq_iff :
    files.contentOf? (moduleFile entry.module) = remaining.contentOf? (moduleFile entry.module) ↔
      catalog.importsFor entry.module =
        (catalog.keeping Record.isSupported).importsFor entry.module := by
  rw [contentOf?_eq generates member, contentOf?_remaining_eq remains member supported,
    Option.some.injEq, String.append_left_inj,
    SourceFile.heading_eq_iff (catalog.importsFor_keeping_sublist _ _)]

end Removal

/-- **Of a record left out only imports remain.** With and without the records that have
no class, a module with a generated record has the same classes behind its heading.
Removing them can only remove imports; the file stays the same exactly if every module
that the module refers to is also reached from one generated record to another. -/
theorem modules_withoutFailing (catalog : Catalog) (settings : Settings)
    (keepsGoing : settings.keepGoing = true) :
    ∃ files remaining, catalog.modules settings = .ok files ∧
      (catalog.withoutFailing settings).modules settings = .ok remaining ∧
      ∀ module,
        (∃ entry ∈ catalog.entries, entry.module = module ∧
          entry.record.name ∈ files.records) →
        (∃ classes,
          files.contentOf? (moduleFile module) = some
            (SourceFile.block (SourceFile.heading (catalog.importsFor module)) ++ classes) ∧
          remaining.contentOf? (moduleFile module) = some
            (SourceFile.block (SourceFile.heading
              ((catalog.withoutFailing settings).importsFor module)) ++ classes)) ∧
        ((catalog.withoutFailing settings).importsFor module).Sublist
          (catalog.importsFor module) ∧
        (files.contentOf? (moduleFile module) = remaining.contentOf? (moduleFile module) ↔
          ∀ source target, catalog.Crosses source target → source.module = module →
            ∃ another reached, catalog.Crosses another reached ∧ another.module = module ∧
              reached.module = target.module ∧ another.record.name ∈ files.records ∧
              reached.record.name ∈ files.records) := by
  have unstopped : ∀ records, settings.stop? records = none := fun records =>
    Settings.stop?_eq_none_iff.2 (.inl keepsGoing)
  have generates := modules_eq_ok (unstopped catalog.records)
  rw [withoutFailing_eq]
  have remains := modules_eq_ok (unstopped (catalog.keeping Record.isSupported).records)
  refine ⟨_, _, generates, remains, ?_⟩
  rintro _ ⟨entry, member, rfl, generated⟩
  have supported := (mem_records_iff generates member).1 generated
  refine ⟨⟨_, contentOf?_eq generates member,
    contentOf?_remaining_eq remains member supported⟩,
    catalog.importsFor_keeping_sublist _ _, ?_⟩
  rw [contentOf?_eq_iff generates remains member supported, importsFor_keeping_eq_iff]
  -- what is generated is what is supported, for the two ends of a crossing
  refine forall₂_congr fun source target => imp_congr_right fun _ => imp_congr_right fun _ =>
    exists₂_congr fun another reached => and_congr_right fun crosses => ?_
  rw [mem_records_iff generates crosses.source_mem, mem_records_iff generates crosses.target_mem]

/-- `Set<int> marks`, `Person owner`, a record without a class -/
def badge : Record :=
  ⟨"Badge", [⟨"marks", .generic "Set" [.scalar "int" false] false, Eq.refl true⟩,
    ⟨"owner", .scalar "Person" false, by decide⟩], by decide, by decide, by decide⟩

/-- `int count` -/
def tally : Record :=
  ⟨"Tally", [⟨"count", .scalar "int" false, by decide⟩], by decide, by decide, by decide⟩

/-- `int age` -/
def person : Record :=
  ⟨"Person", [⟨"age", .scalar "int" false, by decide⟩], by decide, by decide, by decide⟩

def badges : Catalog :=
  ⟨[⟨"badges", "badges.json", badge⟩, ⟨"badges", "badges.json", tally⟩,
    ⟨"people", "people.json", person⟩], by decide⟩

theorem modules_withoutFailing_badges :
    ∃ files remaining, badges.modules ⟨{}, .standard, true⟩ = .ok files ∧
      (badges.withoutFailing ⟨{}, .standard, true⟩).modules ⟨{}, .standard, true⟩ =
        .ok remaining ∧
      files.contentOf? "people.dart" = remaining.contentOf? "people.dart" := by
  obtain ⟨files, remaining, generates, remains, compared⟩ :=
    modules_withoutFailing badges ⟨{}, .standard, true⟩ rfl
  have member : ⟨"people", "people.json", person⟩ ∈ badges.entries := by simp [badges]
  have generated := (mem_records_iff generates member).2 (by decide)
  refine ⟨files, remaining, generates, remains,
    (compared "people" ⟨_, member, rfl, generated⟩).2.2.2 ?_⟩
  -- nothing leads out of the module
  intro source target crosses home
  exact absurd home (crosses.ne_of_neighbours_eq_nil (by decide))

/-- The record that is left out leaves an import behind. -/
theorem modules_badges :
    ∃ files remaining, badges.modules ⟨{}, .standard, true⟩ = .ok files ∧
      (badges.withoutFailing ⟨{}, .standard, true⟩).modules ⟨{}, .standard, true⟩ =
        .ok remaining ∧
      "Tally" ∈ files.records ∧
      files.contentOf? "badges.dart" ≠ remaining.contentOf? "badges.dart" := by
  have generates := @modules_eq_ok badges ⟨{}, .standard, true⟩ rfl
  have remains := @modules_eq_ok (badges.keeping Record.isSupported) ⟨{}, .standard, true⟩ rfl
  have member : ⟨"badges", "badges.json", tally⟩ ∈ badges.entries := by simp [badges]
  have supported : tally.isSupported = true := by decide
  refine ⟨_, _, generates, by rw [withoutFailing_eq, remains],
    (mem_records_iff generates member).2 supported, ?_⟩
  intro same
  have imports := (contentOf?_eq_iff generates remains member supported).1 same
  obtain ⟨another, reached, crosses, home, -, wanted⟩ := importsFor_keeping_eq_iff.1 imports
    ⟨"badges", "badges.json", badge⟩ ⟨"people", "people.json", person⟩
    ⟨by simp [badges], by simp [badges], by decide, by decide⟩ rfl
  -- only the record that is left out refers to another module
  have kept := crosses_keeping_iff.2 ⟨crosses, wanted⟩
  exact kept.ne_of_neighbours_eq_nil (by decide) home

end Catalog

end Recordsmith
