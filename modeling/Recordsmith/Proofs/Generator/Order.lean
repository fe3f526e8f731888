/-
# Recordsmith.Proofs.Generator.Order — files do not depend on the order of the input

The order of schema files decides the order of the entries of their catalog. Here
two catalogs with the same entries in different orders are compared. Names are
looked up alike, since no two entries have one name; the records of a module and
its imports are sorted, so they are the same lists; hence each module has the same
file. Only the order of the files differs, and a run stops for both catalogs or
for neither.

* `Catalog.fileOf_eq_of_perm` compares the file of one module;
* `Catalog.modules_of_perm` compares whole runs;
* `Catalog.modulesOfFiles_perm` starts from the files.
-/
import Mathlib.Data.List.Nodup
import Mathlib.Data.List.Perm.Basic
import Mathlib.Data.Option.Defs
import Recordsmith.Proofs.Catalog.Contents
import Recordsmith.Proofs.Generator.Runs

namespace Recordsmith

set_option autoImplicit false

/-! ## Lists in another order -/

theorem distinct_perm {α : Type} [DecidableEq α] {names others : List α}
    (order : names.Perm others) : (distinct names).Perm (distinct others) := by
  rw [List.perm_ext_iff_of_nodup (nodup_distinct names) (nodup_distinct others)]
  intro name
  rw [mem_distinct, mem_distinct, order.mem_iff]

/-- Sorting by a text puts the texts in order. -/
theorem pairwise_le_mergeSort {α : Type} (key : α → String) (items : List α) :
    (items.mergeSort fun a b => key a ≤ key b).Pairwise fun a b => key a ≤ key b := by
  have trans : ∀ a b c : α, decide (key a ≤ key b) = true → decide (key b ≤ key c) = true →
      decide (key a ≤ key c) = true := by
    simp only [decide_eq_true_eq]
    exact fun a b c => String.le_trans
  have total : ∀ a b : α, (decide (key a ≤ key b) || decide (key b ≤ key a)) = true := by
    simp only [Bool.or_eq_true, decide_eq_true_eq]
    exact fun a b => String.le_total _ _
  simpa only [decide_eq_true_eq] using List.pairwise_mergeSort trans total items

theorem nodup_map_mergeSort {α : Type} {key : α → String} {items : List α}
    (unrepeated : (items.map key).Nodup) :
    ((items.mergeSort fun a b => key a ≤ key b).map key).Nodup :=
  ((List.mergeSort_perm _ _).map key).nodup_iff.2 unrepeated

/-- Texts that differ are strictly increasing when they are sorted. -/
theorem pairwise_lt_mergeSort {α : Type} (key : α → String) {items : List α}
    (unrepeated : (items.map key).Nodup) :
    (items.mergeSort fun a b => key a ≤ key b).Pairwise fun a b => key a < key b := by
  have apart : (items.mergeSort fun a b => key a ≤ key b).Pairwise fun a b => key a ≠ key b := by
    rw [← List.pairwise_map]
    exact nodup_map_mergeSort unrepeated
  refine ((pairwise_le_mergeSort key items).and apart).imp fun {a b} ordered => ?_
  exact String.not_le.1 fun ge => ordered.2 (String.le_antisymm ordered.1 ge)

/-- There is one way to sort elements that a text tells apart. -/
theorem eq_of_perm_of_sorted {α : Type} (key : α → String) {items others : List α}
    (order : items.Perm others) (unrepeated : (items.map key).Nodup)
    (sorted : items.Pairwise fun a b => key a ≤ key b)
    (alsoSorted : others.Pairwise fun a b => key a ≤ key b) : items = others := by
  refine order.eq_of_pairwise ?_ sorted alsoSorted
  intro a b mine theirs le ge
  exact List.inj_on_of_nodup_map unrepeated mine (order.mem_iff.2 theirs)
    (String.le_antisymm le ge)

/-- Sorting by a text undoes every reordering if the text tells the elements apart. -/
theorem mergeSort_eq_of_perm {α : Type} (key : α → String) {items others : List α}
    (order : items.Perm others) (unrepeated : (items.map key).Nodup) :
    items.mergeSort (fun a b => key a ≤ key b) = others.mergeSort fun a b => key a ≤ key b :=
  eq_of_perm_of_sorted key
    ((List.mergeSort_perm _ _).trans (order.trans (List.mergeSort_perm _ _).symm))
    (nodup_map_mergeSort unrepeated) (pairwise_le_mergeSort key items)
    (pairwise_le_mergeSort key others)

/-- Then it does not matter either whether elements are left out before or behind. -/
theorem filter_mergeSort {α : Type} (key : α → String) (wanted : α → Bool) {items : List α}
    (unrepeated : (items.map key).Nodup) :
    (items.mergeSort fun a b => key a ≤ key b).filter wanted =
      (items.filter wanted).mergeSort fun a b => key a ≤ key b :=
  eq_of_perm_of_sorted key
    (((List.mergeSort_perm _ _).filter _).trans (List.mergeSort_perm _ _).symm)
    ((nodup_map_mergeSort unrepeated).sublist (List.filter_sublist.map _))
    ((pairwise_le_mergeSort key items).sublist List.filter_sublist) (pairwise_le_mergeSort key _)

namespace Catalog

/-! ## Catalogs in another order -/

variable {catalog other : Catalog}

theorem get?_eq_of_perm (order : catalog.entries.Perm other.entries) (name : String) :
    catalog.get? name = other.get? name := by
  ext entry
  rw [get?_eq_some_iff, get?_eq_some_iff, order.mem_iff]

theorem records_perm (order : catalog.entries.Perm other.entries) :
    catalog.records.Perm other.records :=
  order.map _

theorem moduleNames_perm (order : catalog.entries.Perm other.entries) :
    catalog.moduleNames.Perm other.moduleNames :=
  distinct_perm (order.map _)

theorem nodup_names_entriesOf (catalog : Catalog) (module : String) :
    (((catalog.entriesOf module).map (·.record)).map Record.name).Nodup := by
  rw [List.map_map]
  exact catalog.names_nodup.sublist (List.filter_sublist.map _)

theorem recordsOf_eq_of_perm (order : catalog.entries.Perm other.entries) (module : String) :
    catalog.recordsOf module = other.recordsOf module :=
  mergeSort_eq_of_perm Record.name ((order.filter _).map _) (catalog.nodup_names_entriesOf module)

theorem neighbours_perm (order : catalog.entries.Perm other.entries) (module : String) :
    (catalog.neighbours module).Perm (other.neighbours module) := by
  rw [neighbours, neighbours]
  simp only [get?_eq_of_perm order]
  exact ((order.filter _).flatMap_right _).filterMap _

theorem importsFor_eq_of_perm (order : catalog.entries.Perm other.entries) (module : String) :
    catalog.importsFor module = other.importsFor module := by
  apply mergeSort_eq_of_perm id (distinct_perm ((neighbours_perm order module).map _))
  rw [List.map_id]
  exact nodup_distinct _

/-- The file of a module does not depend on the order of the entries. -/
theorem fileOf_eq_of_perm (order : catalog.entries.Perm other.entries) (settings : Settings)
    (module : String) : catalog.fileOf settings module = other.fileOf settings module := by
  rw [fileOf, fileOf, recordsOf_eq_of_perm order, importsFor_eq_of_perm order]

theorem moduleRecords_perm_of_perm (order : catalog.entries.Perm other.entries) :
    catalog.moduleRecords.Perm other.moduleRecords :=
  catalog.moduleRecords_perm.trans ((records_perm order).trans other.moduleRecords_perm.symm)

/-! ## Runs -/

/-- The same files and records, in any order. -/
def SameFiles (run another : Generated (List GeneratedFile)) : Prop :=
  run.output.Perm another.output ∧ run.records.Perm another.records

theorem modules_of_perm (order : catalog.entries.Perm other.entries) (settings : Settings) :
    Option.Rel SameFiles (catalog.modules settings).toOption (other.modules settings).toOption := by
  have regrouped := moduleRecords_perm_of_perm order
  have alike := settings.stop?_eq_none_of_perm regrouped
  rw [modules_eq, modules_eq]
  cases mine : settings.stop? catalog.moduleRecords with
  | none =>
    rw [alike.1 mine]
    refine .some ⟨?_, ?_⟩
    · have files : catalog.fileOf settings = other.fileOf settings :=
        funext (fileOf_eq_of_perm order settings)
      rw [files]
      exact ((moduleNames_perm order).map _).append_right _
    · exact ((regrouped.filter _).map _).map _
  | some cause =>
    cases theirs : settings.stop? other.moduleRecords with
    | none =>
      rw [alike.2 theirs] at mine
      cases mine
    | some otherCause => exact .none

/-- The modules of the wanted records of some files. There are none if a name repeats
or a run stops. -/
def modulesOfFiles (filter : Filter) (settings : Settings) (files : List SchemaFile) :
    Option (Generated (List GeneratedFile)) :=
  (addFiles filter .empty files).toOption.bind fun catalog => (catalog.modules settings).toOption

theorem modulesOfFiles_of_addFiles {filter : Filter} {files : List SchemaFile}
    (added : addFiles filter .empty files = .ok catalog) (settings : Settings) :
    modulesOfFiles filter settings files = (catalog.modules settings).toOption := by
  rw [modulesOfFiles, added]
  rfl

theorem modulesOfFiles_eq_none {filter : Filter} {files : List SchemaFile}
    (refused : ¬ ∃ catalog, addFiles filter .empty files = .ok catalog) (settings : Settings) :
    modulesOfFiles filter settings files = none := by
  rw [modulesOfFiles]
  cases added : addFiles filter .empty files with
  | ok catalog => exact absurd ⟨catalog, added⟩ refused
  | error cause => rfl

/-- **The order of the input does not matter.** Files in another order, or the entries of a
catalog in another order, give modules or fail alike, and the modules have the same
paths and contents. -/
theorem modulesOfFiles_perm (settings : Settings) :
    (∀ (filter : Filter) (files others : List SchemaFile), files.Perm others →
      Option.Rel SameFiles (modulesOfFiles filter settings files)
        (modulesOfFiles filter settings others)) ∧
    ∀ catalog other : Catalog, catalog.entries.Perm other.entries →
      Option.Rel SameFiles (catalog.modules settings).toOption
        (other.modules settings).toOption := by
  refine ⟨fun filter files others order => ?_, fun catalog other order =>
    modules_of_perm order settings⟩
  have entries := order.flatMap_right fun file => file.entries filter
  have alike : (∃ catalog, addFiles filter .empty files = .ok catalog) ↔
      ∃ other, addFiles filter .empty others = .ok other := by
    rw [exists_addFiles_iff, exists_addFiles_iff, (entries.map _).nodup_iff]
  by_cases added : ∃ catalog, addFiles filter .empty files = .ok catalog
  · obtain ⟨other, otherAdded⟩ := alike.1 added
    obtain ⟨catalog, added⟩ := added
    rw [modulesOfFiles_of_addFiles added, modulesOfFiles_of_addFiles otherAdded]
    apply modules_of_perm
    rwa [addFiles_eq_ok_iff.1 added, addFiles_eq_ok_iff.1 otherAdded]
  · rw [modulesOfFiles_eq_none added, modulesOfFiles_eq_none (alike.not.1 added)]
    exact .none

/-- `Note? next` -/
def note : Record :=
  ⟨"Note", [⟨"next", .scalar "Note" true, by decide⟩], by decide, by decide, by decide⟩

/-- `List<Note> notes` -/
def board : Record :=
  ⟨"Board", [⟨"notes", .list (.scalar "Note" false) false, by decide⟩],
    by decide, by decide, by decide⟩

/-- `Map<String, Board> boards` -/
def wall : Record :=
  ⟨"Wall", [⟨"boards", .map (.scalar "String" false) (.scalar "Board" false) false, by decide⟩],
    by decide, by decide, by decide⟩

/-- Two files that share a module, and a third. -/
def wallFiles : List SchemaFile :=
  [⟨"old/walls.json", [wall]⟩, ⟨"notes.toml", [board]⟩, ⟨"walls.toml", [note]⟩]

def walls : Catalog :=
  ⟨[⟨"walls", "old/walls.json", wall⟩, ⟨"notes", "notes.toml", board⟩,
    ⟨"walls", "walls.toml", note⟩], by decide⟩

theorem modulesOfFiles_perm_walls :
    ∃ run another, modulesOfFiles {} {} wallFiles = some run ∧
      modulesOfFiles {} {} wallFiles.reverse = some another ∧ SameFiles run another := by
  have same := (modulesOfFiles_perm {}).1 {} _ _ (List.reverse_perm wallFiles).symm
  have added : addFiles {} .empty wallFiles = .ok walls := addFiles_eq_ok_iff.2 rfl
  have generated := modulesOfFiles_of_addFiles added {}
  rw [@modules_eq_ok walls {} rfl] at generated
  cases reversed : modulesOfFiles {} {} wallFiles.reverse with
  | none =>
    rw [generated, reversed] at same
    cases same
  | some another =>
    rw [generated, reversed] at same
    cases same with
    | some same => exact ⟨_, another, generated, rfl, same⟩

end Catalog

end Recordsmith
