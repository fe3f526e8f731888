/-
# Recordsmith.Proofs.Generator.Regrouping — one file and many hold the same classes

A run writes all classes to one file, or deals them out to the files of their
modules. Both ways are made of the same *class blocks*: the one file has them in
the order of the catalog, the file of a module has those of its records, sorted
by name. `Regroups` says how the one is made from the other, and
`modules_regroup_singleFile` that it always is.

Modules are dealt with in the order in which they first appear in the catalog
(`firstAppearances_distinct`). A class block starts with the line that names its
record (`Class.lines_ofRecord`), so different records have different blocks
(`name_eq_of_block_eq`), and it makes sense to count in which files a class is.
-/
import Recordsmith.Proofs.Generator.Order
import Recordsmith.Proofs.SourceFile
import Recordsmith.Proofs.Text.Trim

namespace Recordsmith

set_option autoImplicit false

/-! ## First appearances -/

/-- A list has the same names as another one, each once, in the order in which the other
one has them first. -/
structure FirstAppearances (names listed : List String) : Prop where
  mem_iff : ∀ name, name ∈ listed ↔ name ∈ names
  ordered : listed.Pairwise fun earlier later => names.idxOf earlier < names.idxOf later

theorem firstAppearances_distinct (names : List String) :
    FirstAppearances names (distinct names) := by
  refine ⟨fun name => mem_distinct, ?_⟩
  induction names with
  | nil => exact .nil
  | cons first rest ih =>
    have behind : ∀ name, name ≠ first → (first :: rest).idxOf name = rest.idxOf name + 1 :=
      fun name other => List.idxOf_cons_ne rest other.symm
    rw [distinct, List.pairwise_cons]
    constructor
    · intro name member
      have other : name ≠ first := by simpa using (List.mem_filter.1 member).2
      rw [List.idxOf_cons_self, behind name other]
      exact Nat.succ_pos _
    · refine (ih.sublist List.filter_sublist).imp_of_mem fun {name another} mine theirs order => ?_
      rw [behind name (by simpa using (List.mem_filter.1 mine).2),
        behind another (by simpa using (List.mem_filter.1 theirs).2)]
      exact Nat.succ_lt_succ order

/-! ## The first line of a class -/

/-- The line that opens a class. -/
def Class.headline (name : String) : String :=
  "class " ++ name ++ " implements JsonBase \x7b"

theorem Class.lines_ofRecord (options : ClassOptions) (indent : Indent) (record : Record) :
    ∃ rest, Dart.Expr.lines indent (ofRecord options record) = headline record.name :: rest := by
  have named : record.name ≠ "" := by
    intro empty
    exact Text.ne_nil_of_isIdentifier record.name_valid (String.toList_eq_nil_iff.2 empty)
  obtain ⟨first, others, declared⟩ : ∃ first others, members options record = first :: others :=
    List.exists_cons_of_ne_nil (by simp [members, coreMembers])
  have unindented : indent.ofDepth 0 = "" := rfl
  have text : Layout.lineText true [.text "class", .text record.name, .text "implements",
      .text "JsonBase", .text "\x7b"] = headline record.name := by
    simp [Layout.lineText, named, headline, ← String.append_assoc]
  have filled : headline record.name ≠ "" := by
    simp [headline]
  -- The tokens are known up to the first indent, and so are the steps of the layout.
  simp [ofRecord, Dart.Expr.implementing, Dart.Expr.lines, Dart.Expr.tokens, Dart.Expr.braced,
    Dart.Expr.commaSeparated, Token.join, declared, Dart.Expr.tokensOfEach, Layout.format,
    Layout.placed, Layout.dropSuppressed, Layout.closeUp, Layout.splitLines, Token.startsLine,
    text, filled, Layout.writeLine, unindented]

theorem SourceFile.takeWhile_block {first : String} (rest : List String)
    (oneLine : '\n' ∉ first.toList) :
    (block (first :: rest)).toList.takeWhile (· != '\n') = first.toList := by
  have whole : ∀ c ∈ first.toList, (c != '\n') = true := by
    intro c member
    rw [bne_iff_ne]
    rintro rfl
    exact oneLine member
  rw [block, List.map_cons, String.join_cons, String.append_assoc, String.append_assoc,
    String.toList_append, List.takeWhile_append_of_pos whole]
  simp

/-- A class block tells the name of its record. -/
theorem Settings.name_eq_of_block_eq {settings : Settings} {record other : Record}
    (same : SourceFile.block (settings.linesOf record) =
      SourceFile.block (settings.linesOf other)) : record.name = other.name := by
  have opening : ∀ named : Record,
      (SourceFile.block (settings.linesOf named)).toList.takeWhile (· != '\n') =
        (Class.headline named.name).toList := by
    intro named
    obtain ⟨rest, lines⟩ := Class.lines_ofRecord settings.options settings.indent named
    rw [linesOf, lines]
    apply SourceFile.takeWhile_block
    have noBreak := Text.not_mem_of_isIdentifier named.name_valid (c := '\n') (by decide)
    simp [Class.headline, noBreak]
  have headlines : Class.headline record.name = Class.headline other.name := by
    rw [← String.toList_inj, ← opening record, same, opening other]
  rw [Class.headline, Class.headline, String.append_left_inj, String.append_right_inj] at headlines
  exact headlines

namespace Catalog

/-! ## Class blocks -/

variable {catalog : Catalog} {settings : Settings}

/-- The class block of the record with this name. -/
def blockOf (catalog : Catalog) (settings : Settings) (name : String) : String :=
  (catalog.get? name).elim "" fun entry => SourceFile.block (settings.linesOf entry.record)

theorem blockOf_name {entry : Entry} (member : entry ∈ catalog.entries) :
    catalog.blockOf settings entry.record.name =
      SourceFile.block (settings.linesOf entry.record) := by
  rw [blockOf, get?_of_mem member]
  rfl

theorem render_generated {records : List Record}
    (among : ∀ record ∈ records, record ∈ catalog.records) (imports : List String) :
    SourceFile.render ⟨imports, (settings.generated records).map Prod.snd⟩ =
      SourceFile.block (SourceFile.heading imports) ++
        String.join (((settings.generated records).map Prod.fst).map
          (catalog.blockOf settings)) := by
  have blocks : ((settings.generated records).map Prod.snd).map SourceFile.block =
      ((settings.generated records).map Prod.fst).map (catalog.blockOf settings) := by
    simp only [Settings.generated, List.map_map]
    apply List.map_congr_left
    intro record kept
    obtain ⟨entry, member, rfl⟩ := List.mem_map.1 (among record (List.mem_filter.1 kept).1)
    simp only [Function.comp_apply, blockOf_name member]
  rw [SourceFile.render_eq_append, blocks]

theorem exists_blockOf_eq {name : String}
    (generated : name ∈ (settings.generated catalog.records).map Prod.fst) :
    ∃ entry lines, catalog.get? name = some entry ∧ settings.classLines entry.record = .ok lines ∧
      catalog.blockOf settings name = SourceFile.block lines := by
  obtain ⟨entry, found, supported⟩ := (mem_generated_iff (.refl _)).1 generated
  refine ⟨entry, settings.linesOf entry.record, found, settings.classLines_eq_ok supported, ?_⟩
  rw [blockOf, found]
  rfl

/-- Different records have different blocks. -/
theorem eq_of_blockOf_eq {name other : String}
    (mine : name ∈ (settings.generated catalog.records).map Prod.fst)
    (theirs : other ∈ (settings.generated catalog.records).map Prod.fst)
    (same : catalog.blockOf settings name = catalog.blockOf settings other) : name = other := by
  obtain ⟨entry, found, -⟩ := (mem_generated_iff (.refl _)).1 mine
  obtain ⟨another, otherFound, -⟩ := (mem_generated_iff (.refl _)).1 theirs
  obtain ⟨member, rfl⟩ := get?_eq_some_iff.1 found
  obtain ⟨otherMember, rfl⟩ := get?_eq_some_iff.1 otherFound
  rw [blockOf_name member, blockOf_name otherMember] at same
  exact Settings.name_eq_of_block_eq same

/-! ## Shares -/

/-- The names of the generated records of a module. -/
def share (catalog : Catalog) (settings : Settings) (module : String) : List String :=
  (settings.generated (catalog.recordsOf module)).map Prod.fst

theorem pairwise_share (catalog : Catalog) (settings : Settings) (module : String) :
    (catalog.share settings module).Pairwise (· < ·) := by
  have sorted : (catalog.recordsOf module).Pairwise fun a b => a.name < b.name :=
    pairwise_lt_mergeSort Record.name (catalog.nodup_names_entriesOf module)
  rw [share, Settings.generated, List.map_map, List.pairwise_map]
  exact sorted.sublist List.filter_sublist

theorem mem_share_iff {module name : String} :
    name ∈ catalog.share settings module ↔
      name ∈ (settings.generated catalog.records).map Prod.fst ∧
        (catalog.get? name).map (·.module) = some module := by
  rw [share, Settings.mem_map_fst_generated, mem_generated_iff (.refl _)]
  simp only [mem_recordsOf, Option.map_eq_some_iff]
  constructor
  · rintro ⟨_, ⟨entry, member, rfl, rfl⟩, supported, rfl⟩
    have found := get?_of_mem member
    exact ⟨⟨entry, found, supported⟩, entry, found, rfl⟩
  · rintro ⟨⟨entry, found, supported⟩, another, alsoFound, rfl⟩
    obtain rfl : entry = another := Option.some.inj (found.symm.trans alsoFound)
    obtain ⟨member, rfl⟩ := get?_eq_some_iff.1 found
    exact ⟨entry.record, ⟨entry, member, rfl, rfl⟩, supported, rfl⟩

/-- A class is once in the share of its own module, and in no other share. -/
theorem count_blockOf {name : String}
    (generated : name ∈ (settings.generated catalog.records).map Prod.fst) (module : String) :
    ((catalog.share settings module).map (catalog.blockOf settings)).count
        (catalog.blockOf settings name) =
      if (catalog.get? name).map (·.module) = some module then 1 else 0 := by
  have apart : ∀ mine ∈ catalog.share settings module, ∀ theirs ∈ catalog.share settings module,
      catalog.blockOf settings mine = catalog.blockOf settings theirs → mine = theirs :=
    fun mine inShare theirs alsoInShare =>
      eq_of_blockOf_eq (mem_share_iff.1 inShare).1 (mem_share_iff.1 alsoInShare).1
  have unrepeated : (catalog.share settings module).Nodup :=
    (pairwise_share catalog settings module).imp String.ne_of_lt
  rw [((List.nodup_map_iff_inj_on unrepeated).2 apart).count]
  congr 1
  rw [eq_iff_iff, List.mem_map]
  constructor
  · rintro ⟨other, inShare, same⟩
    obtain ⟨otherGenerated, home⟩ := mem_share_iff.1 inShare
    rwa [← eq_of_blockOf_eq otherGenerated generated same]
  · intro home
    exact ⟨name, mem_share_iff.2 ⟨generated, home⟩, rfl⟩

/-! ## Runs -/

/-- The files of modules have the classes of the single file: `blockOf` gives the class
block of a record, and the file of each of the `modules` has those of its `share`. -/
structure Regroups (catalog : Catalog) (settings : Settings) (single : Generated String)
    (files : Generated (List GeneratedFile)) (blockOf : String → String) (modules : List String)
    (share : String → List String) : Prop where
  blockOf_eq : ∀ name ∈ single.records, ∃ entry lines, catalog.get? name = some entry ∧
    settings.classLines entry.record = .ok lines ∧ blockOf name = SourceFile.block lines
  single_eq : single.output =
    SourceFile.block (SourceFile.heading []) ++ String.join (single.records.map blockOf)
  records_perm : files.records.Perm single.records
  modules_order : FirstAppearances (catalog.entries.map (·.module)) modules
  output_eq : files.output =
    (modules.map fun module => ⟨module ++ ".dart",
      SourceFile.block (SourceFile.heading (catalog.importsFor module)) ++
        String.join ((share module).map blockOf)⟩) ++ [SourceFile.support]
  share_sorted : ∀ module, (share module).Pairwise (· < ·)
  mem_share_iff : ∀ module name, name ∈ share module ↔
    name ∈ single.records ∧ (catalog.get? name).map (·.module) = some module
  once : ∀ name ∈ single.records, ∀ module,
    ((share module).map blockOf).count (blockOf name) =
      if (catalog.get? name).map (·.module) = some module then 1 else 0

/-- **One file and many hold the same classes.** A catalog gives a single file if it gives
modules. Both then have the same records, and the file of each module is its heading with
the class blocks of the single file that belong to the module, sorted by name. Each
class is in one file of a module. Modules come in the order of their first appearance,
and the support file is last. -/
theorem modules_regroup_singleFile (catalog : Catalog) (settings : Settings) :
    ((∃ single, catalog.singleFile settings = .ok single) ↔
      ∃ files, catalog.modules settings = .ok files) ∧
    ∀ single files, catalog.singleFile settings = .ok single →
      catalog.modules settings = .ok files →
      ∃ blockOf modules share, Regroups catalog settings single files blockOf modules share := by
  constructor
  · simp only [singleFile_eq, modules_eq, Settings.elim_eq_ok_iff, exists_and_left, exists_eq',
      and_true]
    exact (settings.stop?_eq_none_of_perm catalog.moduleRecords_perm).symm
  intro single files one many
  obtain ⟨singleOutput, singleRecords⟩ := eq_of_singleFile one
  obtain ⟨output, records⟩ := eq_of_modules many
  refine ⟨catalog.blockOf settings, catalog.moduleNames, catalog.share settings, ?_⟩
  constructor
  case blockOf_eq =>
    rw [singleRecords]
    exact fun name => exists_blockOf_eq
  case single_eq =>
    rw [singleOutput, singleRecords]
    exact render_generated (fun _ member => member) []
  case records_perm =>
    rw [singleRecords, records]
    exact ((catalog.moduleRecords_perm.filter _).map _).map _
  case modules_order => exact firstAppearances_distinct _
  case output_eq =>
    have contents : ∀ module, catalog.fileOf settings module = ⟨module ++ ".dart",
        SourceFile.block (SourceFile.heading (catalog.importsFor module)) ++
          String.join ((catalog.share settings module).map (catalog.blockOf settings))⟩ := by
      intro module
      rw [fileOf, share, render_generated]
      · rfl
      · intro record member
        obtain ⟨entry, among, -, rfl⟩ := mem_recordsOf.1 member
        exact List.mem_map_of_mem among
    rw [output, funext contents]
  case share_sorted => exact pairwise_share catalog settings
  case mem_share_iff =>
    rw [singleRecords]
    exact fun module name => mem_share_iff
  case once =>
    rw [singleRecords]
    exact fun name => count_blockOf

/-- `Set<int> sizes`, a record without a class -/
def poster : Record :=
  ⟨"Poster", [⟨"sizes", .generic "Set" [.scalar "int" false] false, by decide⟩],
    by decide, by decide, by decide⟩

/-- Two files make up the module `walls`, and one stands between them. -/
def wallsAndPoster : Catalog :=
  ⟨[⟨"walls", "old/walls.json", wall⟩, ⟨"walls", "old/walls.json", poster⟩,
    ⟨"notes", "notes.toml", board⟩, ⟨"walls", "walls.toml", note⟩], by decide⟩

theorem modules_regroup_singleFile_posters :
    ∃ single files blockOf modules share,
      wallsAndPoster.singleFile ⟨{}, .tab, true⟩ = .ok single ∧
      wallsAndPoster.modules ⟨{}, .tab, true⟩ = .ok files ∧
      Regroups wallsAndPoster ⟨{}, .tab, true⟩ single files blockOf modules share ∧
      single.records = ["Wall", "Board", "Note"] ∧
      "Note" ∈ share "walls" ∧ "Wall" ∈ share "walls" ∧ "Board" ∉ share "walls" := by
  obtain ⟨alike, regrouped⟩ := modules_regroup_singleFile wallsAndPoster ⟨{}, .tab, true⟩
  have one := wallsAndPoster.singleFile_eq ⟨{}, .tab, true⟩
  obtain ⟨files, many⟩ := alike.1 ⟨_, one⟩
  obtain ⟨blockOf, modules, share, regroups⟩ := regrouped _ files one many
  refine ⟨_, files, blockOf, modules, share, one, many, regroups, rfl, ?_, ?_, ?_⟩
  · exact (regroups.mem_share_iff _ _).2 ⟨by decide, by decide⟩
  · exact (regroups.mem_share_iff _ _).2 ⟨by decide, by decide⟩
  · intro inShare
    have home := ((regroups.mem_share_iff _ _).1 inShare).2
    revert home
    decide

end Catalog

end Recordsmith
