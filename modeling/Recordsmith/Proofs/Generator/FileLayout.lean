/-
# Recordsmith.Proofs.Generator.FileLayout — the blocks of a generated file

A file is its heading and its classes with an empty line behind each. As no line of
theirs is empty or has a line feed, cutting the text at its empty lines gives them
back (`paragraphs_blocks`), so where a class starts and ends can be told from the
text alone. This holds for all records that come from schema files, as their types
are well-formed; for these a class is `Laid` out as it should be.

A record behind all others only adds its block to the text (`singleFile_append`).
-/
import Recordsmith.Proofs.Class.Layout
import Recordsmith.Proofs.Path
import Recordsmith.Proofs.Schema.File

namespace Recordsmith

set_option autoImplicit false

/-! ## Lines and paragraphs -/

namespace Text

/-- All lines of a text; what stands behind the last line feed is one of them. -/
def allLines (text : String) : List String :=
  (lines text).1 :: (lines text).2

/-- What stands between the empty lines of a text. -/
def paragraphs (text : String) : List (List String) :=
  (allLines text).splitOn ""

theorem allLines_eq (text : String) :
    allLines text = (allPieces '\n' text.toList).map String.ofList := rfl

theorem allLines_line {line : String} (single : '\n' ∉ line.toList) (rest : String) :
    allLines (line ++ "\n" ++ rest) = line :: allLines rest := by
  have chars : (line ++ "\n" ++ rest).toList = line.toList ++ '\n' :: rest.toList := by
    simp
  rw [allLines_eq, allLines_eq, chars, allPieces_cons single, List.map_cons, String.ofList_toList]

end Text

namespace SourceFile

open Recordsmith.Text

theorem allLines_block {lines : List String} (single : ∀ line ∈ lines, '\n' ∉ line.toList)
    (rest : String) : allLines (block lines ++ rest) = lines ++ "" :: allLines rest := by
  induction lines with
  | nil => exact allLines_line (by decide) rest
  | cons line others ih =>
    rw [List.forall_mem_cons] at single
    have shape : block (line :: others) ++ rest = line ++ "\n" ++ (block others ++ rest) := by
      simp only [block, List.map_cons, String.join_cons, String.append_assoc]
    rw [shape, allLines_line single.1, ih single.2, List.cons_append]

theorem allLines_blocks {blocks : List (List String)}
    (single : ∀ lines ∈ blocks, ∀ line ∈ lines, '\n' ∉ line.toList) :
    allLines (String.join (blocks.map block)) = [""].intercalate (blocks ++ [[], []]) := by
  induction blocks with
  | nil => rfl
  | cons lines rest ih =>
    rw [List.forall_mem_cons] at single
    obtain ⟨next, others, more⟩ : ∃ next others, rest ++ [[], []] = next :: others :=
      List.exists_cons_of_ne_nil (by simp)
    rw [List.map_cons, String.join_cons, allLines_block single.1, ih single.2, List.cons_append,
      more, List.intercalate_cons_cons, List.append_assoc, List.singleton_append]

/-- The paragraphs of blocks are the blocks. The text ends with an empty line, and the
empty text behind it is a line too. -/
theorem paragraphs_blocks {blocks : List (List String)}
    (single : ∀ lines ∈ blocks, ∀ line ∈ lines, OneLine line) :
    paragraphs (String.join (blocks.map block)) = blocks ++ [[], []] := by
  rw [paragraphs,
    allLines_blocks fun lines member line inside => (single lines member line inside).2]
  refine List.splitOn_intercalate "" ?_ (by simp)
  intro lines member
  rcases List.mem_append.1 member with inside | behind
  · exact fun empty => (single lines inside "" empty).1 rfl
  · have none : lines = [] := by simpa using behind
    simp [none]

theorem oneLine_heading : ∀ line ∈ heading [], OneLine line := by
  decide

end SourceFile

/-! ## The single file -/

theorem Settings.classLines_eq_ok_iff {settings : Settings} {record : Record}
    {lines : List String} :
    settings.classLines record = .ok lines ↔
      record.isSupported = true ∧ settings.linesOf record = lines := by
  rw [classLines_eq, elim_eq_ok_iff, Record.isSupported, Option.isNone_iff_eq_none]

theorem Settings.generated_append (settings : Settings) (front back : List Record) :
    settings.generated (front ++ back) = settings.generated front ++ settings.generated back := by
  rw [generated, List.filter_append, List.map_append]
  rfl

namespace Catalog

/-- All records come from schema files that are accepted. -/
def FromFiles (catalog : Catalog) : Prop :=
  ∀ record ∈ catalog.records, ∃ content format path file,
    SchemaFile.parse content format path = .ok file ∧ record ∈ file.records

/-- How a single file is laid out: its paragraphs are the heading and the classes of the
records that have one, in catalog order. -/
structure LaidOut (catalog : Catalog) (settings : Settings) (single : Generated String)
    (records : List Record) (classes : List (List String)) : Prop where
  ordered : records.Sublist catalog.records
  complete : ∀ record ∈ catalog.records,
    record ∈ records ↔ ∃ lines, settings.classLines record = .ok lines
  named : single.records = records.map Record.name
  laid : List.Forall₂ (fun record lines => settings.classLines record = .ok lines ∧
    Class.Laid settings.indent record.name lines) records classes
  paragraphs_eq : Text.paragraphs single.output =
    SourceFile.heading [] :: classes ++ [[], []]

variable {catalog : Catalog}

theorem FromFiles.types_formed (fromFiles : catalog.FromFiles) {record : Record}
    (member : record ∈ catalog.records) :
    ∀ field ∈ record.fields, TypeExpr.WellFormed field.type := by
  obtain ⟨content, format, path, file, read, inside⟩ := fromFiles record member
  exact (SchemaFile.admissible_of_parse read).types_formed record inside

theorem laid_linesOf (fromFiles : catalog.FromFiles) (settings : Settings) {record : Record}
    (member : record ∈ catalog.records) :
    Class.Laid settings.indent record.name (settings.linesOf record) :=
  Class.laid_ofRecord (fromFiles.types_formed member) settings.options settings.indent

theorem laidOut_of_singleFile (fromFiles : catalog.FromFiles) {settings : Settings}
    {single : Generated String} (generates : catalog.singleFile settings = .ok single) :
    LaidOut catalog settings single (catalog.records.filter Record.isSupported)
      ((catalog.records.filter Record.isSupported).map settings.linesOf) := by
  obtain ⟨output, records⟩ := eq_of_singleFile generates
  have classes : (settings.generated catalog.records).map Prod.snd =
      (catalog.records.filter Record.isSupported).map settings.linesOf := List.map_map
  constructor
  case ordered => exact List.filter_sublist
  case complete =>
    intro record member
    simp [Settings.classLines_eq_ok_iff, member]
  case named => rw [records, Settings.generated, List.map_map]; rfl
  case laid =>
    rw [List.forall₂_map_right_iff, List.forall₂_same]
    intro record kept
    obtain ⟨member, supported⟩ := List.mem_filter.1 kept
    exact ⟨settings.classLines_eq_ok supported, laid_linesOf fromFiles settings member⟩
  case paragraphs_eq =>
    rw [output, SourceFile.render_eq, classes]
    apply SourceFile.paragraphs_blocks
    rw [List.forall_mem_cons, List.forall_mem_map]
    refine ⟨SourceFile.oneLine_heading, fun record kept => ?_⟩
    exact (laid_linesOf fromFiles settings (List.mem_filter.1 kept).1).single

/-- A record behind all others adds its block, or fails. -/
theorem singleFile_append {larger : Catalog} {entry : Entry}
    (grown : larger.entries = catalog.entries ++ [entry]) {settings : Settings}
    {single : Generated String} (generates : catalog.singleFile settings = .ok single) :
    larger.singleFile settings =
      match settings.classLines entry.record with
      | .ok lines =>
          .ok ⟨single.output ++ SourceFile.block lines, single.records ++ [entry.record.name]⟩
      | .error fault => if settings.keepGoing then .ok single else .error fault := by
  have records : larger.records = catalog.records ++ [entry.record] := by
    rw [Catalog.records, grown, List.map_append]
    rfl
  rw [singleFile_eq, Settings.elim_eq_ok_iff] at generates
  obtain ⟨unstopped, rfl⟩ := generates
  rw [singleFile_eq, records, Settings.stop?_append, unstopped, Option.none_or,
    Settings.generated_append, settings.classLines_eq]
  cases found : entry.record.unsupported? with
  | none =>
    have stop : settings.stop? [entry.record] = none := by simp [Settings.stop?, found]
    have added : settings.generated [entry.record] =
        [(entry.record.name, settings.linesOf entry.record)] := by
      simp [Settings.generated, Record.isSupported, found]
    simp only [stop, added, Option.elim_none, List.map_append, SourceFile.render_eq_append,
      String.join_append, String.append_assoc]
    simp
  | some fault =>
    have added : settings.generated [entry.record] = [] := by
      simp [Settings.generated, Record.isSupported, found]
    cases keeps : settings.keepGoing <;> simp [Settings.stop?, found, keeps, added]

/-- **The layout of a file is unambiguous.** For records from schema files, cutting a single
file at its empty lines gives its heading and then the class of each generated record in
catalog order; no line of a class is empty or holds a line feed, its headline and its closing
brace stand at the margin, and all else is indented. One more record at the end of the
catalog only appends its block. -/
theorem singleFile_layout (catalog : Catalog) (settings : Settings)
    (fromFiles : catalog.FromFiles) (single : Generated String)
    (generates : catalog.singleFile settings = .ok single) :
    (∃ records classes, LaidOut catalog settings single records classes) ∧
    ∀ (larger : Catalog) (entry : Entry), larger.entries = catalog.entries ++ [entry] →
      (∀ lines, settings.classLines entry.record = .ok lines →
        larger.singleFile settings =
          .ok ⟨single.output ++ SourceFile.block lines,
            single.records ++ [entry.record.name]⟩) ∧
      (∀ fault, settings.classLines entry.record = .error fault →
        larger.singleFile settings =
          if settings.keepGoing then .ok single else .error fault) := by
  refine ⟨⟨_, _, laidOut_of_singleFile fromFiles generates⟩, ?_⟩
  intro larger entry grown
  have appended := singleFile_append grown generates
  constructor
  · intro lines classed
    rw [appended, classed]
  · intro fault refused
    rw [appended, refused]

/-- `int number`, `List<int?> tracks` -/
def platform : Record :=
  ⟨"Platform", [⟨"number", .scalar "int" false, by decide⟩,
    ⟨"tracks", .list (.scalar "int" true) false, by decide⟩], by decide, by decide, by decide⟩

/-- `DateTime? seen` -/
def signal : Record :=
  ⟨"Signal", [⟨"seen", .scalar "DateTime" true, by decide⟩], by decide, by decide, by decide⟩

/-- `Set<int> axles`, a record without a class -/
def wagon : Record :=
  ⟨"Wagon", [⟨"axles", .generic "Set" [.scalar "int" false] false, by decide⟩],
    by decide, by decide, by decide⟩

/-- A catalog with a record that has no class, `wagon`, in front of one that has. -/
def station : Catalog :=
  ⟨[⟨"yard", "yard.toml", wagon⟩, ⟨"station", "station.json", platform⟩], by decide⟩

/-- The station with a signal behind all else. -/
def signalledStation : Catalog :=
  ⟨station.entries ++ [⟨"station", "more.json", signal⟩], by decide⟩

/-- The wagon is left out, the platform is laid out, and the signal is put behind it. -/
theorem singleFile_layout_station :
    station.FromFiles ∧
    ∃ single lines, station.singleFile ⟨{}, .tab, true⟩ = .ok single ∧
      single.records = ["Platform"] ∧
      (∃ records classes, LaidOut station ⟨{}, .tab, true⟩ single records classes) ∧
      signalledStation.singleFile ⟨{}, .tab, true⟩ =
        .ok ⟨single.output ++ SourceFile.block lines, ["Platform", "Signal"]⟩ := by
  let settings : Settings := ⟨{}, .tab, true⟩
  have admissible : SchemaFile.Admissible station.records := by
    refine ⟨by decide, by decide, ?_⟩
    have number (nullable : Bool) : TypeExpr.WellFormed (.scalar "int" nullable) :=
      .scalar (by decide) (by decide) (by decide)
    have numbers : TypeExpr.WellFormed (.generic "Set" [.scalar "int" false] false) :=
      .generic (by decide) (by decide) (by decide) (by simp) (by simpa using number false)
    simpa [station, records, wagon, platform] using
      ⟨numbers, number false, TypeExpr.WellFormed.list (number true)⟩
  have fromFiles : station.FromFiles := by
    intro record member
    exact ⟨_, .toml, "station.toml", _,
      SchemaFile.parse_of_outline_written admissible
        (SchemaFile.outline_document admissible .toml "station.toml"), member⟩
  obtain ⟨single, generates, named⟩ : ∃ single, station.singleFile settings = .ok single ∧
      single.records = ["Platform"] :=
    ⟨_, singleFile_eq station settings, rfl⟩
  obtain ⟨laidOut, appended⟩ := singleFile_layout station settings fromFiles single generates
  have classed : settings.classLines signal = .ok (settings.linesOf signal) :=
    settings.classLines_eq_ok (by decide)
  have grown := (appended signalledStation _ rfl).1 _ classed
  rw [named] at grown
  exact ⟨fromFiles, single, _, generates, named, laidOut, grown⟩

end Catalog

end Recordsmith
