/-
# Recordsmith.Proofs.Command.ModuleFiles — where the classes of modules end up

A run for modules writes one file for each module and the support file behind
them. The names of the modules differ, and so do their files; the one clash there
can be is between the support file and a module called `jsonbase`. Such a module
gets its file written first and then written over: the run reports success, and
the classes of the module are nowhere (`jsonbase_module_lost`).

`moduleFiles_delivered` says that nothing else is lost. After a run that succeeds
the support file is as it should be, and the class of a generated record is in the
file of its module exactly if the module is not called `jsonbase`. That a class is
not in the support file shows in a character: every class overrides `toMap` and
says so by an annotation, and the support file has none.
-/
import Recordsmith.Proofs.Catalog.Contents
import Recordsmith.Proofs.Command.Writing
import Recordsmith.Proofs.Dart.Frame
import Recordsmith.Proofs.Generator.Runs
import Recordsmith.Proofs.Layout.Ink
import Recordsmith.Proofs.SourceFile

namespace Recordsmith

set_option autoImplicit false

open Command

/-! ## Annotations -/

theorem Token.mem_join {delimiter last group : List Token} {groups : List (List Token)}
    (among : group ∈ groups) {token : Token} (member : token ∈ group) :
    token ∈ join delimiter last groups := by
  fun_induction join delimiter last groups <;> grind

/-- The tokens of a member are among those of its class. -/
theorem Class.mem_tokens_ofRecord {options : ClassOptions} {record : Record} {expr : Dart.Expr}
    (declared : expr ∈ members options record) {token : Token} (member : token ∈ expr.tokens) :
    token ∈ (ofRecord options record).tokens := by
  have among : expr.tokens ∈ Dart.Expr.tokensOfEach (members options record) := by
    rw [Dart.Expr.tokensOfEach_eq_map]
    exact List.mem_map_of_mem declared
  have filled : (Dart.Expr.tokensOfEach (members options record)).isEmpty = false := by
    rw [List.isEmpty_eq_false_iff]
    exact List.ne_nil_of_mem among
  have stated := @Token.mem_join [.statementEnd, .endLine] [.statementEnd] _ _ among token member
  simp only [ofRecord, Dart.Expr.tokens, Dart.Expr.braced, filled, Dart.Expr.statements]
  grind

namespace SourceFile

theorem annotation_mem_block (settings : Settings) (record : Record) :
    '@' ∈ (block (settings.linesOf record)).toList := by
  have declared : Class.toMap record ∈ Class.members settings.options record := by
    simp [Class.members, Class.coreMembers]
  have written : Token.text "@override" ∈ (Class.toMap record).tokens := by
    rw [Class.toMap, Class.toMapWith, Dart.Expr.overriding, Dart.Expr.tokens]
    exact List.mem_cons_self
  obtain ⟨line, among, stands⟩ := Layout.exists_line_of_text
    (Class.mem_tokens_ofRecord declared written) (c := '@') (by decide) settings.indent
  rw [block, String.toList_append, String.toList_join, List.flatMap_map]
  apply List.mem_append_left
  refine List.mem_flatMap.2 ⟨line, among, ?_⟩
  rw [String.toList_append]
  exact List.mem_append_left _ stands

theorem annotation_not_mem_support : '@' ∉ support.content.toList := by
  have nowhere : ∀ line ∈ supportLines, '@' ∉ line.toList := by
    simp [supportLines, header]
  rw [support, LineBuilder.lines_eq rfl, String.empty_append, String.toList_join,
    List.flatMap_map, List.mem_flatMap]
  rintro ⟨line, among, stands⟩
  rw [String.toList_append, List.mem_append] at stands
  rcases stands with inside | atEnd
  · exact nowhere line among inside
  · revert atEnd
    decide

end SourceFile

/-- A file has this text in it. -/
def FileTree.Holds (tree : FileTree) (path text : String) : Prop :=
  ∃ before after, tree.readText path = .ok (before ++ text ++ after)

/-- No class is in the support file. -/
theorem FileTree.not_holds_support {tree : FileTree} {path : String}
    (supported : tree.readText path = .ok SourceFile.support.content) (settings : Settings)
    (record : Record) : ¬ tree.Holds path (SourceFile.block (settings.linesOf record)) := by
  rintro ⟨before, after, holds⟩
  have content := Except.ok.inj (supported.symm.trans holds)
  apply SourceFile.annotation_not_mem_support
  rw [content, String.toList_append, String.toList_append]
  exact List.mem_append_left _ (List.mem_append_right _
    (SourceFile.annotation_mem_block settings record))

namespace Catalog

/-! ## Names of module files -/

theorem moduleFile_jsonbase : moduleFile "jsonbase" = SourceFile.support.path := by
  decide

theorem plainName_moduleFile {name : String} (noSlash : '/' ∉ name.toList) :
    Path.PlainName (moduleFile name) := by
  have long : 5 ≤ (moduleFile name).length := by
    rw [moduleFile, String.length_append]
    exact Nat.le_add_left 5 name.length
  constructor
  · rw [moduleFile, String.toList_append, List.mem_append, not_or]
    exact ⟨noSlash, by decide⟩
  all_goals
    intro short
    rw [short] at long
    revert long
    decide

theorem slash_not_mem_moduleName (file : SchemaFile) : '/' ∉ file.moduleName.toList := by
  rw [SchemaFile.moduleName]
  cases found : Path.stem? file.path with
  | none => decide
  | some stem => exact Path.slash_not_mem_stem found

theorem plainName_of_addFiles {filter : Filter} {files : List SchemaFile} {catalog : Catalog}
    (built : addFiles filter .empty files = .ok catalog) {name : String}
    (member : name ∈ catalog.moduleNames) : Path.PlainName (moduleFile name) := by
  obtain ⟨entry, among, rfl⟩ := mem_moduleNames.1 member
  rw [addFiles_eq_ok_iff.1 built] at among
  simp only [empty, List.nil_append, List.mem_flatMap, SchemaFile.entries, List.mem_map] at among
  obtain ⟨file, -, record, -, rfl⟩ := among
  exact plainName_moduleFile (slash_not_mem_moduleName file)

/-! ## Generated files -/

/-- The one clash of paths is that of a module with the support file. -/
theorem nodup_paths_iff (catalog : Catalog) (settings : Settings) :
    ((catalog.moduleNames.map (catalog.fileOf settings) ++ [SourceFile.support]).map
      (·.path)).Nodup ↔ "jsonbase" ∉ catalog.moduleNames := by
  have paths : (catalog.moduleNames.map (catalog.fileOf settings) ++ [SourceFile.support]).map
      (·.path) = (catalog.moduleNames ++ ["jsonbase"]).map moduleFile := by
    rw [List.map_append, List.map_append, List.map_map, List.map_singleton, List.map_singleton,
      moduleFile_jsonbase]
    rfl
  have injective : Function.Injective moduleFile := fun _ _ => moduleFile_inj.1
  rw [paths, List.nodup_map_iff injective, ← List.concat_eq_append, List.nodup_concat]
  exact and_iff_left (nodup_distinct _)

/-- A generated record is in the catalog and has a class. -/
theorem exists_of_mem_generated {catalog : Catalog} {settings : Settings} {name : String}
    (member : name ∈ (settings.generated catalog.moduleRecords).map Prod.fst) :
    ∃ entry, catalog.get? name = some entry ∧ entry.record.isSupported = true :=
  (mem_generated_iff catalog.moduleRecords_perm).1 member

/-- The class of a record stands in the file of its module. -/
theorem exists_fileOf_eq {catalog : Catalog} {settings : Settings} {entry : Entry}
    (member : entry ∈ catalog.entries) (supported : entry.record.isSupported = true) :
    ∃ before after, (catalog.fileOf settings entry.module).content =
      before ++ SourceFile.block (settings.linesOf entry.record) ++ after := by
  have among := List.mem_filter.2 ⟨mem_recordsOf.2 ⟨entry, member, rfl, rfl⟩, supported⟩
  have classed : settings.linesOf entry.record ∈
      (settings.generated (catalog.recordsOf entry.module)).map Prod.snd := by
    simp only [Settings.generated, List.map_map, List.mem_map, Function.comp_apply]
    exact ⟨entry.record, among, rfl⟩
  exact @SourceFile.exists_render_eq ⟨catalog.importsFor entry.module, _⟩ _ classed

/-! ## Written files -/

section Run

variable {filter : Filter} {settings : Settings} {files : List SchemaFile} {catalog : Catalog}
  {events : List Event} {directory : String} {tree later : FileTree}

theorem plainName_of_mem (built : addFiles filter .empty files = .ok catalog)
    {file : GeneratedFile}
    (member : file ∈ catalog.moduleNames.map (catalog.fileOf settings) ++ [SourceFile.support]) :
    Path.PlainName file.path := by
  rcases List.mem_append.1 member with ofModule | support
  · obtain ⟨name, among, rfl⟩ := List.mem_map.1 ofModule
    exact plainName_of_addFiles built among
  · rw [List.mem_singleton.1 support, ← moduleFile_jsonbase]
    exact plainName_moduleFile (by decide)

theorem readText_support (built : addFiles filter .empty files = .ok catalog)
    (written : writeFiles (m := StateM FileTree)
      ((catalog.moduleNames.map (catalog.fileOf settings) ++ [SourceFile.support]).map
        (FileTree.within directory)) tree = ((events, .ok ()), later)) :
    later.readText (Path.join directory SourceFile.support.path) =
      .ok SourceFile.support.content :=
  FileTree.readText_of_writeFiles (fun _ => plainName_of_mem built) (by simp) written

theorem readText_fileOf (built : addFiles filter .empty files = .ok catalog)
    (written : writeFiles (m := StateM FileTree)
      ((catalog.moduleNames.map (catalog.fileOf settings) ++ [SourceFile.support]).map
        (FileTree.within directory)) tree = ((events, .ok ()), later))
    {name : String} (member : name ∈ catalog.moduleNames) (unlike : name ≠ "jsonbase") :
    later.readText (Path.join directory (moduleFile name)) =
      .ok (catalog.fileOf settings name).content := by
  obtain ⟨front, back, split⟩ := List.append_of_mem member
  have once : name ∉ back := by
    have unrepeated : (front ++ name :: back).Nodup := split ▸ nodup_distinct _
    exact (List.nodup_cons.1 (List.nodup_append.1 unrepeated).2.1).1
  have plain := fun file => @plainName_of_mem filter settings files catalog built file
  have parted : catalog.moduleNames.map (catalog.fileOf settings) ++ [SourceFile.support] =
      front.map (catalog.fileOf settings) ++ catalog.fileOf settings name ::
        (back.map (catalog.fileOf settings) ++ [SourceFile.support]) := by
    rw [split, List.map_append, List.map_cons, List.append_assoc, List.cons_append]
  rw [parted] at written plain
  have last : ∀ other ∈ back.map (catalog.fileOf settings) ++ [SourceFile.support],
      other.path ≠ moduleFile name := by
    intro other behind same
    rcases List.mem_append.1 behind with ofModule | support
    · obtain ⟨another, among, rfl⟩ := List.mem_map.1 ofModule
      exact once (moduleFile_inj.1 same ▸ among)
    · rw [List.mem_singleton.1 support, ← moduleFile_jsonbase] at same
      exact unlike (moduleFile_inj.1 same).symm
  have read := FileTree.readText_of_writeFiles plain last written
  exact read

end Run

/-- **Only a module called `jsonbase` loses its classes.** The paths of the generated files
differ exactly if there is no such module. After every run that succeeds, the support
file is there, and the class of every generated record is in the file of its module
exactly if the module has another name. -/
theorem moduleFiles_delivered {filter : Filter} {settings : Settings} {files : List SchemaFile}
    {catalog : Catalog} {generated : Generated (List GeneratedFile)}
    (built : addFiles filter .empty files = .ok catalog)
    (generates : catalog.modules settings = .ok generated) :
    ((generated.output.map (·.path)).Nodup ↔
      ∀ entry ∈ catalog.entries, entry.module ≠ "jsonbase") ∧
    ∀ (directory : String) (events : List Event) (tree later : FileTree) (outcome : Outcome),
      generateTo (m := StateM FileTree) settings events catalog (.modules directory) tree =
        (outcome, later) →
      outcome.exit = 0 →
      later.readText (Path.join directory "jsonbase.dart") = .ok SourceFile.support.content ∧
      ∀ name ∈ generated.records, ∃ entry lines,
        catalog.get? name = some entry ∧ settings.classLines entry.record = .ok lines ∧
        (later.Holds (Path.join directory (entry.module ++ ".dart")) (SourceFile.block lines) ↔
          entry.module ≠ "jsonbase") := by
  obtain ⟨outputs, recorded⟩ := eq_of_modules generates
  constructor
  · rw [outputs, nodup_paths_iff, mem_moduleNames]
    simp
  intro directory events tree later outcome ran success
  obtain ⟨shown, written⟩ := FileTree.writeFiles_of_generateTo generates ran success
  rw [outputs] at written
  have supported := readText_support built written
  refine ⟨supported, fun name listed => ?_⟩
  rw [recorded] at listed
  obtain ⟨entry, found, classed⟩ := exists_of_mem_generated listed
  have member := (get?_eq_some_iff.1 found).1
  refine ⟨entry, settings.linesOf entry.record, found, ?_, ?_, ?_⟩
  · rw [Settings.classLines_eq, Option.isNone_iff_eq_none.1 classed]
    rfl
  · intro holds same
    rw [same] at holds
    exact FileTree.not_holds_support supported settings entry.record holds
  · intro unlike
    obtain ⟨before, after, content⟩ := @exists_fileOf_eq catalog settings entry member classed
    refine ⟨before, after, ?_⟩
    rw [← content]
    exact readText_fileOf built written (mem_moduleNames.2 ⟨entry, member, rfl⟩) unlike

/-- `int a` -/
def item : Record :=
  ⟨"Item", [⟨"a", .scalar "int" false, by decide⟩], by decide, by decide, by decide⟩

/-- `Item first` -/
def cart : Record :=
  ⟨"Cart", [⟨"first", .scalar "Item" false, by decide⟩], by decide, by decide, by decide⟩

def cartFiles : List SchemaFile :=
  [⟨"jsonbase.json", [item]⟩, ⟨"shop/carts.toml", [cart]⟩]

def carts : Catalog :=
  ⟨[⟨"jsonbase", "jsonbase.json", item⟩, ⟨"carts", "shop/carts.toml", cart⟩], by decide⟩

theorem moduleFiles_delivered_carts :
    ∃ generated outcome later, addFiles {} .empty cartFiles = .ok carts ∧
      carts.modules {} = .ok generated ∧ ¬ (generated.output.map (·.path)).Nodup ∧
      generateTo (m := StateM FileTree) {} [] carts (.modules "lib") {} = (outcome, later) ∧
      outcome.exit = 0 ∧
      later.readText "lib/jsonbase.dart" = .ok SourceFile.support.content ∧
      later.Holds "lib/carts.dart" (SourceFile.block (Settings.linesOf {} cart)) := by
  have built : addFiles {} .empty cartFiles = .ok carts := addFiles_eq_ok_iff.2 rfl
  have member : cart ∈ carts.moduleRecords :=
    carts.moduleRecords_perm.mem_iff.2 (by simp [records, carts])
  have generates := @modules_eq_ok carts {} rfl
  obtain ⟨outcome, later, ran, success⟩ : ∃ outcome later,
      generateTo (m := StateM FileTree) {} [] carts (.modules "lib") {} = (outcome, later) ∧
        outcome.exit = 0 := ⟨_, _, rfl, by decide +kernel⟩
  obtain ⟨apart, delivered⟩ := moduleFiles_delivered built generates
  obtain ⟨supported, classes⟩ := delivered "lib" [] {} later outcome ran success
  have listed : "Cart" ∈ (Settings.generated {} carts.moduleRecords).map Prod.fst := by
    simp only [Settings.generated, List.map_map, List.mem_map, List.mem_filter,
      Function.comp_apply]
    exact ⟨cart, ⟨member, rfl⟩, rfl⟩
  obtain ⟨entry, lines, found, classed, holds⟩ := classes "Cart" listed
  obtain rfl : ⟨"carts", "shop/carts.toml", cart⟩ = entry := Option.some.inj found
  obtain rfl : Settings.linesOf {} cart = lines := by
    rw [Settings.classLines_eq] at classed
    exact Except.ok.inj classed
  refine ⟨_, outcome, later, built, generates, ?_, ran, success, ?_, ?_⟩
  · rw [apart]
    decide
  · rwa [show Path.join "lib" "jsonbase.dart" = "lib/jsonbase.dart" by decide] at supported
  · rw [← show Path.join "lib" ("carts" ++ ".dart") = "lib/carts.dart" by decide]
    exact holds.2 (by decide)

def soleItem : Catalog :=
  ⟨[⟨"jsonbase", "jsonbase.json", item⟩], by decide⟩

/-- One record in a module that is called `jsonbase`: it is generated and the run succeeds,
but its class is not in the file of its module. -/
theorem jsonbase_module_lost :
    ∃ generated outcome later,
      addFiles {} .empty [⟨"jsonbase.json", [item]⟩] = .ok soleItem ∧
      soleItem.modules {} = .ok generated ∧ generated.records = ["Item"] ∧
      ¬ (generated.output.map (·.path)).Nodup ∧
      generateTo (m := StateM FileTree) {} [] soleItem (.modules "lib") {} = (outcome, later) ∧
      outcome.exit = 0 ∧
      ¬ later.Holds "lib/jsonbase.dart" (SourceFile.block (Settings.linesOf {} item)) := by
  have built : addFiles {} .empty [⟨"jsonbase.json", [item]⟩] = .ok soleItem :=
    addFiles_eq_ok_iff.2 rfl
  have records : soleItem.moduleRecords = [item] :=
    List.perm_singleton.1 soleItem.moduleRecords_perm
  have generates := @modules_eq_ok soleItem {} rfl
  rw [records] at generates
  obtain ⟨outcome, later, ran, success⟩ : ∃ outcome later,
      generateTo (m := StateM FileTree) {} [] soleItem (.modules "lib") {} = (outcome, later) ∧
        outcome.exit = 0 := ⟨_, _, rfl, by decide +kernel⟩
  obtain ⟨shown, written⟩ := FileTree.writeFiles_of_generateTo generates ran success
  have supported : later.readText "lib/jsonbase.dart" = .ok SourceFile.support.content := by
    rw [← show Path.join "lib" SourceFile.support.path = "lib/jsonbase.dart" by decide]
    exact readText_support built written
  refine ⟨_, outcome, later, built, generates, rfl, ?_, ran, success,
    FileTree.not_holds_support supported {} item⟩
  rw [nodup_paths_iff]
  decide

end Catalog

end Recordsmith
