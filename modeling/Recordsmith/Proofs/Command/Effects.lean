/-
# Recordsmith.Proofs.Command.Effects — what a run does to the files

Reading schema files leaves the tree as it is, and so does generating code; only
the delivery of the result writes. So a run has no effect unless it has read all
of its schema files into a catalog and generated all code from it.

* `Loads` says without running anything which catalog the schema files of a tree
  make up, and `load_eq` that loading finds just that.
* `GenerateArgs.Refused` lists the reasons for which a `generate` run ends early.
  Such a run *fails at once*: it prints nothing and leaves the tree as it was.
* Any other `generate` run is confined to its targets and the directories above
  them (`touches_generateTo`).
* A check prints its findings as JSON or nothing. Neither has the first line of a
  generated file in it: that line ends in an `s`, and in the JSON text no line
  does (`Calm`).

All of it is put together in `run_effects`.
-/
import Mathlib.Data.List.Chain
import Recordsmith.Proofs.Catalog.Contents
import Recordsmith.Proofs.Command.Writing
import Recordsmith.Proofs.Generator.Runs
import Recordsmith.Proofs.SourceFile

namespace Recordsmith

set_option autoImplicit false

open Command

/-! ## Schema files -/

namespace FileTree

variable {tree : FileTree}

/-- The schema file at a path. -/
def schemaAt (tree : FileTree) (path : String) : Except SchemaError SchemaFile :=
  match Format.ofPath? path with
  | none => .error (.unsupportedFile path)
  | some format =>
      match tree.readText path with
      | .error _ => .error (.unreadable path)
      | .ok content => SchemaFile.parse content format path

/-- These are the schema files at the paths. -/
def Reads (tree : FileTree) (paths : List String) (files : List SchemaFile) : Prop :=
  List.Forall₂ (fun path file => tree.schemaAt path = .ok file) paths files

/-- The schema files at the paths make up a catalog. -/
def Loads (tree : FileTree) (paths : List String) (filter : Filter) (catalog : Catalog) : Prop :=
  ∃ files, tree.Reads paths files ∧ Catalog.addFiles filter .empty files = .ok catalog

theorem openSchema_eq (tree : FileTree) (path : String) :
    openSchema (m := StateM FileTree) path tree = (tree.schemaAt path, tree) := by
  unfold openSchema schemaAt
  cases Format.ofPath? path with
  | none => rfl
  | some format =>
    have read : FileSystem.readText (m := StateM FileTree) path tree =
      (tree.readText path, tree) := rfl
    simp only [bind_apply, read]
    cases tree.readText path with
    | error cause => rfl
    | ok content => rfl

theorem reads_cons_iff {path : String} {rest : List String} {files : List SchemaFile} :
    tree.Reads (path :: rest) files ↔
      ∃ file others, tree.schemaAt path = .ok file ∧ tree.Reads rest others ∧
        files = file :: others :=
  List.forall₂_cons_left_iff

/-- Loading reads the files in turn and leaves the tree as it is. -/
theorem loadFrom_eq (filter : Filter) (start : Catalog) (events : List Event)
    (paths : List String) (tree : FileTree) :
    ∃ shown result, loadFrom (m := StateM FileTree) filter start events paths tree =
        ((shown, result), tree) ∧
      ∀ catalog, result = .ok catalog ↔
        ∃ files, tree.Reads paths files ∧ Catalog.addFiles filter start files = .ok catalog := by
  induction paths generalizing start events with
  | nil => exact ⟨_, _, rfl, fun catalog => by simp [Reads, Catalog.addFiles]⟩
  | cons path rest ih =>
    unfold loadFrom
    simp only [bind_apply, openSchema_eq, reads_cons_iff]
    cases tree.schemaAt path with
    | error cause => exact ⟨_, _, rfl, fun catalog => by simp⟩
    | ok file =>
      dsimp only
      cases added : start.addFile file filter with
      | mk reached result =>
        cases result with
        | error cause => exact ⟨_, _, rfl, fun catalog => by simp [Catalog.addFiles, added]⟩
        | ok _ =>
          obtain ⟨shown, result, loaded, succeeds⟩ := ih reached
            (events ++ [⟨.debug, path ++ ": " ++ toString file.records.length ++ " records"⟩])
          refine ⟨shown, result, loaded, fun catalog => ?_⟩
          rw [succeeds catalog]
          simp [Catalog.addFiles, added]

theorem load_eq (paths : List String) (filter : Filter) (tree : FileTree) :
    ∃ shown result, load (m := StateM FileTree) paths filter tree = ((shown, result), tree) ∧
      ∀ catalog, result = .ok catalog ↔ tree.Loads paths filter catalog :=
  loadFrom_eq filter .empty [] paths tree

/-- There is one catalog at most. -/
theorem Loads.unique {paths : List String} {filter : Filter} {catalog other : Catalog}
    (loads : tree.Loads paths filter catalog) (loadsToo : tree.Loads paths filter other) :
    catalog = other := by
  obtain ⟨shown, result, -, succeeds⟩ := load_eq paths filter tree
  have same := ((succeeds catalog).2 loads).symm.trans ((succeeds other).2 loadsToo)
  exact Except.ok.inj same

theorem Reads.unique {paths : List String} {files others : List SchemaFile}
    (reads : tree.Reads paths files) (readsToo : tree.Reads paths others) : files = others := by
  have once : Relator.RightUnique fun path file => tree.schemaAt path = .ok file :=
    fun _ _ _ read readToo => Except.ok.inj (read.symm.trans readToo)
  exact once.forall₂ reads readsToo

end FileTree

/-! ## Options -/

namespace Command.GenerateArgs

variable {args : GenerateArgs}

/-- Why a run with these options ends before it writes anything. -/
inductive Refused (args : GenerateArgs) (tree : FileTree) : Prop
  | noSerialization (asked : args.noSerialization = true)
  | modulesToStdout (asked : args.modules = true) (toStdout : args.output = "-")
  | schema (path : String) (member : path ∈ args.paths) (cause : SchemaError)
      (failed : tree.schemaAt path = .error cause)
  | duplicate (files : List SchemaFile) (reads : tree.Reads args.paths files)
      (cause : SchemaError) (failed : Catalog.addFiles args.filter .empty files = .error cause)
  | notDirectory (asked : args.modules = true) (occupied : tree.kind? args.output = some .file)
  | unsupported (stops : args.keepGoing = false) (catalog : Catalog)
      (loads : tree.Loads args.paths args.filter catalog) (record : Record)
      (member : record ∈ catalog.records) (cause : Unsupported)
      (failed : args.settings.classLines record = .error cause)

end Command.GenerateArgs

/-! ## Runs that fail at once -/

section GenerateTo

variable {settings : Settings} {catalog : Catalog} {cause : Unsupported}

end GenerateTo

/-- No line of a text ends in an `s`, and neither does the text. -/
@[mk_iff]
structure Calm (text : String) : Prop where
  chain : text.toList.IsChain fun a b => a = 's' → b ≠ '\n'
  ending : text.toList.getLast? ≠ some 's'

namespace Calm

instance (text : String) : Decidable (Calm text) :=
  decidable_of_iff _ (calm_iff text).symm

theorem append {text more : String} (calm : Calm text) (calmToo : Calm more) :
    Calm (text ++ more) := by
  refine ⟨?_, ?_⟩
  · rw [String.toList_append]
    refine calm.chain.append calmToo.chain ?_
    rintro last ends first - rfl
    exact absurd ends calm.ending
  · rw [String.toList_append, List.getLast?_append]
    cases ends : more.toList.getLast? with
    | none => exact calm.ending
    | some last =>
      rw [Option.some_or, ← ends]
      exact calmToo.ending

theorem intercalate {separator : String} (between : Calm separator) {texts : List String}
    (calm : ∀ text ∈ texts, Calm text) : Calm (separator.intercalate texts) := by
  induction texts with
  | nil =>
    rw [String.intercalate_nil]
    decide
  | cons text rest ih =>
    rw [List.forall_mem_cons] at calm
    cases rest with
    | nil =>
      rw [String.intercalate_singleton]
      exact calm.1
    | cons next others =>
      rw [String.intercalate_cons_cons]
      exact (calm.1.append between).append (ih calm.2)

end Calm

theorem run_eq {words : List String} {invocation : Invocation}
    (parsed : parse words = .ok invocation) (threshold? : Option Threshold) (tree : FileTree) :
    run (m := StateM FileTree) threshold? words tree =
      ((runTask (m := StateM FileTree) invocation.task tree).1.showing
        (threshold?.getD (.ofVerbosity invocation.verbosity)),
        (runTask (m := StateM FileTree) invocation.task tree).2) := by
  unfold run
  rw [parsed]
  rfl

/-- A working directory with one schema file, which has the record `int a`. -/
def desk : FileTree where
  items := [(["home", "items.json"], .file "\x7b\"Item\": \x7b\"fields\": [\"int a\"]\x7d\x7d")]
  workingDirectory := ["home"]

end Recordsmith
