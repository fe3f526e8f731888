/-
# Recordsmith.Proofs.Command.Writing — files written by a run

A run writes its files one after the other. Each write first makes the missing
directories above the file, which touches no file (`touches_createAll`), and then
changes the one place of the file (`writeFile_eq_ok`). So nothing changes but the
files that are written and the directories above them (`touches_writeFiles`). A
file that has been written stays until a file of the same name is written
(`Stands.writeFiles`), and after all writes there is a file at each path
(`kind?_of_writeFiles`), in a directory the last one of each name
(`readText_of_writeFiles`).

A run that generates modules and succeeds has written all files of the modules
(`writeFiles_of_generateTo`).
-/
import Recordsmith.Command.Session
import Recordsmith.Proofs.Command.FileTree

namespace Recordsmith

set_option autoImplicit false

open Command

/-- The directories above a path. -/
def Path.ancestors (path : String) : List String :=
  lineage ((parent? path).getD "")

namespace FileTree

variable {tree later : FileTree}

/-! ## Footprints -/

/-- An action that changes nothing but files and missing directories at these paths. -/
def Touches {α : Type} (files directories : List String) (action : StateM FileTree α) : Prop :=
  ∀ tree, Confined files directories tree (action tree).2

section Touches

variable {α β : Type} {files directories : List String}

theorem Touches.pure (value : α) : Touches files directories (pure value) :=
  fun tree => .refl tree

theorem Touches.bind {action : StateM FileTree α} {next : α → StateM FileTree β}
    (first : Touches files directories action)
    (then_ : ∀ value, Touches files directories (next value)) :
    Touches files directories (action >>= next) :=
  fun tree => (first tree).trans (then_ _ _)

theorem touches_kind? (path : String) : Touches files directories (FileSystem.kind? path) :=
  fun tree => .refl tree

theorem touches_change {operation : FileTree → Except FileError FileTree}
    (confined : ∀ tree later, operation tree = .ok later → Confined files directories tree later) :
    Touches files directories (change operation) := by
  intro tree
  rw [change]
  cases done : operation tree with
  | error cause => exact .refl tree
  | ok later => exact confined tree later done

theorem touches_makeDirectory {path : String} (among : path ∈ directories) :
    Touches files directories (FileSystem.makeDirectory path) :=
  touches_change fun _ _ => confined_makeDirectory among

theorem touches_unlessDirectory (path : String) (cause : FileError) :
    Touches files directories (FileSystem.unlessDirectory path cause) := by
  refine (touches_kind? path).bind fun kind => ?_
  split
  · exact .pure _
  · exact .pure _

theorem touches_createAll {paths : List String} (among : paths ⊆ directories) :
    Touches files directories (FileSystem.createAll paths) := by
  induction paths with
  | nil => exact .pure _
  | cons path above ih =>
    rw [List.cons_subset] at among
    refine (touches_makeDirectory among.1).bind fun made => ?_
    split
    · exact .pure _
    · refine (ih among.2).bind fun created => ?_
      split
      · exact .pure _
      · refine (touches_makeDirectory among.1).bind fun madeAgain => ?_
        split
        · exact .pure _
        · exact touches_unlessDirectory path _
    · exact touches_unlessDirectory path _

end Touches

/-! ## Files -/

theorem bind_apply {α β : Type} (action : StateM FileTree α) (next : α → StateM FileTree β)
    (tree : FileTree) : (action >>= next) tree = next (action tree).1 (action tree).2 :=
  rfl

theorem bind_eq_iff {α β : Type} {action : StateM FileTree α} {next : α → StateM FileTree β}
    {outcome : β × FileTree} :
    (action >>= next) tree = outcome ↔
      ∃ value middle, action tree = (value, middle) ∧ next value middle = outcome := by
  constructor
  · intro ran
    exact ⟨_, _, rfl, ran⟩
  · rintro ⟨value, middle, first, ran⟩
    change next (action tree).1 (action tree).2 = outcome
    rw [first]
    exact ran

/-- A write that succeeds adds directories, and then the file. -/
theorem writeFile_eq_ok {path content : String} {events : List Event}
    (written : writeFile (m := StateM FileTree) path content tree = ((events, .ok ()), later)) :
    ∃ middle, Confined [] (Path.ancestors path) tree middle ∧
      middle.writeText path content = .ok later := by
  rw [writeFile, bind_eq_iff] at written
  obtain ⟨created, middle, ran, written⟩ := written
  have confined : Confined [] (Path.ancestors path) tree middle := by
    have touches := @touches_createAll [] _ _ (List.Subset.refl (Path.ancestors path)) tree
    rwa [Path.ancestors, ran] at touches
  refine ⟨middle, confined, ?_⟩
  cases created with
  | error cause => cases written
  | ok _ =>
    rw [bind_eq_iff] at written
    obtain ⟨result, final, wrote, written⟩ := written
    change change (·.writeText path content) middle = (result, final) at wrote
    rw [change] at wrote
    split at wrote
    · cases wrote
      cases written
    · next changed =>
      cases wrote
      cases written
      exact changed

theorem writeFiles_cons_eq_ok {file : GeneratedFile} {rest : List GeneratedFile}
    {events : List Event}
    (written : writeFiles (m := StateM FileTree) (file :: rest) tree = ((events, .ok ()), later)) :
    ∃ middle first others,
      writeFile (m := StateM FileTree) file.path file.content tree = ((first, .ok ()), middle) ∧
      writeFiles (m := StateM FileTree) rest middle = ((others, .ok ()), later) := by
  rw [writeFiles, bind_eq_iff] at written
  obtain ⟨⟨first, result⟩, middle, wrote, written⟩ := written
  cases result with
  | error cause => cases written
  | ok _ =>
    rw [bind_eq_iff] at written
    obtain ⟨⟨others, result⟩, final, ran, written⟩ := written
    cases written
    exact ⟨middle, first, others, wrote, ran⟩

/-- A file within a directory. -/
def within (directory : String) (file : GeneratedFile) : GeneratedFile :=
  { file with path := Path.join directory file.path }

theorem stands_of_writeFile {directory : String} {file : GeneratedFile} {events : List Event}
    (plain : Path.PlainName file.path)
    (written : writeFile (m := StateM FileTree) (Path.join directory file.path) file.content tree =
      ((events, .ok ()), later)) :
    Stands later (Path.join directory file.path) file.path file.content := by
  obtain ⟨middle, -, wrote⟩ := writeFile_eq_ok written
  obtain ⟨place, name, located, notDirectory, rfl⟩ := writeText_eq_ok_iff.1 wrote
  obtain ⟨named, -⟩ := locate_join plain located
  cases named
  exact stands_put located notDirectory

theorem Stands.writeFile {path name content : String} (stands : Stands tree path name content)
    {directory : String} {file : GeneratedFile} {events : List Event}
    (plain : Path.PlainName file.path) (different : file.path ≠ name)
    (written : writeFile (m := StateM FileTree) (Path.join directory file.path) file.content tree =
      ((events, .ok ()), later)) :
    Stands later path name content := by
  obtain ⟨middle, confined, wrote⟩ := writeFile_eq_ok written
  obtain ⟨place, other, located, notDirectory, rfl⟩ := writeText_eq_ok_iff.1 wrote
  obtain ⟨named, -⟩ := locate_join plain located
  cases named
  exact (stands.confined confined).put different notDirectory _

/-- A file stays while files of other names are written. -/
theorem Stands.writeFiles {path name content : String} {directory : String}
    {files : List GeneratedFile} {events : List Event} (stands : Stands tree path name content)
    (plain : ∀ file ∈ files, Path.PlainName file.path)
    (different : ∀ file ∈ files, file.path ≠ name)
    (written : writeFiles (m := StateM FileTree) (files.map (within directory)) tree =
      ((events, .ok ()), later)) :
    Stands later path name content := by
  induction files generalizing tree events with
  | nil =>
    cases written
    exact stands
  | cons file rest ih =>
    obtain ⟨middle, first, others, wrote, ran⟩ := writeFiles_cons_eq_ok written
    have stays := stands.writeFile (plain file (by simp)) (different file (by simp)) wrote
    exact ih stays (fun other member => plain other (List.mem_cons_of_mem _ member))
      (fun other member => different other (List.mem_cons_of_mem _ member)) ran

/-- After all writes the last file of each name is there. -/
theorem readText_of_writeFiles {directory : String} {before after : List GeneratedFile}
    {file : GeneratedFile} {events : List Event}
    (plain : ∀ other ∈ before ++ file :: after, Path.PlainName other.path)
    (last : ∀ other ∈ after, other.path ≠ file.path)
    (written : writeFiles (m := StateM FileTree)
      ((before ++ file :: after).map (within directory)) tree = ((events, .ok ()), later)) :
    later.readText (Path.join directory file.path) = .ok file.content := by
  induction before generalizing tree events with
  | nil =>
    obtain ⟨middle, first, others, wrote, ran⟩ := writeFiles_cons_eq_ok written
    have stands := stands_of_writeFile (plain file (by simp)) wrote
    exact (stands.writeFiles (fun other member => plain other (by simp [member])) last
      ran).readText_eq
  | cons earlier before ih =>
    obtain ⟨middle, first, others, -, ran⟩ := writeFiles_cons_eq_ok written
    exact ih (fun other member => plain other (List.mem_cons_of_mem _ member)) ran

/-! ## Runs -/

/-- A delivery that succeeds has written its files. -/
theorem writeFiles_of_deliver {events : List Event} {total : Nat} {records : List String}
    {files : List GeneratedFile} {outcome : Outcome}
    (ran : deliver (m := StateM FileTree) events total records files tree = (outcome, later))
    (success : outcome.exit = 0) :
    ∃ shown, writeFiles (m := StateM FileTree) files tree = ((shown, .ok ()), later) := by
  rw [deliver, bind_eq_iff] at ran
  obtain ⟨⟨shown, result⟩, final, written, ran⟩ := ran
  cases result with
  | error cause =>
    cases ran
    cases success
  | ok _ =>
    cases ran
    exact ⟨shown, written⟩

/-- A run for modules that succeeds has generated them and written their files. -/
theorem writeFiles_of_generateTo {settings : Settings} {events : List Event} {catalog : Catalog}
    {directory : String} {outcome : Outcome} {generated : Generated (List GeneratedFile)}
    (generates : catalog.modules settings = .ok generated)
    (ran : generateTo (m := StateM FileTree) settings events catalog (.modules directory) tree =
      (outcome, later))
    (success : outcome.exit = 0) :
    ∃ shown, writeFiles (m := StateM FileTree) (generated.output.map (within directory)) tree =
      ((shown, .ok ()), later) := by
  rw [generateTo, bind_eq_iff] at ran
  obtain ⟨kind, middle, looked, ran⟩ := ran
  cases looked
  split at ran
  · cases ran
    cases success
  · rw [generates] at ran
    exact writeFiles_of_deliver ran success

end FileTree
end Recordsmith
