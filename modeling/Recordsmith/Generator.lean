/-
# Recordsmith.Generator — from a catalog to Dart files

The records of a catalog become one file, or one file for each module with the
support file behind them. In one file the classes stand in catalog order; in a
module file they are sorted by name. A record with an unsupported field ends the
run with its fault, or is left out if the run keeps going.

A module file imports the modules of the records that its records refer to,
those left out included. What a run tells about itself is computed apart from
its result, by `fileEvents` and `moduleEvents`.
-/
import Recordsmith.Catalog
import Recordsmith.Class.Basic
import Recordsmith.Event
import Recordsmith.SourceFile

namespace Recordsmith

set_option autoImplicit false

/-- How code is generated. -/
structure Settings where
  options : ClassOptions := {}
  indent : Indent := .standard
  keepGoing : Bool := false
deriving DecidableEq, Repr

/-- The result of a run and the names of the records in it. -/
structure Generated (α : Type) where
  output : α
  records : List String
deriving Repr

namespace Settings

/-- The lines of the class of a record. -/
def classLines (settings : Settings) (record : Record) : Except Unsupported (List String) :=
  Class.lines settings.options settings.indent record

/-- The names and class lines of records, in their order. -/
def classes (settings : Settings) : List Record → Except Unsupported (List (String × List String))
  | [] => .ok []
  | record :: rest =>
      match settings.classLines record with
      | .ok lines => (classes settings rest).map ((record.name, lines) :: ·)
      | .error unsupported =>
          if settings.keepGoing then classes settings rest else .error unsupported

end Settings

namespace Catalog

/-- The modules in the order of their first records. -/
def moduleNames (catalog : Catalog) : List String :=
  distinct (catalog.entries.map (·.module))

/-- The entries of a module, in catalog order. -/
def entriesOf (catalog : Catalog) (module : String) : List Entry :=
  catalog.entries.filter (·.module == module)

/-- The records of a module, sorted by name. -/
def recordsOf (catalog : Catalog) (module : String) : List Record :=
  ((catalog.entriesOf module).map (·.record)).mergeSort fun a b => a.name ≤ b.name

/-- The file of a module. -/
def moduleFile (module : String) : String :=
  module ++ ".dart"

/-- The modules other than `module` that its records refer to. -/
def neighbours (catalog : Catalog) (module : String) : List String :=
  ((catalog.entriesOf module).flatMap fun entry => entry.record.references).filterMap
    fun name =>
      (catalog.get? name).bind fun target =>
        if target.module = module then none else some target.module

/-- The imports that the file of a module needs, sorted. -/
def importsFor (catalog : Catalog) (module : String) : List String :=
  (distinct ((catalog.neighbours module).map fun other => "./" ++ moduleFile other)).mergeSort
    fun a b => a ≤ b

/-- All records in one file. -/
def singleFile (catalog : Catalog) (settings : Settings) :
    Except Unsupported (Generated String) :=
  (settings.classes catalog.records).map fun classes =>
    ⟨SourceFile.render ⟨[], classes.map Prod.snd⟩, classes.map Prod.fst⟩

/-- The file of one module. -/
def module (catalog : Catalog) (settings : Settings) (name : String) :
    Except Unsupported (Generated GeneratedFile) :=
  (settings.classes (catalog.recordsOf name)).map fun classes =>
    ⟨⟨moduleFile name, SourceFile.render ⟨catalog.importsFor name, classes.map Prod.snd⟩⟩,
      classes.map Prod.fst⟩

/-- The files of several modules. -/
def moduleList (catalog : Catalog) (settings : Settings) :
    List String → Except Unsupported (List (Generated GeneratedFile))
  | [] => .ok []
  | name :: rest =>
      match catalog.module settings name with
      | .error unsupported => .error unsupported
      | .ok file => (moduleList catalog settings rest).map (file :: ·)

/-- One file for each module, and the support file. -/
def modules (catalog : Catalog) (settings : Settings) :
    Except Unsupported (Generated (List GeneratedFile)) :=
  (catalog.moduleList settings catalog.moduleNames).map fun files =>
    ⟨files.map (·.output) ++ [SourceFile.support], files.flatMap (·.records)⟩

/-! ## Events -/

/-- The event for a class of these many lines. -/
def classEvent (record : Record) (lines : List String) : Event :=
  ⟨.debug, "generated " ++ record.name ++ " (" ++ toString record.fields.length ++ " fields, " ++
    toString lines.length ++ " lines)"⟩

/-- The events of records in turn, and whether the run goes on behind them. -/
def classEvents (settings : Settings) : List Record → List Event × Bool
  | [] => ([], true)
  | record :: rest =>
      match settings.classLines record with
      | .ok lines =>
          let (events, goesOn) := classEvents settings rest
          (classEvent record lines :: events, goesOn)
      | .error unsupported =>
          if settings.keepGoing then
            let (events, goesOn) := classEvents settings rest
            (⟨.warn, "skipping " ++ record.name ++ ": " ++ unsupported.message⟩ :: events, goesOn)
          else ([], false)

/-- The events of `singleFile`. -/
def fileEvents (catalog : Catalog) (settings : Settings) : List Event :=
  (classEvents settings catalog.records).1

/-- The events of modules in turn. -/
def moduleListEvents (catalog : Catalog) (settings : Settings) : List String → List Event
  | [] => []
  | name :: rest =>
      let (events, goesOn) := classEvents settings (catalog.recordsOf name)
      if goesOn then
        events ++ ⟨.info, "module " ++ moduleFile name⟩ :: moduleListEvents catalog settings rest
      else events

/-- The events of `modules`. -/
def moduleEvents (catalog : Catalog) (settings : Settings) : List Event :=
  catalog.moduleListEvents settings catalog.moduleNames

end Catalog

end Recordsmith
