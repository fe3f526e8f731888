/-
# Recordsmith.Command.Session — a run of the program

`run` carries out a command line over any `FileSystem`. Its `Outcome` holds all
that the run shows: standard output, events, the report at the end, and the
messages of a failure, the outermost first. Files are written only after all
code has been generated, so a run that fails before that changes nothing.

The exit code is 0 for success, 1 for a failure and for a check that found
errors, and 2 for a command line that is wrong.
-/
import Recordsmith.Command.FileSystem
import Recordsmith.Command.Report
import Recordsmith.Command.Usage

namespace Recordsmith.Command

set_option autoImplicit false

/-- What a run shows. -/
structure Outcome where
  exit : Nat := 0
  stdout : String := ""
  events : List Event := []
  report : List String := []
  errors : List String := []
deriving DecidableEq, Repr

namespace Outcome

/-- A run that failed. -/
def failure (events : List Event) (errors : List String) : Outcome where
  exit := 1
  events := events
  errors := errors

/-- A run that only printed a text. -/
def printed (text : String) : Outcome where
  stdout := text

/-- A run that was not started. -/
def misuse (fault : UsageError) : Outcome where
  exit := 2
  errors := [fault.message]

/-- Leave out the events below a threshold. -/
def showing (threshold : Threshold) (outcome : Outcome) : Outcome :=
  { outcome with events := outcome.events.filter fun event => threshold.admits event.level }

/-- The lines that events start, with their levels. -/
def eventLines (outcome : Outcome) : List (Level × String) :=
  outcome.events.map fun event => (event.level, (Text.lines event.shown).1)

/-- The lines of the error stream that no event starts: the further lines of messages
with a line feed in them, then the report. -/
def otherLines (outcome : Outcome) : List String :=
  (outcome.events.flatMap fun event => (Text.lines event.shown).2) ++
    outcome.report.flatMap fun line => (Text.lines line).1 :: (Text.lines line).2

end Outcome

/-- Where generated code goes. -/
inductive Destination where
  | stdout
  | file (path : String)
  | modules (directory : String)
deriving DecidableEq, Repr

/-- How code is generated, from the options. -/
def GenerateArgs.settings (args : GenerateArgs) : Settings where
  options := { accessors := !args.noAccessors, valueSemantics := !args.noValueSemantics }
  indent := if args.indent = 0 then .tab else .spaces args.indent
  keepGoing := args.keepGoing

/-- Which records are wanted, from the options. -/
def GenerateArgs.filter (args : GenerateArgs) : Filter where
  included := args.included
  excluded := args.excluded

/-- Where code goes, from the options; some options exclude each other. -/
def GenerateArgs.destination (args : GenerateArgs) : Except String Destination :=
  if args.noSerialization then
    .error "serialization methods cannot be omitted; drop --no-ser"
  else if args.output = "-" then
    if args.modules then .error "--mods needs an output directory, not stdout" else .ok .stdout
  else if args.modules then .ok (.modules args.output)
  else .ok (.file args.output)

section Running

variable {m : Type → Type} [Monad m] [FileSystem m]

/-- A schema error ends a run; the first line of its message is shown. -/
def schemaFailure (events : List Event) (cause : SchemaError) : Outcome :=
  .failure events [(Text.lines cause.message).1]

/-- Read a schema file. -/
def openSchema (path : String) : m (Except SchemaError SchemaFile) := do
  match Format.ofPath? path with
  | none => return .error (.unsupportedFile path)
  | some format =>
      match ← FileSystem.readText path with
      | .error _ => return .error (.unreadable path)
      | .ok content => return SchemaFile.parse content format path

/-- Read schema files and add their wanted records to a catalog. -/
def loadFrom (filter : Filter) (catalog : Catalog) (events : List Event) :
    List String → m (List Event × Except SchemaError Catalog)
  | [] =>
      return (events ++ [⟨.info, "loaded " ++ toString catalog.size ++ " records"⟩], .ok catalog)
  | path :: rest => do
      match ← openSchema path with
      | .error cause => return (events, .error cause)
      | .ok file =>
          let events :=
            events ++ [⟨.debug, path ++ ": " ++ toString file.records.length ++ " records"⟩]
          match catalog.addFile file filter with
          | (_, .error cause) => return (events, .error cause)
          | (catalog, .ok ()) => loadFrom filter catalog events rest

/-- Read schema files into a catalog. -/
def load (paths : List String) (filter : Filter) :
    m (List Event × Except SchemaError Catalog) :=
  loadFrom filter .empty [] paths

/-- Write a file and make the directories above it. -/
def writeFile (path content : String) : m (List Event × Except (List String) Unit) := do
  let parent := (Path.parent? path).getD ""
  match ← FileSystem.createAll (Path.lineage parent) with
  | .error error => return ([], .error ["Failed to create " ++ parent, error.message])
  | .ok () =>
      let events := [⟨.info, "writing " ++ path⟩]
      match ← FileSystem.writeText path content with
      | .error error => return (events, .error ["Failed to write " ++ path, error.message])
      | .ok () => return (events, .ok ())

/-- Write files one after the other. -/
def writeFiles : List GeneratedFile → m (List Event × Except (List String) Unit)
  | [] => return ([], .ok ())
  | file :: rest => do
      match ← writeFile file.path file.content with
      | (events, .error errors) => return (events, .error errors)
      | (events, .ok ()) =>
          let (later, result) ← writeFiles rest
          return (events ++ later, result)

/-- The event that tells of records left out. -/
def skipEvents (generated total : Nat) : List Event :=
  if generated < total then
    [⟨.warn, toString (total - generated) ++ " of " ++ toString total ++ " records skipped"⟩]
  else []

/-- The outcome of a run that could not generate code. -/
def codegenFailure (events : List Event) (unsupported : Unsupported) : Outcome :=
  .failure events ["Failed to generate code", unsupported.message]

/-- Write the files of a run and report on it. -/
def deliver (events : List Event) (total : Nat) (records : List String)
    (files : List GeneratedFile) : m Outcome := do
  match ← writeFiles files with
  | (written, .error errors) => return .failure (events ++ written) errors
  | (written, .ok ()) =>
      return {
        events := events ++ written ++ skipEvents records.length total
        report := generateReport records.length total (files.map (·.path)) }

/-- Generate code from a catalog. -/
def generateTo (settings : Settings) (events : List Event) (catalog : Catalog) :
    Destination → m Outcome
  | .stdout => do
      let events := events ++ catalog.fileEvents settings
      match catalog.singleFile settings with
      | .error unsupported => return codegenFailure events unsupported
      | .ok generated =>
          return {
            stdout := generated.output
            events := events ++ skipEvents generated.records.length catalog.size }
  | .file path => do
      let events := events ++ catalog.fileEvents settings
      match catalog.singleFile settings with
      | .error unsupported => return codegenFailure events unsupported
      | .ok generated =>
          deliver events catalog.size generated.records [⟨path, generated.output⟩]
  | .modules directory => do
      if (← FileSystem.kind? directory) = some .file then
        return .failure events ["output " ++ directory ++ " isn't a directory"]
      else
        let events := events ++ catalog.moduleEvents settings
        match catalog.modules settings with
        | .error unsupported => return codegenFailure events unsupported
        | .ok generated =>
            deliver events catalog.size generated.records
              (generated.output.map fun file =>
                { file with path := Path.join directory file.path })

/-- Carry out `generate`. -/
def runGenerate (args : GenerateArgs) : m Outcome := do
  match args.destination with
  | .error message => return .failure [] [message]
  | .ok destination =>
      match ← load args.paths args.filter with
      | (events, .error cause) => return schemaFailure events cause
      | (events, .ok catalog) => generateTo args.settings events catalog destination

/-- Carry out `check`. -/
def runCheck (args : CheckArgs) : m Outcome := do
  match ← load args.paths {} with
  | (events, .error cause) => return schemaFailure events cause
  | (events, .ok catalog) =>
      let report := catalog.check
      return {
        exit := if report.isValid then 0 else 1
        stdout := if args.json then jsonReport report.diagnostics else ""
        events := events ++ catalog.checkEvents
        report := if args.json then [] else checkReport args.paths report }

/-- Carry out a task. -/
def runTask : Task → m Outcome
  | .generate args => runGenerate args
  | .check args => runCheck args
  | .completions shell => return .printed (completionScript shell)

/-- Carry out a command line. Unless a threshold is given, the verbosity asked for
decides which events are shown. -/
def run (threshold? : Option Threshold) (words : List String) : m Outcome := do
  match parse words with
  | .error (.usage fault) => return .misuse fault
  | .error .help => return .printed helpText
  | .error .version => return .printed versionText
  | .ok invocation =>
      let outcome ← runTask invocation.task
      return outcome.showing (threshold?.getD (.ofVerbosity invocation.verbosity))

end Running

end Recordsmith.Command
