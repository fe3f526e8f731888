/-
# Recordsmith.Command.Invocation — what the program is asked to do

The program has three commands: `generate`, `check` and `completions`, and `help`
for help on them. In front of a command only help, version and verbosity may be
asked for. Verbosity may be given on both sides; the number behind the command
counts if there is one.
-/
import Recordsmith.Command.Options
import Recordsmith.Text.Digits

namespace Recordsmith.Command

open Recordsmith.Text

set_option autoImplicit false

/-- The shells that completion scripts can be printed for. -/
inductive Shell where
  | bash
  | elvish
  | fish
  | powershell
  | zsh
deriving DecidableEq, Repr

namespace Shell

/-- Every shell. -/
def all : List Shell := [.bash, .elvish, .fish, .powershell, .zsh]

/-- The name of a shell. -/
def name : Shell → String
  | .bash => "bash"
  | .elvish => "elvish"
  | .fish => "fish"
  | .powershell => "powershell"
  | .zsh => "zsh"

/-- The shell with this name. -/
def ofName? (name : String) : Option Shell :=
  all.find? (·.name == name)

end Shell

/-- The options of `generate`. -/
structure GenerateArgs where
  paths : List String
  output : String
  modules : Bool
  noAccessors : Bool
  noValueSemantics : Bool
  noSerialization : Bool
  included : List String
  excluded : List String
  keepGoing : Bool
  indent : Nat
deriving DecidableEq, Repr

/-- The options of `check`. -/
structure CheckArgs where
  paths : List String
  json : Bool
deriving DecidableEq, Repr

/-- What the program is asked to do. -/
inductive Task where
  | generate (args : GenerateArgs)
  | check (args : CheckArgs)
  | completions (shell : Shell)
deriving DecidableEq, Repr

/-- A task, and how much to tell about it. -/
structure Invocation where
  verbosity : Nat
  task : Task
deriving DecidableEq, Repr

/-- A whole number from 0 to 255, with a sign if need be. -/
def byte? (text : String) : Option Nat :=
  let (negative, digits) :=
    match text.toList with
    | '-' :: digits => (true, digits)
    | '+' :: digits => (false, digits)
    | digits => (false, digits)
  if digits = [] ∨ !digits.all Char.isDigit then none
  else
    let value := ofDigits 10 digits
    if 255 < value ∨ (negative ∧ value ≠ 0) then none else some value

/-- A path is not empty. -/
def isPath (text : String) : Bool :=
  text ≠ ""

/-- The options that every command has. -/
def commonOptions : List OptionSpec :=
  [ { name := "verbose", letter := some 'v', kind := .count },
    { name := "help", letter := some 'h', kind := .help } ]

/-- The options in front of the command. -/
def programOptions : List OptionSpec :=
  { name := "version", letter := some 'V', kind := .version } :: commonOptions

/-- The options of `generate`. -/
def generateOptions : List OptionSpec :=
  [ { name := "output", letter := some 'o', kind := .one, accepts := isPath },
    { name := "mods", kind := .flag },
    { name := "no-accessors", aliases := ["no-meta"], kind := .flag },
    { name := "no-value-semantics", aliases := ["no-data"], kind := .flag },
    { name := "no-ser", kind := .flag },
    { name := "include", kind := .many },
    { name := "exclude", kind := .many },
    { name := "keep-going", kind := .flag },
    { name := "indent", kind := .one, accepts := fun text => (byte? text).isSome } ] ++
    commonOptions

/-- The options of `check`. -/
def checkOptions : List OptionSpec :=
  { name := "format", kind := .one, accepts := fun text => text = "text" ∨ text = "json" } ::
    commonOptions

/-- The schema files of `generate` and `check`. -/
def pathArguments : ArgumentSpec :=
  { name := "PATHS", accepts := isPath, repeats := true }

/-- The shell of `completions`. -/
def shellArgument : ArgumentSpec :=
  { name := "SHELL", accepts := fun text => (Shell.ofName? text).isSome, repeats := false }

/-- The options of `generate` as they were given. -/
def generateArgs (parsed : Parsed) : GenerateArgs where
  paths := parsed.arguments
  output := (parsed.values "output").head?.getD "-"
  modules := parsed.has "mods"
  noAccessors := parsed.has "no-accessors"
  noValueSemantics := parsed.has "no-value-semantics"
  noSerialization := parsed.has "no-ser"
  included := parsed.values "include"
  excluded := parsed.values "exclude"
  keepGoing := parsed.has "keep-going"
  indent := ((parsed.values "indent").head?.bind byte?).getD 2

/-- The options of `check` as they were given. -/
def checkArgs (parsed : Parsed) : CheckArgs where
  paths := parsed.arguments
  json := (parsed.values "format").head? = some "json"

/-- The names of the commands. -/
def commandNames : List String := ["generate", "check", "completions", "help"]

/-- Read the words behind a command with these options and arguments. -/
def parseTask (specs : List OptionSpec) (argument : ArgumentSpec)
    (task : Parsed → Option Task) (outer : Parsed) (words : List String) :
    Except Stop Invocation :=
  match parseWords specs argument words with
  | .error stop => .error stop
  | .ok parsed =>
      let verbosity :=
        if parsed.has "verbose" then parsed.count "verbose" else outer.count "verbose"
      match task parsed with
      | some task => .ok ⟨verbosity, task⟩
      | none => .error (.usage (.missingArgument argument.name))

/-- Read the words from the name of the command on. -/
def parseCommand (outer : Parsed) (name : String) (words : List String) :
    Except Stop Invocation :=
  match name with
  | "generate" =>
      parseTask generateOptions pathArguments (fun parsed => some (.generate (generateArgs parsed)))
        outer words
  | "check" =>
      parseTask checkOptions pathArguments (fun parsed => some (.check (checkArgs parsed)))
        outer words
  | "completions" =>
      parseTask commonOptions shellArgument
        (fun parsed => (parsed.arguments.head?.bind Shell.ofName?).map .completions) outer words
  | "help" =>
      match words with
      | [] => .error .help
      | [topic] =>
          if topic ∈ commandNames then .error .help
          else .error (.usage (.unknownCommand topic))
      | topic :: next :: _ =>
          if topic ∈ commandNames then .error (.usage (.unknownCommand next))
          else .error (.usage (.unknownCommand topic))
  | _ => .error (.usage (.unknownCommand name))

/-- Read the words in front of the command, and then the command. -/
def parseFrom (outer : Parsed) : List String → Except Stop Invocation
  | [] => .error (.usage .missingCommand)
  | word :: rest =>
      if isValue word then parseCommand outer word rest
      else if word = "--" then
        match rest with
        | [] => .error (.usage .missingCommand)
        | next :: _ => .error (.usage (.unexpectedArgument next))
      else
        match (readOption programOptions word).1.foldlM (take shellArgument) outer with
        | .error stop => .error stop
        | .ok outer => parseFrom outer rest

/-- Read a command line. -/
def parse (words : List String) : Except Stop Invocation :=
  parseFrom {} words

end Recordsmith.Command
