/-
# Recordsmith.Command.Options — options and arguments

The rules by which a list of words is split into options and arguments, whatever
the options are:

* a word is an *option* if it starts with `-` and is longer than that; `--` ends
  the options, and all words behind it are arguments;
* `--name` and `--name=value`, `-n`, `-n value`, `-nvalue` and `-n=value`; short
  options without values may share a word;
* an option with a value takes it from its own word or from the next word, if
  that is no option; one with many values takes all words up to the next option;
* a flag or an option with one value may be given once.

Words are dealt with from left to right. The first fault ends this, and so does
a request for help or for the version.
-/
namespace Recordsmith.Command

set_option autoImplicit false

/-- What an option does. -/
inductive OptionKind where
  | help
  | version
  | count
  | flag
  | one
  | many
deriving DecidableEq, Repr

/-- An option: its name, other spellings of the name, its letter, and the values it takes. -/
structure OptionSpec where
  name : String
  aliases : List String := []
  letter : Option Char := none
  kind : OptionKind
  accepts : String → Bool := fun _ => true

/-- The arguments that are no options: what they are called, which values they may
have, and whether there may be more than one. At least one is needed. -/
structure ArgumentSpec where
  name : String
  accepts : String → Bool := fun _ => true
  repeats : Bool

/-- What is wrong with a command line. -/
inductive UsageError where
  | unknownOption (text : String)
  | unexpectedValue (option : String)
  | missingValue (option : String)
  | invalidValue (name value : String)
  | repeatedOption (option : String)
  | unexpectedArgument (text : String)
  | missingArgument (name : String)
  | unknownCommand (name : String)
  | missingCommand
deriving DecidableEq, Repr

/-- The sentence shown for a fault. -/
def UsageError.message : UsageError → String
  | .unknownOption text => "unexpected argument '" ++ text ++ "' found"
  | .unexpectedValue option => "unexpected value for '--" ++ option ++ "' found"
  | .missingValue option => "a value is required for '--" ++ option ++ "' but none was supplied"
  | .invalidValue name value => "invalid value '" ++ value ++ "' for '" ++ name ++ "'"
  | .repeatedOption option => "the argument '--" ++ option ++ "' cannot be used multiple times"
  | .unexpectedArgument text => "unexpected argument '" ++ text ++ "' found"
  | .missingArgument name => "the required argument <" ++ name ++ "> was not provided"
  | .unknownCommand name => "unrecognized subcommand '" ++ name ++ "'"
  | .missingCommand => "a subcommand is required but none was provided"

/-- Why the words of a command line are not carried out. -/
inductive Stop where
  | usage (fault : UsageError)
  | help
  | version
deriving DecidableEq, Repr

/-- A part of a command line. -/
inductive Occurrence where
  | option (spec : OptionSpec) (values : List String)
  | argument (value : String)
  | fault (fault : UsageError)

/-- An option that waits for values, with those it has. -/
abbrev Waiting := Option (OptionSpec × List String)

/-- The occurrence of an option that waits no longer. -/
def Waiting.finish : Waiting → List Occurrence
  | none => []
  | some (spec, values) => [.option spec values]

/-- Whether a word is a value and not an option. -/
def isValue (word : String) : Bool :=
  match word.toList with
  | '-' :: _ :: _ => false
  | _ => true

/-- Whether the option takes values. -/
def OptionSpec.takesValues (spec : OptionSpec) : Bool :=
  spec.kind = .one ∨ spec.kind = .many

/-- The option with this name. -/
def findName? (specs : List OptionSpec) (name : String) : Option OptionSpec :=
  specs.find? fun spec => spec.name = name ∨ name ∈ spec.aliases

/-- The option with this letter. -/
def findLetter? (specs : List OptionSpec) (letter : Char) : Option OptionSpec :=
  specs.find? fun spec => spec.letter = some letter

/-- A name and the value attached to it by `=`. -/
def splitAttached (text : List Char) : String × Option String :=
  let name := String.ofList (text.takeWhile (· ≠ '='))
  match text.dropWhile (· ≠ '=') with
  | [] => (name, none)
  | _ :: value => (name, some (String.ofList value))

/-- The occurrences in a word behind its `--`, and the option that waits behind it. -/
def readLong (specs : List OptionSpec) (text : List Char) : List Occurrence × Waiting :=
  let (name, value) := splitAttached text
  match findName? specs name, value with
  | none, _ => ([.fault (.unknownOption ("--" ++ name))], none)
  | some spec, none =>
      if spec.takesValues then ([], some (spec, [])) else ([.option spec []], none)
  | some spec, some value =>
      if spec.takesValues then ([.option spec [value]], none)
      else ([.fault (.unexpectedValue spec.name)], none)

/-- The occurrences in a word behind its `-`, and the option that waits behind it. -/
def readShort (specs : List OptionSpec) : List Char → List Occurrence × Waiting
  | [] => ([], none)
  | letter :: rest =>
      match findLetter? specs letter with
      | none => ([.fault (.unknownOption (String.ofList ['-', letter]))], none)
      | some spec =>
          if spec.takesValues then
            match rest with
            | [] => ([], some (spec, []))
            | '=' :: value => ([.option spec [String.ofList value]], none)
            | value => ([.option spec [String.ofList value]], none)
          else
            let (occurrences, waiting) := readShort specs rest
            (.option spec [] :: occurrences, waiting)

/-- The occurrences in an option word, and the option that waits behind it. -/
def readOption (specs : List OptionSpec) (word : String) : List Occurrence × Waiting :=
  match word.toList with
  | '-' :: '-' :: text => readLong specs text
  | '-' :: text => readShort specs text
  | _ => ([], none)

/-- The occurrences in a list of words. -/
def scan (specs : List OptionSpec) : Waiting → List String → List Occurrence
  | waiting, [] => waiting.finish
  | waiting, word :: rest =>
      if isValue word then
        match waiting with
        | none => .argument word :: scan specs none rest
        | some (spec, values) =>
            if spec.kind = .many then scan specs (some (spec, values ++ [word])) rest
            else .option spec (values ++ [word]) :: scan specs none rest
      else if word = "--" then waiting.finish ++ rest.map .argument
      else
        let (occurrences, waiting') := readOption specs word
        waiting.finish ++ occurrences ++ scan specs waiting' rest

/-- The options and arguments dealt with so far. -/
structure Parsed where
  options : List (String × List String) := []
  arguments : List String := []
deriving DecidableEq, Repr

namespace Parsed

/-- How often an option was given. -/
def count (parsed : Parsed) (name : String) : Nat :=
  (parsed.options.filter fun (other, _) => other = name).length

/-- Whether an option was given. -/
def has (parsed : Parsed) (name : String) : Bool :=
  0 < parsed.count name

/-- All values given to an option. -/
def values (parsed : Parsed) (name : String) : List String :=
  (parsed.options.filter fun (other, _) => other = name).flatMap Prod.snd

/-- Take note of an option. -/
def add (parsed : Parsed) (name : String) (values : List String) : Parsed :=
  { parsed with options := parsed.options ++ [(name, values)] }

end Parsed

/-- The first value that an option does not accept, as a fault. -/
def refused? (spec : OptionSpec) (values : List String) : Option UsageError :=
  (values.find? fun value => !spec.accepts value).map (.invalidValue spec.name)

/-- Deal with an option. -/
def takeOption (parsed : Parsed) (spec : OptionSpec) (values : List String) :
    Except Stop Parsed :=
  match spec.kind with
  | .help => .error .help
  | .version => .error .version
  | .count => .ok (parsed.add spec.name [])
  | .flag =>
      if parsed.has spec.name then .error (.usage (.repeatedOption spec.name))
      else .ok (parsed.add spec.name [])
  | .one =>
      if values.length ≠ 1 then .error (.usage (.missingValue spec.name))
      else if parsed.has spec.name then .error (.usage (.repeatedOption spec.name))
      else
        match refused? spec values with
        | some fault => .error (.usage fault)
        | none => .ok (parsed.add spec.name values)
  | .many =>
      if values = [] then .error (.usage (.missingValue spec.name))
      else
        match refused? spec values with
        | some fault => .error (.usage fault)
        | none => .ok (parsed.add spec.name values)

/-- Deal with an argument. -/
def takeArgument (spec : ArgumentSpec) (parsed : Parsed) (value : String) :
    Except Stop Parsed :=
  if !spec.repeats && !parsed.arguments.isEmpty then
    .error (.usage (.unexpectedArgument value))
  else if spec.accepts value then
    .ok { parsed with arguments := parsed.arguments ++ [value] }
  else .error (.usage (.invalidValue spec.name value))

/-- Deal with a part of a command line. -/
def take (argument : ArgumentSpec) (parsed : Parsed) : Occurrence → Except Stop Parsed
  | .option spec values => takeOption parsed spec values
  | .argument value => takeArgument argument parsed value
  | .fault fault => .error (.usage fault)

/-- Deal with a list of words. -/
def parseWords (specs : List OptionSpec) (argument : ArgumentSpec) (words : List String) :
    Except Stop Parsed :=
  match (scan specs none words).foldlM (take argument) {} with
  | .error stop => .error stop
  | .ok parsed =>
      if parsed.arguments.isEmpty then .error (.usage (.missingArgument argument.name))
      else .ok parsed

end Recordsmith.Command
