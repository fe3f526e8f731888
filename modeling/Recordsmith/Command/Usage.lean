/-
# Recordsmith.Command.Usage — help, version and completion scripts
-/
import Recordsmith.Command.Invocation

namespace Recordsmith.Command

set_option autoImplicit false

/-- The name of the program. -/
def programName : String := "djc"

/-- The line printed for the version. -/
def versionText : String := programName ++ " 0.1.0\n"

/-- The text printed for help. -/
def helpText : String :=
  "\n".intercalate
    [ "Generate Dart JSON classes from record definitions",
      "",
      "Usage: " ++ programName ++ " [-v] generate [OPTIONS] <PATHS>...",
      "       " ++ programName ++ " [-v] check [--format text|json] <PATHS>...",
      "       " ++ programName ++ " completions <SHELL>",
      "",
      "Options of generate:",
      "  -o, --output <OUTPUT>     Destination file, or directory with --mods (\"-\" for stdout)",
      "      --mods                Write one Dart file per input file",
      "      --no-accessors        Omit the fields list and getAttr/setAttr [alias: --no-meta]",
      "      --no-value-semantics  Omit operator ==, hashCode and copy [alias: --no-data]",
      "      --no-ser              Omit JSON and map methods (not supported)",
      "      --include <NAME>...   Records to generate (all when not given)",
      "      --exclude <NAME>...   Records to leave out",
      "      --keep-going          Skip records that fail to generate instead of aborting",
      "      --indent <INDENT>     Spaces per indent level, 0 for tabs [default: 2]",
      "",
      "General options:",
      "  -v, --verbose             Increase log verbosity (-v info, -vv debug, -vvv trace)",
      "  -h, --help                Print help",
      "  -V, --version             Print version",
      "" ]

/-- The names of the commands in one text. -/
def commandList : String := " ".intercalate commandNames

/-- The script that completes the names of the commands in a shell. -/
def completionScript : Shell → String
  | .bash => "complete -W \"" ++ commandList ++ "\" " ++ programName ++ "\n"
  | .elvish =>
      "set edit:completion:arg-completer[" ++ programName ++ "] = \x7b|@words| put " ++
        commandList ++ " \x7d\n"
  | .fish => "complete -c " ++ programName ++ " -f -a \"" ++ commandList ++ "\"\n"
  | .powershell =>
      "Register-ArgumentCompleter -Native -CommandName '" ++ programName ++
        "' -ScriptBlock \x7b '" ++ commandList ++ "' -split ' ' \x7d\n"
  | .zsh =>
      "#compdef " ++ programName ++ "\ncompadd " ++ commandList ++ "\n"

end Recordsmith.Command
