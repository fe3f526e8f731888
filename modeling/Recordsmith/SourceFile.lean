/-
# Recordsmith.SourceFile — generated Dart files

A file starts with a line that says it is generated, the two imports that every
file needs, and the imports added to it; then come the classes, each with an
empty line behind it. `SourceFile.support` is the file that all others import.
-/
import Recordsmith.Layout.LineBuilder

namespace Recordsmith

set_option autoImplicit false

/-- The content of a file to write, and where it goes in the output directory. -/
structure GeneratedFile where
  path : String
  content : String
deriving DecidableEq, Repr

/-- A Dart file: its imports behind the usual ones, and the lines of its classes. -/
structure SourceFile where
  imports : List String := []
  classes : List (List String) := []
deriving DecidableEq, Repr

namespace SourceFile

/-- The first line of every file. -/
def header : String := "// generated by dartjsonclass"

/-- The name of the file that all others import. -/
def supportPath : String := "jsonbase.dart"

/-- What every file imports. -/
def standardImports : List String := ["dart:convert", "./" ++ supportPath]

/-- An import line. -/
def importLine (uri : String) : String :=
  "import '" ++ uri ++ "';"

/-- Whether there is no class. -/
def isEmpty (file : SourceFile) : Bool :=
  file.classes.isEmpty

/-- The text of a file. -/
def render (file : SourceFile) : String :=
  let preamble :=
    ((({} : LineBuilder).line header).lines
      ((standardImports ++ file.imports).map importLine)).blank
  (file.classes.foldl (fun builder lines => (builder.lines lines).blank) preamble).text

/-- The lines of the support file: the interface of all classes, and the comparisons
of containers that they use. -/
def supportLines : List String :=
  [ header,
    "",
    "abstract class JsonBase \x7b",
    "  Map<String, dynamic> toMap();",
    "\x7d",
    "",
    "bool listEquals<T>(List<T>? a, List<T>? b) \x7b",
    "  if (identical(a, b)) return true;",
    "  if (a == null || b == null || a.length != b.length) return false;",
    "  for (var i = 0; i < a.length; i++) \x7b",
    "    if (a[i] != b[i]) return false;",
    "  \x7d",
    "  return true;",
    "\x7d",
    "",
    "bool mapEquals<K, V>(Map<K, V>? a, Map<K, V>? b) \x7b",
    "  if (identical(a, b)) return true;",
    "  if (a == null || b == null || a.length != b.length) return false;",
    "  for (final key in a.keys) \x7b",
    "    if (!b.containsKey(key) || a[key] != b[key]) return false;",
    "  \x7d",
    "  return true;",
    "\x7d" ]

/-- The file that all others import. -/
def support : GeneratedFile :=
  ⟨supportPath, (({} : LineBuilder).lines supportLines).text⟩

end SourceFile

end Recordsmith
