/-
# Recordsmith.Path — file names

A path is a text whose parts are divided by slashes. Empty parts and `.` mean
nothing, except in front, where an empty part is the root and `.` stays. The
*file name* is the last part, unless that is `..`; its *extension* is what
stands behind the last dot, unless the dot comes first, and its *stem* is the
rest. A path's *parent* is the path up to its last part.
-/
import Recordsmith.Text.Pieces

namespace Recordsmith.Path

set_option autoImplicit false

/-- The parts between the slashes, as they are written; there is at least one. -/
def parts (path : List Char) : List Char × List (List Char) :=
  Text.pieces '/' path

/-- A part behind a slash that leads elsewhere. -/
def isStep (part : List Char) : Bool :=
  part ≠ [] ∧ part ≠ ['.']

/-- The last part of a path if it names something. -/
def fileName? (path : String) : Option (List Char) :=
  let (first, others) := parts path.toList
  let last := ((others.filter isStep).getLast?).getD first
  if isStep last ∧ last ≠ ['.', '.'] then some last else none

/-- The position of the last dot of a name: what stands in front of and behind it. -/
def splitLastDot? : List Char → Option (List Char × List Char)
  | [] => none
  | c :: rest =>
      match splitLastDot? rest with
      | some (front, behind) => some (c :: front, behind)
      | none => if c = '.' then some ([], rest) else none

/-- The file name without its extension. -/
def stem? (path : String) : Option String :=
  (fileName? path).map fun name =>
    match splitLastDot? name with
    | some (c :: front, _) => String.ofList (c :: front)
    | _ => String.ofList name

/-- The extension of the file name. -/
def extension? (path : String) : Option String :=
  (fileName? path).bind fun name =>
    match splitLastDot? name with
    | some (_ :: _, behind) => some (String.ofList behind)
    | _ => none

/-- A list of parts without the parts at its end that mean nothing. -/
def dropIdle (others : List (List Char)) : List (List Char) :=
  (others.reverse.dropWhile fun part => !isStep part).reverse

/-- The path that parts make up. -/
def ofParts (first : List Char) (others : List (List Char)) : String :=
  match first, others with
  | [], [] => "/"
  | _, _ => String.ofList (first ++ others.flatMap fun part => '/' :: part)

/-- The path up to the last part; the root and the empty path have none. -/
def parent? (path : String) : Option String :=
  let (first, others) := parts path.toList
  match dropIdle others with
  | [] => if first = [] then none else some ""
  | kept => some (ofParts first (dropIdle kept.dropLast))

/-- A path and the paths above it, up to but without the empty one. Every parent is
shorter, so the length bounds their number. -/
def lineage (path : String) : List String :=
  go (path.length + 1) path
where
  go : Nat → String → List String
    | 0, _ => []
    | count + 1, path =>
        if path = "" then []
        else
          path ::
            match parent? path with
            | none => []
            | some parent => go count parent

/-- The path of a file in a directory. -/
def join (directory file : String) : String :=
  match directory.toList.getLast? with
  | none => file
  | some '/' => directory ++ file
  | some _ => directory ++ "/" ++ file

end Recordsmith.Path
