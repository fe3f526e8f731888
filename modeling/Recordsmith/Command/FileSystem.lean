/-
# Recordsmith.Command.FileSystem — where files are read and written

The commands need four operations on files. They are given by a class over a
monad, so that the same commands run on the files of the machine and on a
`FileTree`, a file system that is a value. `createAll` is built from the four.

On a `FileTree` a path is followed part by part, from the root if it starts with a
slash and from the working directory otherwise; it must lead through directories.
A path with a slash at its end can only mean a directory. The root is its own
parent. Names and paths are bounded in length.
-/
import Recordsmith.Path

namespace Recordsmith

set_option autoImplicit false

/-- Why an operation on files failed. -/
inductive FileError where
  | notFound
  | alreadyExists
  | notDirectory
  | isDirectory
  | nameTooLong
  | other (description : String)
deriving DecidableEq, Repr

/-- The sentence shown for a failed operation. -/
def FileError.message : FileError → String
  | .notFound => "No such file or directory (os error 2)"
  | .alreadyExists => "File exists (os error 17)"
  | .notDirectory => "Not a directory (os error 20)"
  | .isDirectory => "Is a directory (os error 21)"
  | .nameTooLong => "File name too long (os error 36)"
  | .other description => description

/-- What a path leads to. -/
inductive FileKind where
  | file
  | directory
deriving DecidableEq, Repr

/-- The operations on files that the commands need. -/
class FileSystem (m : Type → Type) where
  /-- The content of a file. -/
  readText : String → m (Except FileError String)
  /-- What is at a path. -/
  kind? : String → m (Option FileKind)
  /-- Make a directory in one that exists. -/
  makeDirectory : String → m (Except FileError Unit)
  /-- Give a file a content, making the file if need be. -/
  writeText : String → String → m (Except FileError Unit)

namespace FileSystem

variable {m : Type → Type} [Monad m] [FileSystem m]

/-- A directory that could not be made is no failure if it is there. -/
def unlessDirectory (path : String) (error : FileError) : m (Except FileError Unit) := do
  if (← kind? path) = some .directory then return .ok () else return .error error

/-- Make a directory and those above it; the list has the directory first. -/
def createAll : List String → m (Except FileError Unit)
  | [] => return .ok ()
  | path :: above => do
      match ← makeDirectory path with
      | .ok () => return .ok ()
      | .error .notFound =>
          match ← createAll above with
          | .error error => return .error error
          | .ok () =>
              match ← makeDirectory path with
              | .ok () => return .ok ()
              | .error error => unlessDirectory path error
      | .error error => unlessDirectory path error

end FileSystem

/-- A file with its content, or a directory. -/
inductive FileItem where
  | file (content : String)
  | directory
deriving DecidableEq, Repr

/-- A file system: the items by the names on the way from the root to them, and the
directory that paths are followed from. -/
structure FileTree where
  items : List (List String × FileItem) := []
  workingDirectory : List String := []
deriving DecidableEq, Repr

namespace FileTree

/-- How many bytes a name may have. -/
def maxNameSize : Nat := 255

/-- How many bytes a path may have. -/
def maxPathSize : Nat := 4095

/-- The place is the working directory or above it, as the root always is. -/
def isAbove (tree : FileTree) (place : List String) : Bool :=
  place.isPrefixOf tree.workingDirectory

/-- The item at a place. The working directory and those above it are there. -/
def get? (tree : FileTree) (place : List String) : Option FileItem :=
  if tree.isAbove place then some .directory else tree.items.lookup place

/-- Put an item at a place, in place of one that may be there. -/
def put (tree : FileTree) (place : List String) (item : FileItem) : FileTree :=
  { tree with items := insert tree.items }
where
  insert : List (List String × FileItem) → List (List String × FileItem)
    | [] => [(place, item)]
    | (other, old) :: rest =>
        if other = place then (place, item) :: rest else (other, old) :: insert rest

/-- Follow the parts of a path through directories, from a directory on. -/
def walk (tree : FileTree) (here : List String) : List (List Char) → Except FileError (List String)
  | [] => .ok here
  | part :: rest =>
      if !Path.isStep part then walk tree here rest
      else if part = ['.', '.'] then walk tree here.dropLast rest
      else
        let name := String.ofList part
        let place := here ++ [name]
        if maxNameSize < name.utf8ByteSize then .error .nameTooLong
        else match tree.get? place with
        | none => .error .notFound
        | some (.file _) => .error .notDirectory
        | some .directory => walk tree place rest

/-- Where a path leads: the directory and the name in it, if the path ends in one,
and whether a slash follows. -/
structure Target where
  directory : List String
  name : Option String
  slash : Bool

/-- Follow a path up to its last part. -/
def locate (tree : FileTree) (path : String) : Except FileError Target :=
  let (first, others) := Path.parts path.toList
  if maxPathSize < path.utf8ByteSize then .error .nameTooLong
  else if path = "" then .error .notFound
  else
    let start := if first = [] then [] else tree.workingDirectory
    let kept := ((first :: others).reverse.dropWhile (· = [])).reverse
    let last := String.ofList (kept.getLast?.getD [])
    let slash := kept.length < others.length + 1
    match tree.walk start kept.dropLast with
    | .error error => .error error
    | .ok directory =>
        if last = "" ∨ last = "." then .ok ⟨directory, none, slash⟩
        else if last = ".." then .ok ⟨directory.dropLast, none, slash⟩
        else if maxNameSize < last.utf8ByteSize then .error .nameTooLong
        else .ok ⟨directory, some last, slash⟩

/-- What is at a path. -/
def kind? (tree : FileTree) (path : String) : Option FileKind :=
  match tree.locate path with
  | .error _ => none
  | .ok ⟨_, none, _⟩ => some .directory
  | .ok ⟨directory, some name, slash⟩ =>
      match tree.get? (directory ++ [name]) with
      | none => none
      | some .directory => some .directory
      | some (.file _) => if slash then none else some .file

/-- The content of the file at a path. -/
def readText (tree : FileTree) (path : String) : Except FileError String :=
  match tree.locate path with
  | .error error => .error error
  | .ok ⟨_, none, _⟩ => .error .isDirectory
  | .ok ⟨directory, some name, slash⟩ =>
      match tree.get? (directory ++ [name]) with
      | none => .error .notFound
      | some .directory => .error .isDirectory
      | some (.file content) => if slash then .error .notDirectory else .ok content

/-- Make a directory in one that exists. -/
def makeDirectory (tree : FileTree) (path : String) : Except FileError FileTree :=
  match tree.locate path with
  | .error error => .error error
  | .ok ⟨_, none, _⟩ => .error .alreadyExists
  | .ok ⟨directory, some name, _⟩ =>
      match tree.get? (directory ++ [name]) with
      | some _ => .error .alreadyExists
      | none => .ok (tree.put (directory ++ [name]) .directory)

/-- Give the file at a path a content, making the file if need be. -/
def writeText (tree : FileTree) (path content : String) : Except FileError FileTree :=
  match tree.locate path with
  | .error error => .error error
  | .ok ⟨_, none, _⟩ => .error .isDirectory
  | .ok ⟨directory, some name, slash⟩ =>
      let place := directory ++ [name]
      if slash ∨ tree.get? place = some .directory then .error .isDirectory
      else .ok (tree.put place (.file content))

/-- Carry out a change; a failed one leaves the tree as it is. -/
def change (operation : FileTree → Except FileError FileTree) :
    StateM FileTree (Except FileError Unit) := fun tree =>
  match operation tree with
  | .error error => (.error error, tree)
  | .ok tree => (.ok (), tree)

instance : FileSystem (StateM FileTree) where
  readText path := fun tree => (tree.readText path, tree)
  kind? path := fun tree => (tree.kind? path, tree)
  makeDirectory path := change fun tree => tree.makeDirectory path
  writeText path content := change fun tree => tree.writeText path content

/-- The place of a path that only leads downwards from the working directory. -/
def placeOf (tree : FileTree) (path : String) : List String :=
  let (first, others) := Path.parts path.toList
  tree.workingDirectory ++ ((first :: others).filter Path.isStep).map String.ofList

/-- Put directories at a place and above it where there is nothing. -/
def ensureDirectories (tree : FileTree) (place : List String) : FileTree :=
  (List.range place.length).foldl
    (fun tree count =>
      let directory := place.take (count + 1)
      if (tree.get? directory).isSome then tree else tree.put directory .directory)
    tree

/-- The tree with these directories and files in the working directory, and the directories
above them. -/
def ofContents (workingDirectory directories : List String) (files : List (String × String)) :
    FileTree :=
  let tree := directories.foldl (fun tree path => tree.ensureDirectories (tree.placeOf path))
    { workingDirectory }
  files.foldl
    (fun tree (path, content) =>
      let place := tree.placeOf path
      (tree.ensureDirectories place.dropLast).put place (.file content))
    tree

/-- The files below the working directory that are new or have another content than
in an earlier tree. -/
def changedFiles (before after : FileTree) : List (String × String) :=
  after.items.filterMap fun (place, item) =>
    match item with
    | .directory => none
    | .file content =>
        if before.get? place = some (.file content) ∨
            after.workingDirectory.isPrefixOf place = false then none
        else some ("/".intercalate (place.drop after.workingDirectory.length), content)

end FileTree

end Recordsmith
