/-
# Recordsmith.Record.Declaration — `<type> <name>` in one text

A field may be declared in one text such as `List<Item>? items`. Read from the
left it is

* any blanks;
* the type: a run of word characters, then optionally `<`, at least one
  character other than a line feed, and `>`, then blanks and a `?` if they are
  there;
* at least one blank, the name (a run of characters that are not blank), and
  blanks to the end.

Where several readings are possible, the bracket part reaches as far to the
right as it can, and a `?` belongs to the type if it can. Splitting does not
look into the type or the name: `int> a` splits nowhere, `a<b> c>` splits before
`c>`.
-/
import Recordsmith.Text.Blank
import Recordsmith.Text.WordChar

namespace Recordsmith.Declaration

open Recordsmith.Text

set_option autoImplicit false

/-- A text that is one run of characters other than blanks, between blanks. -/
def soleRun? (text : List Char) : Option (List Char) :=
  let start := trimStart text
  let run := start.takeWhile fun c => !isBlank c
  if run ≠ [] ∧ (start.dropWhile fun c => !isBlank c).all isBlank then some run else none

/-- The name behind a type that is complete: blanks, then one run. -/
def nameBehind? : List Char → Option (List Char)
  | c :: rest => if isBlank c then soleRun? rest else none
  | [] => none

/-- What belongs to a type behind its word and brackets, and the name: blanks and a
null mark if a name follows that, else nothing. -/
def finish? (text : List Char) : Option (List Char × List Char) :=
  let marked :=
    match trimStart text with
    | '?' :: behind =>
        (nameBehind? behind).map fun name => (text.takeWhile isBlank ++ ['?'], name)
    | _ => none
  marked.or ((nameBehind? text).map fun name => ([], name))

/-- Where a bracket may close within one line, the last place first: the number of
characters in front of the `>`, and the text behind it. `count` characters have been
passed, and the places among them are `found`. -/
def closings (found : List (Nat × List Char)) (count : Nat) : List Char → List (Nat × List Char)
  | [] => found
  | c :: rest =>
      if c = '\n' then found
      else closings (if c = '>' then (count, rest) :: found else found) (count + 1) rest

/-- The type and the name that a declaration consists of. -/
def split? (text : List Char) : Option (List Char × List Char) :=
  let start := trimStart text
  let word := start.takeWhile isWordChar
  if word = [] then none
  else
    match start.dropWhile isWordChar with
    | '<' :: inside =>
        (closings [] 0 inside).findSome? fun (count, behind) =>
          if count = 0 then none
          else
            (finish? behind).map fun (mark, name) =>
              (word ++ '<' :: inside.take (count + 1) ++ mark, name)
    | rest => (finish? rest).map fun (mark, name) => (word ++ mark, name)

end Recordsmith.Declaration
