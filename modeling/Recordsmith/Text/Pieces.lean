/-
# Recordsmith.Text.Pieces — texts cut at a character

The steps of a path are cut at slashes, the groups of a number at underscores,
the lines of a message at line feeds. A text always has a first piece, so the
pieces are that one and the list of the others.
-/
namespace Recordsmith.Text

set_option autoImplicit false

/-- The pieces of a text between the places where `mark` stands. -/
def pieces (mark : Char) : List Char → List Char × List (List Char)
  | [] => ([], [])
  | c :: rest =>
      let (first, others) := pieces mark rest
      if c = mark then ([], first :: others) else (c :: first, others)

/-- The first line of a text, and the lines behind it. -/
def lines (text : String) : String × List String :=
  let (first, others) := pieces '\n' text.toList
  (String.ofList first, others.map String.ofList)

end Recordsmith.Text
