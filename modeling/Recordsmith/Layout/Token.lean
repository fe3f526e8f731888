/-
# Recordsmith.Layout.Token — what is laid out

Code is laid out from a flat sequence of tokens. Texts on one line are divided
by one space each; markers say where there is no space, where a statement ends
and where a line starts. Whoever writes a block cannot know whether it stands as
a statement, so a block says `noStatementEnd` behind itself, which cancels the
`statementEnd` of the enclosing list.
-/
namespace Recordsmith

set_option autoImplicit false

/-- A text, or a marker for the layout. -/
inductive Token where
  /-- A text, divided from the text before it by one space. -/
  | text (value : String)
  /-- No space before the next text. -/
  | noSpaceBefore
  /-- A semicolon right behind what was written. -/
  | statementEnd
  /-- No semicolon for the next `statementEnd`. -/
  | noStatementEnd
  /-- A new line at the same depth. -/
  | endLine
  /-- A new line one level deeper. -/
  | indent
  /-- A new line one level shallower. -/
  | dedent
deriving DecidableEq, Repr

namespace Token

/-- Whether a token starts a line. -/
def startsLine : Token → Bool
  | .endLine | .indent | .dedent => true
  | _ => false

/-- How a token is shown when the sequence itself is printed. -/
def caption : Token → String
  | .text value => value
  | .noSpaceBefore => "<nosp>"
  | .statementEnd => ";"
  | .noStatementEnd => "<nostmt>"
  | .endLine => "<endl>"
  | .indent => "<indent>"
  | .dedent => "<dedent>"

/-- Groups of tokens with `delimiter` between them and `last` behind the last one. -/
def join (delimiter last : List Token) : List (List Token) → List Token
  | [] => []
  | [group] => group ++ last
  | group :: rest => group ++ delimiter ++ join delimiter last rest

end Token

end Recordsmith
