/-
# Recordsmith.Layout.LineBuilder — files line by line

A builder holds the text so far and the depth of the next line. Every line ends
in a line feed, and an empty line gets no indent.
-/
import Recordsmith.Layout.Indent

namespace Recordsmith

set_option autoImplicit false

/-- A text that grows by lines. -/
structure LineBuilder where
  indent : Indent := .standard
  depth : Nat := 0
  text : String := ""

namespace LineBuilder

/-- Add a line at the current depth. -/
def line (builder : LineBuilder) (content : String) : LineBuilder :=
  let front := if content = "" then "" else builder.indent.ofDepth builder.depth
  { builder with text := builder.text ++ front ++ content ++ "\n" }

/-- Add lines at the current depth. -/
def lines (builder : LineBuilder) (contents : List String) : LineBuilder :=
  contents.foldl line builder

/-- Add an empty line. -/
def blank (builder : LineBuilder) : LineBuilder :=
  { builder with text := builder.text ++ "\n" }

/-- Go one level deeper. -/
def deeper (builder : LineBuilder) : LineBuilder :=
  { builder with depth := builder.depth + 1 }

/-- Go one level back, if there is one. -/
def shallower (builder : LineBuilder) : LineBuilder :=
  { builder with depth := builder.depth - 1 }

end LineBuilder

end Recordsmith
