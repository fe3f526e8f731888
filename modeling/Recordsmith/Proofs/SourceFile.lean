/-
# Recordsmith.Proofs.SourceFile — the text of a file by its parts

A file is a row of *blocks*, lines with an empty line behind them: one for the
first line and the imports, and one for each class (`render_eq`). So the text of
every class stands in its file without a gap (`exists_render_eq`).
-/
import Recordsmith.SourceFile

namespace Recordsmith

set_option autoImplicit false

namespace LineBuilder

theorem line_eq {builder : LineBuilder} (outermost : builder.depth = 0) (content : String) :
    builder.line content = { builder with text := builder.text ++ (content ++ "\n") } := by
  have unindented : builder.indent.ofDepth builder.depth = "" := by
    rw [outermost]
    rfl
  rw [line, unindented, ite_self, String.append_empty, String.append_assoc]

theorem lines_eq {builder : LineBuilder} (outermost : builder.depth = 0)
    (contents : List String) :
    builder.lines contents =
      { builder with text := builder.text ++ String.join (contents.map (· ++ "\n")) } := by
  induction contents generalizing builder with
  | nil => simp [lines]
  | cons content rest ih =>
    have once := line_eq outermost content
    have still : (builder.line content).depth = 0 := by
      rw [once]
      exact outermost
    have later := ih still
    rw [lines] at later ⊢
    rw [List.foldl_cons, later, once, List.map_cons, String.join_cons, String.append_assoc]

end LineBuilder

namespace SourceFile

/-- Lines with an empty line behind them. -/
def block (lines : List String) : String :=
  String.join (lines.map (· ++ "\n")) ++ "\n"

/-- What stands in front of the classes. -/
def heading (imports : List String) : List String :=
  header :: (standardImports ++ imports).map importLine

theorem text_blocks {builder : LineBuilder} (outermost : builder.depth = 0)
    (classes : List (List String)) :
    (classes.foldl (fun builder lines => (builder.lines lines).blank) builder).text =
      builder.text ++ String.join (classes.map block) := by
  induction classes generalizing builder with
  | nil => simp
  | cons lines rest ih =>
    have added := LineBuilder.lines_eq outermost lines
    have still : (builder.lines lines).blank.depth = 0 := by
      rw [added]
      exact outermost
    rw [List.foldl_cons, ih still, LineBuilder.blank, added, List.map_cons, String.join_cons,
      block, ← String.append_assoc, ← String.append_assoc]

/-- A file is its heading and its classes, a block each. -/
theorem render_eq (file : SourceFile) :
    file.render = String.join ((heading file.imports :: file.classes).map block) := by
  have started : (({} : LineBuilder).line header).lines
      ((standardImports ++ file.imports).map importLine) =
        ({} : LineBuilder).lines (heading file.imports) := rfl
  rw [render, started, LineBuilder.lines_eq rfl, text_blocks rfl, LineBuilder.blank,
    String.empty_append, List.map_cons, String.join_cons]
  rfl

theorem render_eq_append (file : SourceFile) :
    file.render = block (heading file.imports) ++ String.join (file.classes.map block) := by
  rw [render_eq, List.map_cons, String.join_cons]

theorem exists_render_eq {file : SourceFile} {lines : List String}
    (member : lines ∈ file.classes) :
    ∃ before after, file.render = before ++ block lines ++ after := by
  obtain ⟨front, back, split⟩ := List.append_of_mem member
  refine ⟨String.join ((heading file.imports :: front).map block), String.join (back.map block), ?_⟩
  rw [render_eq, split]
  simp only [List.map_cons, List.map_append, String.join_cons, String.join_append,
    String.append_assoc]

end SourceFile

end Recordsmith
