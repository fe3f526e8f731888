/-
# Recordsmith.Proofs.Layout.Ink — what layout keeps

The *ink* of a text is what is left of it without spaces and tabs. Layout decides
about blanks and line starts alone: the lines of a token sequence have the ink of
its texts and of the semicolons that are not cancelled, in their order
(`ink_format`). So what stands in a text stands in the lines
(`exists_line_of_text`).

The main statement, `format_keeps_content`, says what the lines of any token
sequence are made of.
-/
import Recordsmith.Proofs.Layout.Pieces

namespace Recordsmith.Layout

set_option autoImplicit false

/-- A text without its spaces and tabs. -/
def ink (text : List Char) : List Char :=
  text.filter fun c => c ≠ ' ' ∧ c ≠ '\t'

theorem ink_append (front back : List Char) : ink (front ++ back) = ink front ++ ink back :=
  List.filter_append front back

theorem ink_flatMap {α : Type} (items : List α) (text : α → List Char) :
    ink (items.flatMap text) = items.flatMap fun item => ink (text item) :=
  List.filter_flatMap

theorem ink_eq_self {text : List Char} (noSpace : ' ' ∉ text) (noTab : '\t' ∉ text) :
    ink text = text := by
  rw [ink, List.filter_eq_self]
  intro c member
  have notSpace : c ≠ ' ' := fun same => noSpace (same ▸ member)
  have notTab : c ≠ '\t' := fun same => noTab (same ▸ member)
  simp [notSpace, notTab]

/-! ## Lines -/

theorem ink_unit (indent : Indent) : ink indent.unit.toList = [] := by
  cases indent with
  | spaces width => simp [Indent.unit, ink]
  | tab => rfl

theorem ink_ofDepth (indent : Indent) (depth : Nat) : ink (indent.ofDepth depth).toList = [] := by
  rw [Indent.ofDepth, String.toList_join, ink_flatMap]
  simp [ink_unit]

/-- The ink of a line is that of its pieces. -/
theorem ink_write (indent : Indent) (line : Line) :
    ink (line.write indent).toList =
      line.content.flatMap fun piece => ink piece.written.toList := by
  rw [Line.write, String.toList_append, ink_append, ink_ofDepth, List.nil_append, Line.text,
    String.toList_join, List.flatMap_map, ink_flatMap, Line.content]
  induction line.pieces with
  | nil => rfl
  | cons piece rest ih =>
    rw [List.flatMap_cons, ih]
    cases piece with
    | gap => rfl
    | text | semicolon => rfl

/-- The ink of the lines is that of what the tokens write. -/
theorem ink_format (indent : Indent) (tokens : List Token) :
    ink ((format indent tokens).flatMap String.toList) =
      (piecesBehind [] tokens).flatMap fun piece => ink piece.written.toList := by
  rw [format_eq, List.flatMap_map, ink_flatMap, ← content_pieceLayout, List.flatMap_assoc]
  simp only [ink_write]

/-! ## Texts -/

theorem piece?_eq_text_iff {token : Token} {value : String} :
    token.piece? = some (.text value) ↔ value ≠ "" ∧ .text value = token := by
  cases token with
  | text other =>
    by_cases empty : other = ""
    · simp [Token.piece?, empty]
    · simp only [Token.piece?, empty, if_false, Option.some.injEq, Piece.text.injEq,
        Token.text.injEq]
      constructor
      · rintro rfl
        exact ⟨empty, rfl⟩
      · exact fun same => same.2.symm
  | statementEnd | noSpaceBefore | noStatementEnd | endLine | indent | dedent =>
    simp [Token.piece?]

theorem text_mem_piecesBehind_iff {value : String} {front tokens : List Token} :
    .text value ∈ piecesBehind front tokens ↔ value ≠ "" ∧ .text value ∈ tokens := by
  induction tokens generalizing front with
  | nil => simp [piecesBehind]
  | cons token rest ih =>
    have own : (if token = .statementEnd ∧ Cancelled front then none else token.piece?) =
        some (.text value) ↔ value ≠ "" ∧ .text value = token := by
      split
      · next cancelled => simp [cancelled.1]
      · exact piece?_eq_text_iff
    rw [piecesBehind, List.mem_append, Option.mem_toList, own, ih, ← and_or_left,
      List.mem_cons]

/-- What stands in a text stands in a line. -/
theorem exists_line_of_text {value : String} {tokens : List Token}
    (member : .text value ∈ tokens) {c : Char} (stands : c ∈ ink value.toList) (indent : Indent) :
    ∃ line ∈ format indent tokens, c ∈ line.toList := by
  have filled : value ≠ "" := by
    rintro rfl
    cases stands
  have kept : c ∈ ink ((format indent tokens).flatMap String.toList) := by
    rw [ink_format]
    exact List.mem_flatMap.2 ⟨_, text_mem_piecesBehind_iff.2 ⟨filled, member⟩, stands⟩
  exact List.mem_flatMap.1 (List.mem_filter.1 kept).1

/-! ## The whole layout -/

/-- **Layout loses, doubles and moves nothing.** The lines of a token sequence have depths
and pieces that do not depend on the indent.

* A line is its indent, as many units as it is deep, and what its pieces write; a blank
  line is empty.
* Without the spaces of the layout, the pieces of all lines are the texts and the
  semicolons that are not cancelled, in order. If no text has a space or tab, the lines
  without spaces and tabs are what these write.
* No space of the layout stands at the end of a line or next to another one. -/
theorem format_keeps_content (tokens : List Token) :
    ∃ lines : List Line,
      (∀ indent, format indent tokens = lines.map (Line.write indent)) ∧
      (∀ line ∈ lines, line.text = "" → ∀ indent, line.write indent = "") ∧
      lines.flatMap Line.content = piecesBehind [] tokens ∧
      ((∀ value, .text value ∈ tokens → ' ' ∉ value.toList ∧ '\t' ∉ value.toList) →
        ∀ indent, ink ((format indent tokens).flatMap String.toList) =
          (piecesBehind [] tokens).flatMap fun piece => piece.written.toList) ∧
      ∀ line ∈ lines, Spaced line.pieces := by
  refine ⟨pieceLayout tokens, fun indent => format_eq indent tokens, ?_,
    content_pieceLayout tokens, ?_, ?_⟩
  · intro line member blank indent
    obtain ⟨⟨body, made⟩, flat⟩ := eq_of_mem_pieceLines member
    have bare : line.pieces = [] := by
      rw [Line.text, made, ← lineText_eq, lineText_eq_empty_iff] at blank
      rw [made, blank]
    rw [Line.write, blank, flat bare]
    rfl
  · intro unspaced indent
    rw [ink_format, List.flatMap_congr]
    intro piece member
    cases piece with
    | text value =>
      obtain ⟨noSpace, noTab⟩ := unspaced value (text_mem_piecesBehind_iff.1 member).2
      exact ink_eq_self noSpace noTab
    | semicolon => rfl
    | gap => simp [← content_pieceLayout, Line.content] at member
  · intro line member
    obtain ⟨⟨body, made⟩, -⟩ := eq_of_mem_pieceLines member
    rw [made]
    exact (spaced_linePieces body).1

/-- An arm of a switch with a cancelled and a kept semicolon, a blank line, and a line that
is glued together. -/
def marked : List Token :=
  [.text "case", .text "1", .noSpaceBefore, .text ":", .indent, .text "\x7b\x7d", .noStatementEnd,
    .noSpaceBefore, .statementEnd, .endLine, .endLine, .text "go", .noSpaceBefore, .text "()",
    .statementEnd, .dedent, .text ""]

theorem format_keeps_content_marked :
    format .tab marked = ["case 1:", "\t\x7b\x7d", "", "\tgo();"] ∧
    ink ((format .tab marked).flatMap String.toList) = "case1:\x7b\x7dgo();".toList := by
  refine ⟨by decide, ?_⟩
  obtain ⟨-, -, -, -, kept, -⟩ := format_keeps_content marked
  have unspaced : ∀ value, .text value ∈ marked → ' ' ∉ value.toList ∧ '\t' ∉ value.toList := by
    simp [marked, or_imp, forall_and]
  rw [kept unspaced]
  decide

end Recordsmith.Layout
