/-
# Recordsmith.Proofs.Layout.Pieces — what a line is made of

A line is its indent and a row of *pieces*: texts of tokens, semicolons, and the
spaces that layout puts between them. `lineText` keeps only what the pieces write,
`linePieces` keeps the pieces, so that a space of the layout can be told from one in
a text.

Layout neither loses nor adds, doubles or moves a piece: without the spaces, the
pieces of all lines are those that the tokens write (`content_pieceLines`). No space
stands at an end of a line or next to another one (`spaced_linePieces`). The depths
and the pieces have nothing to do with the indent (`format_eq`).
-/
import Mathlib.Data.List.Chain
import Recordsmith.Proofs.Layout.Suppression

namespace Recordsmith

set_option autoImplicit false

/-- A text, a semicolon, or a space that layout puts between two of them. -/
inductive Layout.Piece where
  | text (value : String)
  | semicolon
  | gap
deriving DecidableEq, Repr

/-- What a piece writes. -/
def Layout.Piece.written : Piece → String
  | .text value => value
  | .semicolon => ";"
  | .gap => " "

/-- The piece that a token writes, if it writes something. -/
def Token.piece? : Token → Option Layout.Piece
  | .text value => if value = "" then none else some (.text value)
  | .statementEnd => some .semicolon
  | _ => none

namespace Layout

/-- A line, of some depth. -/
structure Line where
  depth : Nat
  pieces : List Piece
deriving DecidableEq, Repr

namespace Line

/-- The line behind its indent. -/
def text (line : Line) : String :=
  String.join (line.pieces.map Piece.written)

/-- The pieces that come from tokens. -/
def content (line : Line) : List Piece :=
  line.pieces.filter (· ≠ .gap)

/-- The line with its indent. -/
def write (indent : Indent) (line : Line) : String :=
  indent.ofDepth line.depth ++ line.text

end Line

/-- No space stands at an end or next to another one. -/
structure Spaced (pieces : List Piece) : Prop where
  first : pieces.head? ≠ some .gap
  last : pieces.getLast? ≠ some .gap
  apart : pieces.IsChain fun left right => ¬ (left = .gap ∧ right = .gap)

theorem Spaced.cons {piece : Piece} (solid : piece ≠ .gap) {pieces : List Piece}
    (last : pieces.getLast? ≠ some .gap)
    (apart : pieces.IsChain fun left right => ¬ (left = .gap ∧ right = .gap)) :
    Spaced (piece :: pieces) := by
  refine ⟨by simpa using solid, ?_, ?_⟩
  · cases pieces with
    | nil => simpa using solid
    | cons next rest => rwa [List.getLast?_cons_cons]
  · rw [List.isChain_cons]
    exact ⟨fun next _ both => solid both.1, apart⟩

/-- The pieces that tokens write behind the tokens `front`. -/
def piecesBehind (front : List Token) : List Token → List Piece
  | [] => []
  | token :: rest =>
      (if token = .statementEnd ∧ Cancelled front then none else token.piece?).toList ++
        piecesBehind (front ++ [token]) rest

/-- The pieces of one line; `glued` says that no space precedes the next text. -/
def linePieces (glued : Bool) : List Token → List Piece
  | [] => []
  | .text value :: rest =>
      if value = "" then linePieces glued rest
      else (if glued then [] else [.gap]) ++ .text value :: linePieces false rest
  | .noSpaceBefore :: rest => linePieces true rest
  | .statementEnd :: rest => .semicolon :: linePieces false rest
  | _ :: rest => linePieces glued rest

/-! ## One line -/

theorem lineText_eq (glued : Bool) (tokens : List Token) :
    lineText glued tokens = String.join ((linePieces glued tokens).map Piece.written) := by
  fun_induction linePieces glued tokens with
  | case1 => rfl
  | case2 glued rest ih => simp [lineText, ih]
  | case3 glued value rest filled ih =>
    cases glued <;> simp [lineText, filled, ih, Piece.written, String.append_assoc]
  | case4 glued rest ih => simp [lineText, ih]
  | case5 glued rest ih => simp [lineText, ih, Piece.written]
  | case6 glued token rest notText notGlue notEnd ih =>
    cases token <;> simp_all [lineText]

theorem text_ne_empty_of_mem_linePieces {glued : Bool} {tokens : List Token} {piece : Piece}
    (member : piece ∈ linePieces glued tokens) : piece.written ≠ "" := by
  fun_induction linePieces glued tokens with
  | case1 => cases member
  | case2 glued rest ih => exact ih member
  | case3 glued value rest filled ih =>
    simp only [List.mem_append, List.mem_cons] at member
    rcases member with opening | rfl | later
    · cases glued <;> simp_all [Piece.written]
    · exact filled
    · exact ih later
  | case4 glued rest ih => exact ih member
  | case5 glued rest ih =>
    rcases List.mem_cons.1 member with rfl | later
    · decide
    · exact ih later
  | case6 glued token rest _ _ _ ih => exact ih member

/-- A line that writes nothing has no pieces. -/
theorem lineText_eq_empty_iff (glued : Bool) (tokens : List Token) :
    lineText glued tokens = "" ↔ linePieces glued tokens = [] := by
  rw [lineText_eq]
  cases split : linePieces glued tokens with
  | nil => simp
  | cons piece rest =>
    have filled : piece.written ≠ "" :=
      text_ne_empty_of_mem_linePieces (split ▸ List.mem_cons_self)
    simp [filled]

theorem filter_linePieces (glued : Bool) (tokens : List Token) :
    (linePieces glued tokens).filter (· ≠ .gap) = tokens.filterMap Token.piece? := by
  fun_induction linePieces glued tokens with
  | case1 => rfl
  | case2 glued rest ih => simpa [List.filterMap_cons, Token.piece?] using ih
  | case3 glued value rest filled ih =>
    cases glued <;> simpa [List.filterMap_cons, Token.piece?, filled] using ih
  | case4 glued rest ih => simpa [List.filterMap_cons, Token.piece?] using ih
  | case5 glued rest ih => simpa [List.filterMap_cons, Token.piece?] using ih
  | case6 glued token rest notText notGlue notEnd ih =>
    cases token <;> simp_all [List.filterMap_cons, Token.piece?]

/-- The spaces of a line stand between its other pieces, if the first text is glued. -/
theorem spaced_linePieces (tokens : List Token) :
    Spaced (linePieces true tokens) ∧
      (linePieces false tokens).getLast? ≠ some .gap ∧
      (linePieces false tokens).IsChain fun left right => ¬ (left = .gap ∧ right = .gap) := by
  induction tokens with
  | nil => exact ⟨⟨by decide, by decide, .nil⟩, by decide, .nil⟩
  | cons token rest ih =>
    obtain ⟨glued, last, apart⟩ := ih
    cases token with
    | text value =>
      by_cases empty : value = ""
      · simp only [linePieces, empty]
        exact ⟨glued, last, apart⟩
      · have row : Spaced (.text value :: linePieces false rest) := .cons (by simp) last apart
        simp only [linePieces, empty]
        refine ⟨row, ?_, ?_⟩
        · simpa [List.getLast?_cons_cons] using row.last
        · exact List.isChain_cons_cons.2 ⟨by simp, row.apart⟩
    | noSpaceBefore => exact ⟨glued, glued.last, glued.apart⟩
    | statementEnd =>
      have row : Spaced (.semicolon :: linePieces false rest) := .cons (by simp) last apart
      exact ⟨row, row.last, row.apart⟩
    | noStatementEnd | endLine | indent | dedent => exact ⟨glued, last, apart⟩

/-! ## All lines -/

/-- The lines of tokens that are cut at their starts, read from depth `depth` on. A line
without pieces has no depth. -/
def pieceLines (depth : Nat) : List (Token × List Token) → List Line
  | [] => []
  | (start, body) :: rest =>
      let depth := depthAfter depth start
      let pieces := linePieces true body
      if pieces ≠ [] then ⟨depth, pieces⟩ :: pieceLines depth rest
      else if start = .endLine then ⟨0, []⟩ :: pieceLines depth rest
      else pieceLines depth rest

/-- The lines of a token sequence. What precedes the first line start is put behind a mark
that starts no line. -/
def pieceLayout (tokens : List Token) : List Line :=
  let (first, lines) := splitLines (closeUp (dropSuppressed false tokens))
  pieceLines 0 ((.noSpaceBefore, first) :: lines)

theorem map_writeLine_placeLines (indent : Indent) (depth : Nat)
    (lines : List (Token × List Token)) :
    (placeLines depth lines).map (fun (depth, text) => writeLine indent depth text) =
      (pieceLines depth lines).map (Line.write indent) := by
  induction lines generalizing depth with
  | nil => rfl
  | cons line rest ih =>
    obtain ⟨start, body⟩ := line
    have blank_iff := lineText_eq_empty_iff true body
    simp only [placeLines, pieceLines]
    by_cases blank : linePieces true body = []
    · by_cases ends : start = .endLine
      · rw [if_pos (.inr ends), if_neg (not_not.2 blank), if_pos ends, List.map_cons,
          List.map_cons, ih, blank_iff.2 blank]
        rfl
      · have left : ¬ (lineText true body ≠ "" ∨ start = .endLine) := by
          simp [blank_iff.2 blank, ends]
        rw [if_neg left, if_neg (not_not.2 blank), if_neg ends, ih]
    · have filled : lineText true body ≠ "" := mt blank_iff.1 blank
      have written : writeLine indent (depthAfter depth start) (lineText true body) =
          Line.write indent ⟨depthAfter depth start, linePieces true body⟩ := by
        rw [writeLine, if_neg filled, lineText_eq]
        rfl
      rw [if_pos (.inl filled), if_pos blank, List.map_cons, List.map_cons, ih, written]

/-- The lines of a token sequence, with their indents. -/
theorem format_eq (indent : Indent) (tokens : List Token) :
    format indent tokens = (pieceLayout tokens).map (Line.write indent) := by
  rw [pieceLayout, ← map_writeLine_placeLines, format, placed]
  simp only [placeLines, depthAfter]
  simp

theorem eq_of_mem_pieceLines {depth : Nat} {lines : List (Token × List Token)} {line : Line}
    (member : line ∈ pieceLines depth lines) :
    (∃ body, line.pieces = linePieces true body) ∧ (line.pieces = [] → line.depth = 0) := by
  induction lines generalizing depth with
  | nil => cases member
  | cons group rest ih =>
    obtain ⟨start, body⟩ := group
    rw [pieceLines] at member
    split at member
    · next filled =>
      rcases List.mem_cons.1 member with rfl | later
      · exact ⟨⟨body, rfl⟩, fun blank => absurd blank filled⟩
      · exact ih later
    · split at member
      · rcases List.mem_cons.1 member with rfl | later
        · exact ⟨⟨[], rfl⟩, fun _ => rfl⟩
        · exact ih later
      · exact ih member

theorem content_pieceLines (depth : Nat) (lines : List (Token × List Token)) :
    (pieceLines depth lines).flatMap Line.content =
      lines.flatMap fun line => line.2.filterMap Token.piece? := by
  induction lines generalizing depth with
  | nil => rfl
  | cons line rest ih =>
    obtain ⟨start, body⟩ := line
    rw [List.flatMap_cons, ← filter_linePieces true body, pieceLines]
    split
    · rw [List.flatMap_cons, ih]
      rfl
    · next blank =>
      rw [Decidable.not_not] at blank
      rw [blank]
      split
      · exact ih _
      · exact ih _

theorem piece?_of_startsLine {token : Token} (starts : token.startsLine = true) :
    token.piece? = none := by
  cases token with
  | endLine | indent | dedent => rfl
  | text | noSpaceBefore | statementEnd | noStatementEnd => cases starts

theorem filterMap_closeUp (tokens : List Token) :
    (closeUp tokens).filterMap Token.piece? = tokens.filterMap Token.piece? := by
  fun_induction closeUp tokens with
  | case1 => rfl
  | case2 rest ih => simp [List.filterMap_cons, Token.piece?, ih]
  | case3 token rest _ ih => simp [List.filterMap_cons, ih]

theorem filterMap_splitLines (tokens : List Token) :
    (splitLines tokens).1.filterMap Token.piece? ++
        (splitLines tokens).2.flatMap (fun line => line.2.filterMap Token.piece?) =
      tokens.filterMap Token.piece? := by
  induction tokens with
  | nil => rfl
  | cons token rest ih =>
    rw [splitLines, List.filterMap_cons]
    cases starts : token.startsLine with
    | false =>
      cases written : token.piece? with
      | none => simpa [starts, List.filterMap_cons, written] using ih
      | some piece => simpa [starts, List.filterMap_cons, written] using ih
    | true => simpa [starts, piece?_of_startsLine starts] using ih

theorem piecesBehind_eq (front tokens : List Token) :
    piecesBehind front tokens =
      (dropSuppressed (suppressedBehind false front) tokens).filterMap Token.piece? := by
  induction tokens generalizing front with
  | nil => rfl
  | cons token rest ih =>
    rw [piecesBehind, ih, dropSuppressed_cons, List.filterMap_append, suppressedBehind_append]
    congr 1
    cases token with
    | statementEnd =>
      by_cases cancelled : Cancelled front
      · simp [cancelled, (suppressedBehind_iff front).2 cancelled, dropSuppressed]
      · have kept : suppressedBehind false front = false := by
          rw [← Bool.not_eq_true, suppressedBehind_iff]
          exact cancelled
        simp [cancelled, kept, dropSuppressed, Token.piece?]
    | text value =>
      by_cases empty : value = ""
      · simp [dropSuppressed, Token.piece?, empty]
      · simp [dropSuppressed, Token.piece?, empty]
    | noSpaceBefore | noStatementEnd | endLine | indent | dedent => rfl

/-- The pieces of all lines, without the spaces, are those that the tokens write. -/
theorem content_pieceLayout (tokens : List Token) :
    (pieceLayout tokens).flatMap Line.content = piecesBehind [] tokens := by
  rw [pieceLayout, content_pieceLines, List.flatMap_cons, filterMap_splitLines, filterMap_closeUp,
    piecesBehind_eq]
  rfl

end Layout

end Recordsmith
