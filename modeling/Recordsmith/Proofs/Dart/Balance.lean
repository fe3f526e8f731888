/-
# Recordsmith.Proofs.Dart.Balance — depths, blank lines and closing braces

Layout keeps the depth as a number that cannot go below zero, so a `dedent` too
many would go unnoticed and shift every line behind it. Rendered constructs have
none: at no place in them are there more `dedent` than `indent`, and in the end
as many of both (`Balanced`). Layout moves `dedent` marks about and drops other
tokens, but keeps the order of the depth changes (`moves_lineStarts`), so depth
zero is never left downwards (`Balanced.depth_pos`).

If moreover no string stored in a construct is empty, no line is empty either.
The last line of a block or switch with statements is the closing brace, whatever
the strings are.
-/
import Recordsmith.Proofs.Dart.Rendered

namespace Recordsmith

set_option autoImplicit false

namespace Layout

/-- The tokens that start the lines of a layout, apart from the first line. -/
def lineStarts (tokens : List Token) : List Token :=
  (splitLines (closeUp (dropSuppressed false tokens))).2.map Prod.fst

/-! ## Depths of lines -/

/-- The lines of a layout have the depth changes of the tokens, in their order. -/
theorem moves_lineStarts (tokens : List Token) : moves (lineStarts tokens) = moves tokens := by
  rw [lineStarts, moves_splitLines, moves_closeUp, moves_dropSuppressed]

theorem Level.lineStarts {tokens : List Token} (level : Level tokens) :
    Level (Layout.lineStarts tokens) :=
  level.of_moves (moves_lineStarts tokens)

/-! ## Closing braces -/

theorem exists_closeUp_dedent (front rest : List Token) :
    ∃ kept, closeUp (front ++ .dedent :: rest) = kept ++ .dedent :: closeUp rest := by
  fun_induction closeUp front with
  | case1 => exact ⟨[], rfl⟩
  | case2 front ih =>
    obtain ⟨kept, closed⟩ := ih
    exact ⟨.dedent :: kept, congrArg (Token.dedent :: ·) closed⟩
  | case3 token front other ih =>
    by_cases edge : token = .endLine ∧ front = []
    · obtain ⟨rfl, rfl⟩ := edge
      exact ⟨[], rfl⟩
    · obtain ⟨kept, closed⟩ := ih
      refine ⟨token :: kept, ?_⟩
      rw [List.cons_append, closeUp, closed, List.cons_append]
      intro later ends starts
      cases front with
      | nil => exact edge ⟨ends, rfl⟩
      | cons next others =>
        rw [List.cons_append, List.cons.injEq] at starts
        exact other others ends (by rw [starts.1])

/-- Level tokens that end in a closing brace have it on their last line. -/
theorem getLast?_format_of_level {front : List Token}
    (level : Level (front ++ [.dedent, .text "\x7d", .noStatementEnd])) (indent : Indent) :
    (format indent (front ++ [.dedent, .text "\x7d", .noStatementEnd])).getLast? = some "\x7d" := by
  have dropped : dropSuppressed false (front ++ [.dedent, .text "\x7d", .noStatementEnd]) =
      dropSuppressed false front ++ [.dedent, .text "\x7d"] := by
    rw [dropSuppressed_append]
    rfl
  obtain ⟨kept, closed⟩ := exists_closeUp_dedent (dropSuppressed false front) [.text "\x7d"]
  have shallow : depthBehind 0 kept - 1 = 0 := by
    have back := level.back 0
    rw [← depthBehind_moves, ← moves_dropSuppressed false, ← moves_closeUp, depthBehind_moves,
      dropped, closed, depthBehind_append] at back
    exact back
  have last : ∃ lines, placed (front ++ [.dedent, .text "\x7d", .noStatementEnd]) =
      lines ++ [(0, "\x7d")] := by
    have ended : placeLines 0 (splitLines (kept ++ [.dedent, .text "\x7d"])).2 =
        placeLines 0 (splitLines kept).2 ++ [(depthBehind 0 kept - 1, "\x7d")] := by
      rw [splitLines_append kept rfl, placeLines_append, depthBehind_splitLines]
      rfl
    rw [shallow] at ended
    rw [placed, dropped, closed]
    dsimp only
    split
    · exact ⟨_ :: _, congrArg (_ :: ·) ended⟩
    · exact ⟨_, ended⟩
  obtain ⟨lines, placedLines⟩ := last
  rw [format, placedLines, List.map_append, List.map_singleton, List.getLast?_concat]
  rfl

end Layout

namespace Dart.Expr

open Layout

/-- Texts that are not empty. -/
theorem textClass_ne_empty : TextClass (· ≠ "") where
  symbol := by decide
  quoted := fun value empty => by
    have := congrArg String.toList empty
    simp [quote, quoteChars] at this
  typeArguments := fun types _ empty => by
    have := congrArg String.toList empty
    simp [typeArguments] at this
  label := fun label _ empty => by
    have := congrArg String.toList empty
    simp at this

theorem getLast?_lines_of_braced {expr : Expr} {head : List Token} {groups : List (List Token)}
    (braces : expr.tokens = braced head groups) (some : groups ≠ []) (indent : Indent) :
    (expr.lines indent).getLast? = .some "\x7d" := by
  have level := expr.rendered.level
  have closed : expr.tokens = (head ++ [.text "\x7b", .indent] ++ statements groups) ++
      [.dedent, .text "\x7d", .noStatementEnd] := by
    simp [braces, braced, some]
  rw [lines]
  rw [closed] at level ⊢
  exact getLast?_format_of_level level indent

/-- The tokens of every construct are balanced, so that layout never gets shallower at depth zero
and ends there. If no string stored in a construct is empty, its tokens start with a text that is
not empty and none of its lines is empty. A block or a switch with statements ends in a line that
is the closing brace. -/
theorem tokens_balanced :
    (∀ expr : Expr, Balanced expr.tokens ∧
      (∀ before after, lineStarts expr.tokens = before ++ .dedent :: after →
        0 < depthBehind 0 before) ∧
      depthBehind 0 (lineStarts expr.tokens) = 0) ∧
    (∀ expr : Expr, Everywhere (OwnStrings (· ≠ "")) expr →
      Opens expr.tokens ∧ ∀ indent, "" ∉ expr.lines indent) ∧
    (∀ (indent : Indent) (head : Expr) (body : List Expr), body ≠ [] →
      ((Expr.block head body).lines indent).getLast? = some "\x7d") ∧
    ∀ (indent : Indent) (subject : Expr) (arms : List Expr), arms ≠ [] →
      ((Expr.switch subject arms).lines indent).getLast? = some "\x7d" := by
  have each : ∀ {exprs : List Expr}, exprs ≠ [] → tokensOfEach exprs ≠ [] := by
    intro exprs some
    cases exprs with
    | nil => exact absurd rfl some
    | cons expr rest => exact List.cons_ne_nil _ _
  refine ⟨fun expr => ?_, fun expr filled => ?_, fun indent head body some => ?_,
    fun indent subject arms some => ?_⟩
  · have level := expr.rendered.level
    exact ⟨level.balanced, fun before after split => level.lineStarts.balanced.depth_pos split,
      level.lineStarts.back 0⟩
  · have rendered := rendered_tokens textClass_ne_empty expr filled
    have led := rendered.led fun _ => id
    exact ⟨rendered.opens fun _ => id,
      fun indent member => line_ne_empty_of_led led indent "" member rfl⟩
  · exact getLast?_lines_of_braced rfl (each some) indent
  · exact getLast?_lines_of_braced rfl (each some) indent

/-- A switch with an empty arm and one that only breaks, and a block around it. -/
def mixing : Expr :=
  .switch (.ident "hue") [.caseArm (.str "") [] false, .defaultArm [] true]

def painting : Expr :=
  .block (.ident "paint()") [mixing]

theorem tokens_balanced_painting :
    Balanced painting.tokens ∧
    lineStarts painting.tokens =
      [.indent, .indent] ++ [.indent, .dedent, .endLine, .indent, .dedent, .dedent, .dedent] ∧
    0 < depthBehind 0 [.indent, .indent, .indent] ∧
    Everywhere (OwnStrings (· ≠ "")) painting ∧ Opens painting.tokens ∧
    "" ∉ painting.lines .tab ∧ (painting.lines .tab).getLast? = some "\x7d" ∧
    (mixing.lines .tab).getLast? = some "\x7d" := by
  have filled : Everywhere (OwnStrings (· ≠ "")) painting := by
    simp [painting, mixing]
  have balanced := tokens_balanced.1 painting
  have named := tokens_balanced.2.1 painting filled
  exact ⟨balanced.1, rfl, balanced.2.1 _ [.endLine, .indent, .dedent, .dedent, .dedent] rfl, filled,
    named.1, named.2 .tab, tokens_balanced.2.2.1 .tab _ _ (List.cons_ne_nil _ _),
    tokens_balanced.2.2.2 .tab _ _ (List.cons_ne_nil _ _)⟩

end Dart.Expr

end Recordsmith
