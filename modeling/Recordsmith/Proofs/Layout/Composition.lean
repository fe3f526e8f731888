/-
# Recordsmith.Proofs.Layout.Composition — layout piece by piece

Layout carries state from token to token: a semicolon that is to be cancelled, an
`endLine` that a `dedent` may still take out, the line that is being written, and the
depth. Where a line starts only the depth is left, so a sequence can be cut in front
of any token that starts a line, as long as the cut does not part an `endLine` from
its `dedent` (`linesFrom_append`). And a sequence that never gets below the depth it
starts at is laid out the same way at every depth (`placeLines_succ`).

So tokens one level deeper are laid out as they are alone, with one more unit in front
of each line, and what stands on lines of its own is laid out line by line
(`format_compositional`).
-/
import Mathlib.Data.List.Infix
import Recordsmith.Proofs.Layout.Nesting

namespace Recordsmith.Layout

set_option autoImplicit false

/-- Depth and text of the lines of tokens behind a line start, from depth `depth` on. -/
def linesFrom (depth : Nat) (start : Token) (tokens : List Token) : List (Nat × String) :=
  let (first, lines) := splitLines (closeUp (dropSuppressed false tokens))
  placeLines depth ((start, first) :: lines)

/-- The first line writes something: a text, or a semicolon that is not cancelled. -/
def StartsWritten (tokens : List Token) : Prop :=
  piecesBehind [] (splitLines tokens).1 ≠ []

instance (tokens : List Token) : Decidable (StartsWritten tokens) :=
  inferInstanceAs (Decidable (_ ≠ _))

/-- A line one level deeper; a blank line stays blank. -/
def deepen (indent : Indent) (line : String) : String :=
  if line = "" then "" else indent.unit ++ line

/-! ## Cutting -/

theorem closeUp_cons {token : Token} {rest : List Token}
    (apart : token = .endLine → rest.head? ≠ some .dedent) :
    closeUp (token :: rest) = token :: closeUp rest := by
  rw [closeUp]
  intro behind ends starts
  exact apart ends (by rw [starts]; rfl)

/-- Tokens can be closed up apart if no `endLine` is parted from its `dedent`. -/
theorem closeUp_append {front back : List Token}
    (apart : front.getLast? = some .endLine → back.head? ≠ some .dedent) :
    closeUp (front ++ back) = closeUp front ++ closeUp back := by
  fun_induction closeUp front with
  | case1 => rfl
  | case2 rest ih =>
    have later := ih fun ends => apart (by simp [List.getLast?_cons, ends])
    simp only [List.cons_append, closeUp, later]
  | case3 token rest other ih =>
    have later := ih fun ends => apart (by simp [List.getLast?_cons, ends])
    rw [List.cons_append, closeUp_cons, later, List.cons_append]
    intro ends
    cases rest with
    | nil => simpa using apart (by simp [ends])
    | cons next others =>
      intro same
      exact other others ends (by simpa using same)

theorem depthBehind_kept (depth : Nat) (tokens : List Token) :
    depthBehind depth (closeUp (dropSuppressed false tokens)) = depthBehind depth tokens := by
  rw [← depthBehind_moves, moves_closeUp, moves_dropSuppressed, depthBehind_moves]

theorem dropSuppressed_startsLine (suppressed : Bool) {token : Token}
    (starts : token.startsLine = true) (rest : List Token) :
    dropSuppressed suppressed (token :: rest) = token :: dropSuppressed false rest := by
  cases token with
  | endLine | indent | dedent => rfl
  | text | noSpaceBefore | statementEnd | noStatementEnd => cases starts

/-- Lines in front of a line start and behind it are laid out apart. -/
theorem linesFrom_append {front rest : List Token} {token : Token}
    (starts : token.startsLine = true)
    (ahead : (dropSuppressed false front).getLast? = some .endLine → token ≠ .dedent)
    (behind : token = .endLine → (dropSuppressed false rest).head? ≠ some .dedent)
    (depth : Nat) (start : Token) :
    linesFrom depth start (front ++ token :: rest) =
      linesFrom depth start front ++
        linesFrom (depthBehind (depthAfter depth start) front) token rest := by
  have kept : closeUp (dropSuppressed false (front ++ token :: rest)) =
      closeUp (dropSuppressed false front) ++ token :: closeUp (dropSuppressed false rest) := by
    rw [dropSuppressed_append, dropSuppressed_startsLine _ starts, closeUp_append,
      closeUp_cons behind]
    simpa using ahead
  have reached := depthBehind_kept (depthAfter depth start) front
  simp only [linesFrom, kept, splitLines_append _ starts, splitLines_cons_of_startsLine starts]
  rw [← List.cons_append, placeLines_append, List.map_cons, depthBehind_cons,
    depthBehind_splitLines, reached]

/-! ## Moving to another depth -/

theorem depthAfter_succ {depth : Nat} {token : Token} (enough : token = .dedent → 0 < depth) :
    depthAfter (depth + 1) token = depthAfter depth token + 1 := by
  cases token with
  | dedent =>
    have positive := enough rfl
    simp only [depthAfter]
    omega
  | text | noSpaceBefore | statementEnd | noStatementEnd | endLine | indent => rfl

/-- Lines that never get below their first depth are the same one level deeper. -/
theorem placeLines_succ {depth : Nat} {lines : List (Token × List Token)}
    (enough : Affords depth (lines.map Prod.fst)) :
    placeLines (depth + 1) lines =
      (placeLines depth lines).map fun (depth, text) => (depth + 1, text) := by
  induction lines generalizing depth with
  | nil => rfl
  | cons line rest ih =>
    obtain ⟨start, body⟩ := line
    obtain ⟨left, some⟩ := enough.step
    simp only [placeLines, depthAfter_succ some, ih left]
    split
    · rfl
    · rfl

theorem linesFrom_succ {depth : Nat} {tokens : List Token} (enough : Affords depth tokens) :
    linesFrom (depth + 1) .noSpaceBefore tokens =
      (linesFrom depth .noSpaceBefore tokens).map fun (depth, text) => (depth + 1, text) := by
  apply placeLines_succ
  apply enough.of_moves
  have same : moves ((splitLines (closeUp (dropSuppressed false tokens))).2.map Prod.fst) =
      moves tokens := by
    rw [moves_splitLines, moves_closeUp, moves_dropSuppressed]
  exact same

/-! ## The lines of a sequence -/

theorem placed_eq_linesFrom (tokens : List Token) :
    placed tokens = linesFrom 0 .noSpaceBefore tokens := by
  simp [placed, linesFrom, placeLines, depthAfter]

/-- A line start that does not end a line only moves the depth. -/
theorem linesFrom_of_ne_endLine {start : Token} (other : start ≠ .endLine) (depth : Nat)
    (tokens : List Token) :
    linesFrom depth start tokens = linesFrom (depthAfter depth start) .noSpaceBefore tokens := by
  simp [linesFrom, placeLines, depthAfter, other]

theorem splitLines_closeUp (tokens : List Token) :
    (splitLines (closeUp tokens)).1 = (splitLines tokens).1 := by
  fun_induction closeUp tokens with
  | case1 => rfl
  | case2 rest ih => rfl
  | case3 token rest _ ih =>
    cases starts : token.startsLine with
    | true => rw [splitLines_cons_of_startsLine starts, splitLines_cons_of_startsLine starts]
    | false =>
      rw [splitLines_cons_of_not_startsLine starts, splitLines_cons_of_not_startsLine starts, ih]

theorem splitLines_dropSuppressed (suppressed : Bool) (tokens : List Token) :
    (splitLines (dropSuppressed suppressed tokens)).1 =
      dropSuppressed suppressed (splitLines tokens).1 := by
  fun_induction dropSuppressed suppressed tokens with
  | case1 => rfl
  | case2 suppressed rest ih => rw [splitLines_cons_of_not_startsLine rfl, dropSuppressed, ih]
  | case3 suppressed rest ih =>
    rw [splitLines_cons_of_not_startsLine rfl, splitLines_cons_of_not_startsLine rfl,
      dropSuppressed, ih]
  | case4 rest ih =>
    rw [splitLines_cons_of_not_startsLine rfl, dropSuppressed, if_pos rfl, ih]
  | case5 suppressed rest kept ih =>
    rw [splitLines_cons_of_not_startsLine rfl, splitLines_cons_of_not_startsLine rfl,
      dropSuppressed, if_neg kept, ih]
  | case6 suppressed token rest notCancel notGlue notEnd ih =>
    cases starts : token.startsLine with
    | true =>
      rw [splitLines_cons_of_startsLine starts, splitLines_cons_of_startsLine starts]
      rfl
    | false =>
      rw [splitLines_cons_of_not_startsLine starts, splitLines_cons_of_not_startsLine starts, ih,
        dropSuppressed]
      · exact notCancel
      · exact notGlue
      · exact notEnd

theorem Opens.startsWritten {tokens : List Token} (opens : Opens tokens) :
    StartsWritten tokens := by
  obtain ⟨value, rest, filled, rfl⟩ := opens
  rw [StartsWritten, splitLines_cons_of_not_startsLine rfl, piecesBehind]
  simp [Token.piece?, filled]

/-- What the first line writes is up to the tokens in front of the first line start. -/
theorem StartsWritten.lineText_ne_empty {tokens : List Token} (written : StartsWritten tokens) :
    lineText true (splitLines (closeUp (dropSuppressed false tokens))).1 ≠ "" := by
  rw [StartsWritten, piecesBehind_eq] at written
  rw [splitLines_closeUp, splitLines_dropSuppressed, Ne, lineText_eq_empty_iff]
  intro blank
  apply written
  rw [suppressedBehind_nil, ← filter_linePieces true, blank]
  rfl

/-- If the first line writes something, it does not matter whether an `endLine` starts it. -/
theorem linesFrom_endLine {tokens : List Token} (written : StartsWritten tokens) (depth : Nat) :
    linesFrom depth .endLine tokens = linesFrom depth .noSpaceBefore tokens := by
  simp [linesFrom, placeLines, depthAfter, written.lineText_ne_empty]

theorem StartsWritten.head?_ne_dedent {tokens : List Token} (written : StartsWritten tokens) :
    (dropSuppressed false tokens).head? ≠ some .dedent := by
  intro starts
  obtain ⟨rest, split⟩ : ∃ rest, dropSuppressed false tokens = .dedent :: rest :=
    List.head?_eq_some_iff.1 starts
  apply written.lineText_ne_empty
  rw [splitLines_closeUp, split]
  rfl

/-! ## Composition -/

theorem writeLine_succ (indent : Indent) (depth : Nat) (text : String) :
    writeLine indent (depth + 1) text = deepen indent (writeLine indent depth text) := by
  by_cases blank : text = ""
  · simp [writeLine, deepen, blank]
  · simp [writeLine, deepen, blank, Indent.ofDepth, List.replicate_succ, String.append_assoc]

theorem map_writeLine_succ (indent : Indent) (lines : List (Nat × String)) :
    (lines.map fun (depth, text) => (depth + 1, text)).map
        (fun (depth, text) => writeLine indent depth text) =
      (lines.map fun (depth, text) => writeLine indent depth text).map (deepen indent) := by
  simp [writeLine_succ]

/-- Lines one level deeper are the lines alone, each behind one more unit. -/
theorem map_writeLine_linesFrom_indent (indent : Indent) {tokens : List Token}
    (enough : Affords 0 tokens) :
    (linesFrom 0 .indent tokens).map (fun (depth, text) => writeLine indent depth text) =
      (format indent tokens).map (deepen indent) := by
  rw [linesFrom_of_ne_endLine (by decide), depthAfter, linesFrom_succ enough, map_writeLine_succ,
    ← placed_eq_linesFrom]
  rfl

theorem linesFrom_nil {start : Token} (other : start ≠ .endLine) (depth : Nat) :
    linesFrom depth start [] = [] := by
  simp [linesFrom, placeLines, closeUp, dropSuppressed, splitLines, lineText, other]

theorem format_indent_dedent (indent : Indent) {tokens : List Token} (enough : Affords 0 tokens)
    (closed : (dropSuppressed false tokens).getLast? ≠ some .endLine) :
    format indent (.indent :: tokens ++ [.dedent]) =
      (format indent tokens).map (deepen indent) := by
  have split : placed (.indent :: tokens ++ [.dedent]) = linesFrom 0 .indent tokens := by
    calc placed ([] ++ .indent :: (tokens ++ [.dedent]))
      _ = linesFrom 0 .noSpaceBefore [] ++ linesFrom 0 .indent (tokens ++ [.dedent]) := by
        rw [placed_eq_linesFrom, linesFrom_append rfl (by simp [dropSuppressed]) (by simp)]
        rfl
      _ = linesFrom 0 .indent tokens ++ linesFrom (depthBehind 1 tokens) .dedent [] := by
        rw [linesFrom_nil (by decide), List.nil_append,
          linesFrom_append rfl (fun ends => absurd ends closed) (by simp)]
        rfl
      _ = linesFrom 0 .indent tokens := by
        rw [linesFrom_nil (by decide), List.append_nil]
  rw [format, split, map_writeLine_linesFrom_indent indent enough]

theorem format_append_endLine (indent : Indent) {front back : List Token}
    (balanced : Balanced front) (written : StartsWritten back) :
    format indent (front ++ .endLine :: back) = format indent front ++ format indent back := by
  have level : depthBehind 0 front = 0 := by
    have enough : Affords 0 front := by simpa [Affords] using balanced.ahead
    have reached := depthBehind_add_count enough
    have even := balanced.even
    omega
  have split : placed (front ++ .endLine :: back) = placed front ++ placed back := by
    calc placed (front ++ .endLine :: back)
      _ = linesFrom 0 .noSpaceBefore front ++ linesFrom (depthBehind 0 front) .endLine back := by
        rw [placed_eq_linesFrom, linesFrom_append rfl (by simp) fun _ => written.head?_ne_dedent]
        rfl
      _ = placed front ++ placed back := by
        rw [level, linesFrom_endLine written, placed_eq_linesFrom, placed_eq_linesFrom]
  rw [format, split, List.map_append]
  rfl

/-- A head, a body one level deeper and a closing brace are laid out one behind the other. -/
theorem format_braces (indent : Indent) {head body : List Token} (levelHead : Level head)
    (levelBody : Level body) (closed : (dropSuppressed false body).getLast? ≠ some .endLine) :
    format indent (head ++ [.indent] ++ body ++ [.dedent, .text "\x7d", .noStatementEnd]) =
      format indent head ++ (format indent body).map (deepen indent) ++ ["\x7d"] := by
  have enough : Affords 0 body := by simpa [Affords] using levelBody.balanced.ahead
  have split : placed (head ++ [.indent] ++ body ++ [.dedent, .text "\x7d", .noStatementEnd]) =
      placed head ++ linesFrom 0 .indent body ++ [(0, "\x7d")] := by
    have deep : depthBehind (depthAfter 0 .indent) body = 1 := levelBody.back 1
    have flat : depthBehind (depthAfter 0 .noSpaceBefore) head = 0 := levelHead.back 0
    rw [List.append_assoc, List.append_assoc, List.singleton_append, placed_eq_linesFrom,
      linesFrom_append rfl (by simp) (by simp), flat, linesFrom_append rfl
        (fun ends => absurd ends closed) (by simp), deep, placed_eq_linesFrom, List.append_assoc]
    rfl
  rw [format, split, List.map_append, List.map_append, map_writeLine_linesFrom_indent indent enough]
  rfl

/-- **Layout is compositional.**

* Tokens that nowhere have more `dedent` than `indent` and do not end in an `endLine`,
  cancelled semicolons apart, are laid out one level deeper as they are alone, with one
  unit of the indent in front of every line that is not blank.
* Balanced tokens and tokens whose first line writes something, with an `endLine` between
  them, are laid out one behind the other. -/
theorem format_compositional (indent : Indent) :
    (∀ tokens : List Token,
      (∀ front, front <+: tokens → front.count .dedent ≤ front.count .indent) →
      (dropSuppressed false tokens).getLast? ≠ some .endLine →
        format indent ([.indent] ++ tokens ++ [.dedent]) =
          (format indent tokens).map fun line => if line = "" then "" else indent.unit ++ line) ∧
    ∀ front back : List Token, Balanced front → StartsWritten back →
      format indent (front ++ [.endLine] ++ back) = format indent front ++ format indent back := by
  constructor
  · intro tokens ahead closed
    have enough : Affords 0 tokens := by simpa [Affords] using ahead
    exact format_indent_dedent indent enough closed
  · intro front back balanced written
    rw [List.append_assoc]
    exact format_append_endLine indent balanced written

theorem balanced_marked : Balanced marked := by
  have ahead : ∀ front ∈ marked.inits, front.count .dedent ≤ front.count .indent := by decide
  exact ⟨fun front within => ahead front ((List.mem_inits front marked).2 within), by decide⟩

/-- The statement behind the arm has a cancelled semicolon in front of its text. -/
theorem format_compositional_marked :
    format .tab ([.indent] ++ marked ++ [.dedent]) =
      ["\tcase 1:", "\t\t\x7b\x7d", "", "\t\tgo();"] ∧
    format .tab (marked ++ [.endLine] ++
        [.noStatementEnd, .statementEnd, .text "done", .statementEnd, .dedent, .text "\x7d"]) =
      ["case 1:", "\t\x7b\x7d", "", "\tgo();", "done;", "\x7d"] := by
  obtain ⟨deeper, behind⟩ := format_compositional .tab
  rw [deeper marked balanced_marked.ahead (by decide),
    behind marked _ balanced_marked (by decide)]
  decide

end Recordsmith.Layout
