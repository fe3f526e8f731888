/-
# Recordsmith.Proofs.Layout.Nesting — depths and blank lines

Two properties of token sequences decide what their lines look like:

* a *level* sequence (`Level`) ends at the depth it started at, and is never
  shallower in between;
* a *led* sequence (`Led`) has a text with something in it right behind every
  `endLine`.

A depth cannot go below zero. It is the difference of the `indent` and `dedent`
counts as long as it is large enough for every `dedent` (`Affords`), and a level
sequence has these counts in balance (`Level.balanced`).

Both are kept by taking out semicolons (`Level.dropSuppressed`,
`Led.dropSuppressed`), and `closeUp` finds nothing to take out of a led sequence.
A led sequence has no blank line (`text_ne_empty_of_led`), and what a block has in
its braces stands at least one level deep if it is level (`placed_braces`).
-/
import Mathlib.Data.List.Infix
import Recordsmith.Layout.Format
import Recordsmith.Proofs.Layout.Ink

namespace Recordsmith.Layout

set_option autoImplicit false

/-- The depth behind tokens. -/
def depthBehind (depth : Nat) (tokens : List Token) : Nat :=
  tokens.foldl depthAfter depth

/-- Tokens that end at the depth they start at and are never shallower. -/
structure Level (tokens : List Token) : Prop where
  back : ∀ depth, depthBehind depth tokens = depth
  above : ∀ depth front, front <+: tokens → depth ≤ depthBehind depth front

/-- Nowhere more `dedent` than `indent` up to there, and as many of both in all. -/
structure Balanced (tokens : List Token) : Prop where
  ahead : ∀ front, front <+: tokens → front.count .dedent ≤ front.count .indent
  even : tokens.count .dedent = tokens.count .indent

/-- From this depth on, no `dedent` finds the depth at zero. -/
def Affords (depth : Nat) (tokens : List Token) : Prop :=
  ∀ front, front <+: tokens → front.count .dedent ≤ depth + front.count .indent

/-- Tokens that start with a text that is not empty. -/
def Opens (tokens : List Token) : Prop :=
  ∃ value rest, value ≠ "" ∧ tokens = .text value :: rest

/-- Tokens with a text that is not empty right behind every `endLine`. -/
def Led : List Token → Prop
  | [] => True
  | .endLine :: rest => Opens rest ∧ Led rest
  | _ :: rest => Led rest

/-! ## Depths -/

@[simp] theorem depthBehind_nil (depth : Nat) : depthBehind depth [] = depth := rfl

@[simp] theorem depthBehind_cons (depth : Nat) (token : Token) (rest : List Token) :
    depthBehind depth (token :: rest) = depthBehind (depthAfter depth token) rest := rfl

@[simp] theorem depthBehind_append (depth : Nat) (front back : List Token) :
    depthBehind depth (front ++ back) = depthBehind (depthBehind depth front) back :=
  List.foldl_append

theorem depthAfter_of_not_startsLine {token : Token} (inside : token.startsLine = false)
    (depth : Nat) : depthAfter depth token = depth := by
  cases token with
  | text | noSpaceBefore | statementEnd | noStatementEnd => rfl
  | endLine | indent | dedent => cases inside

namespace Level

theorem nil : Level [] :=
  ⟨fun _ => rfl, fun _ front within => by rw [List.prefix_nil.1 within]; exact Nat.le_refl _⟩

theorem append {front back : List Token} (first : Level front) (second : Level back) :
    Level (front ++ back) := by
  constructor
  case back =>
    intro depth
    rw [depthBehind_append, first.back, second.back]
  case above =>
    intro depth part within
    rcases List.prefix_or_prefix_of_prefix within (List.prefix_append front back) with
      inFront | ⟨later, rfl⟩
    · exact first.above depth part inFront
    · rw [depthBehind_append, first.back]
      exact second.above depth later ((List.prefix_append_right_inj front).1 within)

/-- A token that does not change the depth. -/
theorem singleton {token : Token} (still : ∀ depth, depthAfter depth token = depth) :
    Level [token] := by
  constructor
  case back => exact still
  case above =>
    intro depth front within
    rcases List.prefix_cons_iff.1 within with rfl | ⟨rest, rfl, inRest⟩
    · exact Nat.le_refl _
    · rw [List.prefix_nil.1 inRest, depthBehind_cons, still, depthBehind_nil]

/-- One level deeper and back. -/
theorem enclosed {inner : List Token} (level : Level inner) :
    Level (.indent :: inner ++ [.dedent]) := by
  constructor
  case back =>
    intro depth
    rw [depthBehind_append, depthBehind_cons depth .indent inner, level.back]
    exact Nat.add_sub_cancel depth 1
  case above =>
    intro depth front within
    rw [List.cons_append] at within
    rcases List.prefix_cons_iff.1 within with rfl | ⟨rest, rfl, inRest⟩
    · exact Nat.le_refl _
    · rw [depthBehind_cons]
      rcases List.prefix_concat_iff.1 inRest with rfl | inInner
      · rw [depthBehind_append, level.back]
        exact Nat.le_of_eq (Nat.add_sub_cancel depth 1).symm
      · exact Nat.le_of_succ_le (level.above (depth + 1) rest inInner)

end Level

/-! ## Depths as differences -/

/-- What a token leaves is enough for those behind it. -/
theorem Affords.step {depth : Nat} {token : Token} {rest : List Token}
    (enough : Affords depth (token :: rest)) :
    Affords (depthAfter depth token) rest ∧ (token = .dedent → 0 < depth) := by
  have later : ∀ front, front <+: rest →
      (token :: front).count .dedent ≤ depth + (token :: front).count .indent :=
    fun front within => enough (token :: front) ((List.prefix_cons_inj token).2 within)
  have positive : token = .dedent → 0 < depth := by
    rintro rfl
    have here : 1 ≤ depth := by simpa using later [] List.nil_prefix
    exact here
  refine ⟨fun front within => ?_, positive⟩
  cases token with
  | indent =>
    have next : front.count .dedent ≤ depth + (front.count .indent + 1) := by
      simpa using later front within
    rw [depthAfter]
    omega
  | dedent =>
    have next : front.count .dedent + 1 ≤ depth + front.count .indent := by
      simpa using later front within
    have here := positive rfl
    rw [depthAfter]
    omega
  | text | noSpaceBefore | statementEnd | noStatementEnd | endLine =>
    simpa [depthAfter] using later front within

/-- As long as no depth is cut off, the depth is the number of `indent` without that of `dedent`. -/
theorem depthBehind_add_count {depth : Nat} {tokens : List Token} (enough : Affords depth tokens) :
    depthBehind depth tokens + tokens.count .dedent = depth + tokens.count .indent := by
  induction tokens generalizing depth with
  | nil => rfl
  | cons token rest ih =>
    obtain ⟨left, some⟩ := enough.step
    have reached := ih left
    rw [depthBehind_cons]
    cases token with
    | indent =>
      rw [depthAfter] at reached ⊢
      simp
      omega
    | dedent =>
      have positive := some rfl
      rw [depthAfter] at reached ⊢
      simp
      omega
    | text | noSpaceBefore | statementEnd | noStatementEnd | endLine =>
      simpa [depthAfter] using reached

theorem Level.balanced {tokens : List Token} (level : Level tokens) : Balanced tokens := by
  -- From this depth on no part of the tokens can reach depth zero.
  have counted : ∀ front, front <+: tokens →
      depthBehind (tokens.count .dedent) front + front.count .dedent =
        tokens.count .dedent + front.count .indent := by
    intro front within
    apply depthBehind_add_count
    intro part inFront
    have fewer := (inFront.trans within).sublist.count_le Token.dedent
    omega
  constructor
  case ahead =>
    intro front within
    have reached := counted front within
    have above := level.above (tokens.count .dedent) front within
    omega
  case even =>
    have reached := counted tokens (List.prefix_refl tokens)
    rw [level.back] at reached
    omega

/-- Where a line of balanced tokens gets shallower, the depth is not zero. -/
theorem Balanced.depth_pos {tokens before after : List Token} (balanced : Balanced tokens)
    (split : tokens = before ++ .dedent :: after) : 0 < depthBehind 0 before := by
  have inTokens : ∀ front, front <+: before → front <+: tokens := by
    intro front within
    rw [split]
    exact within.trans (List.prefix_append before _)
  have reached : depthBehind 0 before + before.count .dedent = 0 + before.count .indent :=
    depthBehind_add_count fun front within => by
      rw [Nat.zero_add]
      exact balanced.ahead front (inTokens front within)
  have counted : (before ++ [Token.dedent]).count .dedent ≤
      (before ++ [Token.dedent]).count .indent :=
    balanced.ahead _ ⟨after, by simp [split]⟩
  have next : before.count .dedent + 1 ≤ before.count .indent := by simpa using counted
  omega

/-! ## Texts behind line ends -/

theorem Opens.append {front : List Token} (opens : Opens front) (back : List Token) :
    Opens (front ++ back) := by
  obtain ⟨value, rest, filled, rfl⟩ := opens
  exact ⟨value, rest ++ back, filled, rfl⟩

namespace Led

theorem cons_of_ne_endLine {token : Token} (other : token ≠ .endLine) {rest : List Token} :
    Led (token :: rest) ↔ Led rest := by
  cases token with
  | endLine => exact absurd rfl other
  | text | noSpaceBefore | statementEnd | noStatementEnd | indent | dedent => rfl

theorem tail {token : Token} {rest : List Token} (led : Led (token :: rest)) : Led rest := by
  by_cases ends : token = .endLine
  · subst ends
    exact led.2
  · exact (cons_of_ne_endLine ends).1 led

theorem append {front back : List Token} (first : Led front) (second : Led back) :
    Led (front ++ back) := by
  induction front with
  | nil => exact second
  | cons token rest ih =>
    by_cases ends : token = .endLine
    · subst ends
      exact ⟨first.1.append back, ih first.2⟩
    · rw [List.cons_append]
      rw [cons_of_ne_endLine ends] at first ⊢
      exact ih first

theorem of_not_mem {tokens : List Token} (oneLine : .endLine ∉ tokens) : Led tokens := by
  induction tokens with
  | nil => trivial
  | cons token rest ih =>
    rw [List.mem_cons, not_or] at oneLine
    rw [cons_of_ne_endLine (Ne.symm oneLine.1)]
    exact ih oneLine.2

theorem getLast?_ne_endLine {tokens : List Token} (led : Led tokens) :
    tokens.getLast? ≠ some .endLine := by
  intro ends
  obtain ⟨front, rfl⟩ := List.getLast?_eq_some_iff.1 ends
  induction front with
  | nil =>
    obtain ⟨value, rest, -, nothing⟩ := led.1
    cases nothing
  | cons token rest ih => exact ih led.tail (by simp)

end Led

/-! ## Cancelled semicolons and closing braces -/

theorem dropSuppressed_sublist (suppressed : Bool) (tokens : List Token) :
    (dropSuppressed suppressed tokens).Sublist tokens := by
  fun_induction dropSuppressed suppressed tokens with
  | case1 => exact .slnil
  | case2 suppressed rest ih => exact ih.cons _
  | case3 suppressed rest ih => exact ih.cons_cons _
  | case4 rest ih => exact ih.cons _
  | case5 suppressed rest kept ih => exact ih.cons_cons _
  | case6 suppressed token rest _ _ _ ih => exact ih.cons_cons _

/-- The tokens that change the depth. -/
def moves (tokens : List Token) : List Token :=
  tokens.filter fun token => token = .indent ∨ token = .dedent

theorem depthBehind_moves (depth : Nat) (tokens : List Token) :
    depthBehind depth (moves tokens) = depthBehind depth tokens := by
  induction tokens generalizing depth with
  | nil => rfl
  | cons token rest ih =>
    cases token with
    | indent | dedent => exact ih _
    | text | noSpaceBefore | statementEnd | noStatementEnd | endLine => exact ih depth

theorem moves_dropSuppressed (suppressed : Bool) (tokens : List Token) :
    moves (dropSuppressed suppressed tokens) = moves tokens := by
  fun_induction dropSuppressed suppressed tokens with
  | case1 => rfl
  | case2 suppressed rest ih => exact ih
  | case3 suppressed rest ih => exact ih
  | case4 rest ih => exact ih
  | case5 suppressed rest _ ih => exact ih
  | case6 suppressed token rest _ _ _ ih =>
    simp only [moves, List.filter_cons] at ih ⊢
    rw [ih]

theorem moves_closeUp (tokens : List Token) : moves (closeUp tokens) = moves tokens := by
  fun_induction closeUp tokens with
  | case1 => rfl
  | case2 rest ih => exact congrArg (Token.dedent :: ·) ih
  | case3 token rest _ ih =>
    simp only [moves, List.filter_cons] at ih ⊢
    rw [ih]

/-- Where the depth changes the same way, it does so in the same steps. -/
theorem exists_prefix_of_moves {tokens others front : List Token}
    (same : moves others = moves tokens) (within : front <+: others) :
    ∃ whole, whole <+: tokens ∧ moves front = moves whole := by
  obtain ⟨rest, rfl⟩ := within
  rw [moves, List.filter_append] at same
  obtain ⟨whole, later, rfl, sameFront, -⟩ := List.filter_eq_append_iff.1 same.symm
  exact ⟨whole, List.prefix_append whole later, sameFront.symm⟩

/-- Whether tokens are level is up to those that change the depth. -/
theorem Level.of_moves {tokens others : List Token} (level : Level tokens)
    (same : moves others = moves tokens) : Level others := by
  constructor
  case back =>
    intro depth
    rw [← depthBehind_moves, same, depthBehind_moves, level.back]
  case above =>
    intro depth front within
    obtain ⟨whole, inTokens, sameFront⟩ := exists_prefix_of_moves same within
    rw [← depthBehind_moves, sameFront, depthBehind_moves]
    exact level.above depth whole inTokens

theorem count_moves {token : Token} (move : token = .indent ∨ token = .dedent)
    (tokens : List Token) : (moves tokens).count token = tokens.count token := by
  rw [moves, List.count_filter]
  simpa using move

theorem Affords.of_moves {depth : Nat} {tokens others : List Token} (enough : Affords depth tokens)
    (same : moves others = moves tokens) : Affords depth others := by
  intro front within
  obtain ⟨whole, inTokens, sameFront⟩ := exists_prefix_of_moves same within
  have counted := enough whole inTokens
  rw [← count_moves (.inl rfl), ← count_moves (.inr rfl), ← sameFront] at counted
  rwa [count_moves (.inl rfl), count_moves (.inr rfl)] at counted

theorem Level.dropSuppressed {tokens : List Token} (level : Level tokens) (suppressed : Bool) :
    Level (Layout.dropSuppressed suppressed tokens) :=
  level.of_moves (moves_dropSuppressed suppressed tokens)

theorem Led.dropSuppressed {tokens : List Token} (led : Led tokens) (suppressed : Bool) :
    Led (Layout.dropSuppressed suppressed tokens) := by
  fun_induction Layout.dropSuppressed suppressed tokens with
  | case1 => trivial
  | case2 suppressed rest ih => exact ih led
  | case3 suppressed rest ih => exact ih led
  | case4 rest ih => exact ih led
  | case5 suppressed rest _ ih => exact ih led
  | case6 suppressed token rest _ _ _ ih =>
    by_cases ends : token = .endLine
    · subst ends
      obtain ⟨value, later, filled, rfl⟩ := led.1
      exact ⟨⟨value, _, filled, rfl⟩, ih led.2⟩
    · rw [cons_of_ne_endLine ends] at led ⊢
      exact ih led

/-- No `endLine` of a led sequence stands right before a `dedent`. -/
theorem closeUp_of_led {tokens : List Token} (led : Led tokens) : closeUp tokens = tokens := by
  fun_induction closeUp tokens with
  | case1 => rfl
  | case2 rest ih =>
    obtain ⟨value, later, -, starts⟩ := led.1
    cases starts
  | case3 token rest _ ih => rw [ih led.tail]

/-! ## Lines -/

/-- Depth and text of the lines that start within tokens. -/
def startedLines (depth : Nat) (tokens : List Token) : List (Nat × String) :=
  placeLines depth (splitLines tokens).2

theorem splitLines_cons_of_startsLine {token : Token} (starts : token.startsLine = true)
    (rest : List Token) :
    splitLines (token :: rest) = ([], (token, (splitLines rest).1) :: (splitLines rest).2) := by
  rw [splitLines]
  simp [starts]

theorem splitLines_cons_of_not_startsLine {token : Token} (inside : token.startsLine = false)
    (rest : List Token) :
    splitLines (token :: rest) = (token :: (splitLines rest).1, (splitLines rest).2) := by
  rw [splitLines]
  simp [inside]

/-- Tokens that start a line do not reach into the lines in front of them. -/
theorem splitLines_append (front : List Token) {token : Token} (starts : token.startsLine = true)
    (rest : List Token) :
    splitLines (front ++ token :: rest) =
      ((splitLines front).1, (splitLines front).2 ++ (splitLines (token :: rest)).2) := by
  induction front with
  | nil =>
    rw [List.nil_append, splitLines_cons_of_startsLine starts]
    rfl
  | cons first others ih =>
    rw [List.cons_append]
    cases within : first.startsLine with
    | true =>
      rw [splitLines_cons_of_startsLine within, splitLines_cons_of_startsLine within, ih]
      rfl
    | false =>
      rw [splitLines_cons_of_not_startsLine within, splitLines_cons_of_not_startsLine within, ih]

theorem placeLines_append (depth : Nat) (front back : List (Token × List Token)) :
    placeLines depth (front ++ back) =
      placeLines depth front ++ placeLines (depthBehind depth (front.map Prod.fst)) back := by
  induction front generalizing depth with
  | nil => rfl
  | cons line rest ih =>
    obtain ⟨start, body⟩ := line
    rw [List.cons_append, placeLines, placeLines, ih]
    split
    · rfl
    · rfl

theorem depthBehind_splitLines (depth : Nat) (tokens : List Token) :
    depthBehind depth ((splitLines tokens).2.map Prod.fst) = depthBehind depth tokens := by
  induction tokens generalizing depth with
  | nil => rfl
  | cons token rest ih =>
    cases starts : token.startsLine with
    | true =>
      rw [splitLines_cons_of_startsLine starts]
      exact ih _
    | false =>
      rw [splitLines_cons_of_not_startsLine starts, depthBehind_cons,
        depthAfter_of_not_startsLine starts]
      exact ih depth

theorem moves_splitLines (tokens : List Token) :
    moves ((splitLines tokens).2.map Prod.fst) = moves tokens := by
  induction tokens with
  | nil => rfl
  | cons token rest ih =>
    cases starts : token.startsLine with
    | true =>
      rw [splitLines_cons_of_startsLine starts]
      simp only [moves, List.map_cons, List.filter_cons] at ih ⊢
      rw [ih]
    | false =>
      rw [splitLines_cons_of_not_startsLine starts, ih]
      cases token with
      | text | noSpaceBefore | statementEnd | noStatementEnd => rfl
      | endLine | indent | dedent => cases starts

theorem startedLines_append (depth : Nat) (front : List Token) {token : Token}
    (starts : token.startsLine = true) (rest : List Token) :
    startedLines depth (front ++ token :: rest) =
      startedLines depth front ++ startedLines (depthBehind depth front) (token :: rest) := by
  rw [startedLines, splitLines_append front starts, placeLines_append, depthBehind_splitLines]
  rfl

/-- The depth of a line is the depth behind the tokens up to its start. -/
theorem exists_prefix_of_mem_startedLines {depth : Nat} {tokens : List Token}
    {line : Nat × String} (member : line ∈ startedLines depth tokens) :
    ∃ front, front <+: tokens ∧ line.1 = depthBehind depth front := by
  induction tokens generalizing depth with
  | nil => cases member
  | cons token rest ih =>
    have later : ∀ {depth}, line ∈ startedLines (depthAfter depth token) rest →
        ∃ front, front <+: token :: rest ∧ line.1 = depthBehind depth front := by
      intro depth inRest
      obtain ⟨front, within, reached⟩ := ih inRest
      exact ⟨token :: front, (List.prefix_cons_inj token).2 within, reached⟩
    rw [startedLines] at member
    cases starts : token.startsLine with
    | true =>
      rw [splitLines_cons_of_startsLine starts, placeLines] at member
      split at member
      · rcases List.mem_cons.1 member with rfl | inRest
        · exact ⟨[token], ⟨rest, rfl⟩, rfl⟩
        · exact later inRest
      · exact later member
    | false =>
      rw [splitLines_cons_of_not_startsLine starts] at member
      apply later
      rw [depthAfter_of_not_startsLine starts]
      exact member

theorem lineText_ne_empty_of_opens {tokens : List Token} (opens : Opens tokens) (glued : Bool) :
    lineText glued (splitLines tokens).1 ≠ "" := by
  obtain ⟨value, rest, filled, rfl⟩ := opens
  rw [splitLines_cons_of_not_startsLine rfl, lineText, if_neg filled]
  intro empty
  have nothing := congrArg String.toList empty
  simp [filled] at nothing

/-- A led sequence starts no blank line. -/
theorem text_ne_empty_of_mem_startedLines {depth : Nat} {tokens : List Token} (led : Led tokens)
    {line : Nat × String} (member : line ∈ startedLines depth tokens) : line.2 ≠ "" := by
  induction tokens generalizing depth with
  | nil => cases member
  | cons token rest ih =>
    rw [startedLines] at member
    cases starts : token.startsLine with
    | true =>
      rw [splitLines_cons_of_startsLine starts, placeLines] at member
      split at member
      · next written =>
        rcases List.mem_cons.1 member with rfl | inRest
        · rcases written with filled | rfl
          · exact filled
          · exact lineText_ne_empty_of_opens led.1 true
        · exact ih led.tail inRest
      · exact ih led.tail member
    | false =>
      rw [splitLines_cons_of_not_startsLine starts] at member
      exact ih led.tail member

/-- A led sequence has no blank line. -/
theorem text_ne_empty_of_led {tokens : List Token} (led : Led tokens) {line : Nat × String}
    (member : line ∈ placed tokens) : line.2 ≠ "" := by
  have ledKept := led.dropSuppressed false
  rw [placed, closeUp_of_led ledKept] at member
  dsimp only at member
  split at member
  · next filled =>
    rcases List.mem_cons.1 member with rfl | inRest
    · exact filled
    · exact text_ne_empty_of_mem_startedLines ledKept inRest
  · exact text_ne_empty_of_mem_startedLines ledKept member

theorem line_ne_empty_of_led {tokens : List Token} (led : Led tokens) (indent : Indent) :
    ∀ line ∈ format indent tokens, line ≠ "" := by
  rw [format, List.forall_mem_map]
  rintro ⟨depth, text⟩ member empty
  have filled : text ≠ "" := text_ne_empty_of_led led member
  have written : writeLine indent depth text = indent.ofDepth depth ++ text := if_neg filled
  exact filled (String.append_eq_empty_iff.1 (written.symm.trans empty)).2

theorem one_le_of_mem_startedLines {body : List Token} (level : Level body)
    {line : Nat × String} (member : line ∈ startedLines 0 (.indent :: body)) : 1 ≤ line.1 := by
  have deeper : line ∈ startedLines 1 body → 1 ≤ line.1 := by
    intro inBody
    obtain ⟨front, within, reached⟩ := exists_prefix_of_mem_startedLines inBody
    rw [reached]
    exact level.above 1 front within
  rw [startedLines, splitLines_cons_of_startsLine rfl, placeLines] at member
  split at member
  · rcases List.mem_cons.1 member with rfl | inBody
    · exact Nat.le_refl 1
    · exact deeper inBody
  · exact deeper member

theorem splitLines_snd_eq_nil {tokens : List Token}
    (oneLine : ∀ token ∈ tokens, token.startsLine = false) : (splitLines tokens).2 = [] := by
  induction tokens with
  | nil => rfl
  | cons token rest ih =>
    rw [List.forall_mem_cons] at oneLine
    rw [splitLines_cons_of_not_startsLine oneLine.1]
    exact ih oneLine.2

theorem dropSuppressed_braces (head body : List Token) :
    dropSuppressed false (head ++ [.indent] ++ body ++ [.dedent, .text "\x7d", .noStatementEnd]) =
      dropSuppressed false head ++
        ((.indent :: dropSuppressed false body) ++ [.dedent, .text "\x7d"]) := by
  rw [List.append_assoc, List.append_assoc, dropSuppressed_append, List.singleton_append,
    dropSuppressed_cons, dropSuppressed_append _ body]
  rfl

theorem startedLines_braces {body : List Token} (level : Level body) :
    startedLines 0 ((.indent :: body) ++ [.dedent, .text "\x7d"]) =
      startedLines 0 (.indent :: body) ++ [(0, "\x7d")] := by
  have deep : depthBehind 0 (.indent :: body) = 1 := level.back 1
  rw [startedLines_append 0 _ (rfl : Token.dedent.startsLine = true), deep]
  rfl

/-- Layout of a head on one line with a body in braces: the body stands deeper than the head
and the closing brace. -/
theorem placed_braces {head body : List Token} (opens : Opens head)
    (oneLine : ∀ token ∈ head, token.startsLine = false) (level : Level body) (led : Led body) :
    ∃ first inner, placed (head ++ [.indent] ++ body ++ [.dedent, .text "\x7d", .noStatementEnd]) =
        (0, first) :: inner ++ [(0, "\x7d")] ∧
      ∀ line ∈ inner, 1 ≤ line.1 := by
  have keptHead : ∀ token ∈ dropSuppressed false head, token.startsLine = false :=
    fun token member => oneLine token ((dropSuppressed_sublist false head).subset member)
  have ledHead : Led (dropSuppressed false head) :=
    Led.of_not_mem fun member => absurd (keptHead _ member) (by decide)
  have filled : lineText true (splitLines (dropSuppressed false head)).1 ≠ "" := by
    obtain ⟨value, rest, filled, rfl⟩ := opens
    exact lineText_ne_empty_of_opens ⟨value, _, filled, rfl⟩ true
  have levelBody := level.dropSuppressed false
  have ledBody : Led (.indent :: dropSuppressed false body) := led.dropSuppressed false
  have ledWhole : Led (dropSuppressed false head ++
      ((.indent :: dropSuppressed false body) ++ [.dedent, .text "\x7d"])) :=
    ledHead.append (ledBody.append (Led.of_not_mem (by decide)))
  refine ⟨lineText true (splitLines (dropSuppressed false head)).1,
    startedLines 0 (.indent :: dropSuppressed false body), ?_,
    fun line => one_le_of_mem_startedLines levelBody⟩
  rw [placed, dropSuppressed_braces, closeUp_of_led ledWhole, List.cons_append,
    splitLines_append _ rfl, splitLines_snd_eq_nil keptHead, List.nil_append]
  dsimp only
  rw [if_pos filled, List.cons_append, ← startedLines_braces levelBody]
  rfl

/-! ## Line feeds -/

/-- A line has a line feed only if a text has one. -/
theorem newline_not_mem_format {tokens : List Token}
    (none : ∀ value, .text value ∈ tokens → '\n' ∉ value.toList) (indent : Indent) :
    ∀ line ∈ format indent tokens, '\n' ∉ line.toList := by
  intro line member inside
  have inked : '\n' ∈ ink ((format indent tokens).flatMap String.toList) :=
    List.mem_filter.2 ⟨List.mem_flatMap.2 ⟨line, member, inside⟩, by decide⟩
  rw [ink_format] at inked
  obtain ⟨piece, written, inPiece⟩ := List.mem_flatMap.1 inked
  have stands := (List.mem_filter.1 inPiece).1
  cases piece with
  | text value => exact none value (text_mem_piecesBehind_iff.1 written).2 stands
  | semicolon | gap => exact absurd stands (by decide)

end Recordsmith.Layout
