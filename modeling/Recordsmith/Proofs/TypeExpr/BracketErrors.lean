/-
# Recordsmith.Proofs.TypeExpr.BracketErrors — which faults are laid to the brackets

The brackets of a text are *unbalanced* if some place has more `>` than `<` in front
of it, or if the text has not as many of both. Reading a type does not ask this
question: it looks for the first `<`, for the bracket that closes it, and for
brackets behind that one. So the two do not quite agree on what is wrong with a text:

* a `>` in front of the first `<` is passed over, if what follows is one pair of
  brackets and nothing but plain text behind it: the name or the text behind the
  brackets is blamed (`ClosedInFront`);
* brackets that follow those of the arguments are blamed even if they are balanced,
  at the root of a type or in an argument (`Adjoined`).

These are the only differences (`unbalancedBrackets_iff`). In particular no unbalanced
text is read.
-/
import Mathlib.Logic.Basic
import Recordsmith.Proofs.TypeExpr.Grammar

namespace Recordsmith.TypeExpr

open Recordsmith.Text

set_option autoImplicit false

/-- Some place has more `>` than `<` in front of it, or there are not as many of both. -/
def Unbalanced (text : List Char) : Prop :=
  (∃ front, front <+: text ∧ front.count '<' < front.count '>') ∨ text.count '<' ≠ text.count '>'

/-- A text without brackets. -/
structure Plain (text : List Char) : Prop where
  noOpen : '<' ∉ text
  noClose : '>' ∉ text

/-- A `>` stands in front of the first `<`, and one pair of brackets, with whatever is in it,
follows. -/
inductive ClosedInFront : List Char → Prop where
  | of {front inner after : List Char} (noOpen : '<' ∉ front) (closed : '>' ∈ front)
      (inside : Balanced inner) (plain : Plain after) :
      ClosedInFront (front ++ '<' :: (inner ++ '>' :: after))

/-- A balanced text with brackets behind those of its arguments, or with such an argument, the
ones in front of which are types. -/
inductive Adjoined : List Char → Prop where
  | behind {front inner after : List Char} (plain : Plain front) (inside : Balanced inner)
      (balanced : Balanced after) (more : '<' ∈ after) :
      Adjoined (front ++ '<' :: (inner ++ '>' :: after))
  | argument {lead name space piece gap mark : List Char} {nullable : Bool}
      {before : List (List Char × TypeExpr)} {rest : List (List Char)} (leadBlank : Blanks lead)
      (valid : isIdentifier name = true) (spaceBlank : Blanks space)
      (read : ∀ arg ∈ before, Derives arg.1 arg.2) (faulty : Adjoined piece)
      (uncut : Whole piece) (others : ∀ other ∈ rest, Whole other) (gapBlank : Blanks gap)
      (suffix : NullSuffix nullable mark) :
      Adjoined
        (lead ++ (name ++ space ++
          '<' :: ([','].intercalate (before.map Prod.fst ++ piece :: rest) ++ ['>'])) ++
          gap ++ mark)

/-- The result is an error about brackets. -/
def Blames {α : Type} (result : Except TypeError α) : Prop :=
  ∃ text, result = .error (.unbalancedBrackets text)

/-! ## Balance -/

theorem unbalanced_iff {text : List Char} : Unbalanced text ↔ ¬ Balanced text := by
  rw [Balanced, depthAfter_eq_some_iff, Unbalanced, not_and_or]
  simp only [Nat.zero_add, not_forall, Nat.not_le, exists_prop, ne_eq, eq_comm]

theorem Plain.balanced {text : List Char} (plain : Plain text) : Balanced text :=
  .of_not_mem plain.noOpen plain.noClose

theorem Balanced.plain {text : List Char} (balanced : Balanced text) (noOpen : '<' ∉ text) :
    Plain text := by
  have counted := (depthAfter_eq_some_iff.1 balanced).2
  rw [List.count_eq_zero.2 noOpen, Nat.zero_add, Nat.zero_add] at counted
  exact ⟨noOpen, List.count_eq_zero.1 counted⟩

theorem Plain.of_blanks {text : List Char} (blank : Blanks text) : Plain text :=
  ⟨blank.not_mem (by decide), blank.not_mem (by decide)⟩

theorem Plain.of_suffix {nullable : Bool} {mark : List Char} (suffix : NullSuffix nullable mark) :
    Plain mark := by
  cases suffix with
  | absent => exact .of_blanks Blanks.nil
  | present blank =>
    have noBrackets := Plain.of_blanks blank
    exact ⟨by simpa using noBrackets.noOpen, by simpa using noBrackets.noClose⟩

theorem plain_append {front back : List Char} :
    Plain (front ++ back) ↔ Plain front ∧ Plain back := by
  constructor
  · rintro ⟨noOpen, noClose⟩
    rw [List.mem_append, not_or] at noOpen noClose
    exact ⟨⟨noOpen.1, noClose.1⟩, noOpen.2, noClose.2⟩
  · rintro ⟨first, second⟩
    constructor
    · rw [List.mem_append, not_or]
      exact ⟨first.noOpen, second.noOpen⟩
    · rw [List.mem_append, not_or]
      exact ⟨first.noClose, second.noClose⟩

/-- A text up to its first `<` is followed at depth 0, or not at all. -/
theorem balanced_open_iff {front behind : List Char} (noOpen : '<' ∉ front) :
    Balanced (front ++ '<' :: behind) ↔ '>' ∉ front ∧ depthAfter 1 behind = some 0 := by
  by_cases closed : '>' ∈ front
  · have unbalanced : Unbalanced (front ++ '<' :: behind) := by
      refine .inl ⟨front, List.prefix_append _ _, ?_⟩
      rw [List.count_eq_zero.2 noOpen]
      exact List.count_pos_iff.2 closed
    simp [closed, unbalanced_iff.1 unbalanced]
  · rw [Balanced, depthAfter_append (Plain.balanced ⟨noOpen, closed⟩), depthAfter_open]
    simp [closed]

theorem balanced_pair_iff {front inner after : List Char} (noOpen : '<' ∉ front)
    (inside : Balanced inner) :
    Balanced (front ++ '<' :: (inner ++ '>' :: after)) ↔ '>' ∉ front ∧ Balanced after := by
  rw [balanced_open_iff noOpen, depthAfter_append (inside.depthAfter 1), depthAfter_close]
  rfl

/-- An argument with those in front of it and behind it. -/
theorem forall_pieces_whole {before : List (List Char × TypeExpr)} {piece : List Char}
    {rest : List (List Char)} (read : ∀ arg ∈ before, Derives arg.1 arg.2) (uncut : Whole piece)
    (others : ∀ other ∈ rest, Whole other) :
    ∀ part ∈ before.map Prod.fst ++ piece :: rest, Whole part := by
  rw [List.forall_mem_append, List.forall_mem_map, List.forall_mem_cons]
  exact ⟨fun arg member => (read arg member).whole, uncut, others⟩

theorem Adjoined.balanced {text : List Char} (adjoined : Adjoined text) : Balanced text := by
  cases adjoined with
  | behind plain inside balanced more =>
    exact (balanced_pair_iff plain.noOpen inside).2 ⟨plain.noClose, balanced⟩
  | argument leadBlank valid spaceBlank read faulty uncut others gapBlank suffix =>
    have inner := balanced_intercalate fun part member =>
      (forall_pieces_whole read uncut others part member).balanced
    have core := ((Whole.of_isIdentifier valid).append (.of_blanks spaceBlank)).balanced.append
      inner.enclose
    exact (((Plain.of_blanks leadBlank).balanced.append core).append
      (Plain.of_blanks gapBlank).balanced).append (Plain.of_suffix suffix).balanced

/-! ## Brackets at the root -/

/-- The brackets at the root of a text are blamed: a `>` without any `<`, or a first `<` that is
not closed with plain text behind it. -/
def RootFault (text : List Char) : Prop :=
  ('<' ∉ text ∧ '>' ∈ text) ∨
    ∃ front behind, text = front ++ '<' :: behind ∧ '<' ∉ front ∧
      ∀ inner after, behind = inner ++ '>' :: after → Balanced inner → ¬ Plain after

/-- A text has one first `<`. -/
theorem eq_of_open_eq {front behind front' behind' : List Char} (noOpen : '<' ∉ front)
    (noOpen' : '<' ∉ front') (same : front ++ '<' :: behind = front' ++ '<' :: behind') :
    front = front' ∧ behind = behind' := by
  have cut : ∀ {front : List Char} (behind : List Char), '<' ∉ front →
      (front ++ '<' :: behind).takeWhile (· ≠ '<') = front := by
    intro front behind noOpen
    rw [List.takeWhile_append_of_pos (ne_open_of_not_mem noOpen)]
    simp
  have fronts : front = front' := by
    rw [← cut behind noOpen, same, cut behind' noOpen']
  subst fronts
  exact ⟨rfl, (List.cons.inj (List.append_cancel_left same)).2⟩

/-- A text has one pair of brackets that starts with its first `<`. -/
theorem eq_of_pair_eq {front inner after front' inner' after' : List Char} (noOpen : '<' ∉ front)
    (inside : Balanced inner) (noOpen' : '<' ∉ front') (inside' : Balanced inner')
    (same : front ++ '<' :: (inner ++ '>' :: after) = front' ++ '<' :: (inner' ++ '>' :: after')) :
    front = front' ∧ inner = inner' ∧ after = after' := by
  obtain ⟨fronts, behinds⟩ := eq_of_open_eq noOpen noOpen' same
  have found := upToClose_eq_some_iff.2 ⟨behinds, inside'⟩
  rw [upToClose_eq_some_iff.2 ⟨rfl, inside⟩] at found
  cases found
  exact ⟨fronts, rfl, rfl⟩

theorem rootFault_append_open {front behind : List Char} (noOpen : '<' ∉ front) :
    RootFault (front ++ '<' :: behind) ↔
      ∀ inner after, behind = inner ++ '>' :: after → Balanced inner → ¬ Plain after := by
  constructor
  · rintro (⟨without, -⟩ | ⟨front', behind', same, noOpen', faulty⟩)
    · exact absurd (by simp) without
    · obtain ⟨-, rfl⟩ := eq_of_open_eq noOpen noOpen' same
      exact faulty
  · intro faulty
    exact .inr ⟨front, behind, rfl, noOpen, faulty⟩

theorem rootFault_of_not_mem {text : List Char} (noOpen : '<' ∉ text) :
    RootFault text ↔ '>' ∈ text := by
  constructor
  · rintro (⟨-, closed⟩ | ⟨front, behind, rfl, -⟩)
    · exact closed
    · exact absurd (by simp) noOpen
  · intro closed
    exact .inl ⟨noOpen, closed⟩

/-- Plain text around a text does not matter. -/
theorem rootFault_frame {lead body tail : List Char} (first : Plain lead) (last : Plain tail) :
    RootFault (lead ++ body ++ tail) ↔ RootFault body := by
  by_cases opened : '<' ∈ body
  · obtain ⟨front, behind, rfl, noOpen⟩ := exists_open_of_mem opened
    have regroup : lead ++ (front ++ '<' :: behind) ++ tail =
        (lead ++ front) ++ '<' :: (behind ++ tail) := by
      simp
    have noOpenFront : '<' ∉ lead ++ front := by
      rw [List.mem_append, not_or]
      exact ⟨first.noOpen, noOpen⟩
    rw [regroup, rootFault_append_open noOpenFront, rootFault_append_open noOpen]
    constructor
    · rintro faulty inner after rfl inside plain
      exact faulty inner (after ++ tail) (by simp) inside (plain_append.2 ⟨plain, last⟩)
    · intro faulty inner after same inside plain
      -- The closing bracket is not in the tail, so it is in front of it.
      rcases List.append_eq_append_iff.1 same with ⟨more, -, rfl⟩ | ⟨more, rfl, ends⟩
      · exact absurd (by simp) last.noClose
      · cases more with
        | nil =>
          rw [List.nil_append] at ends
          rw [← ends] at last
          exact absurd (by simp) last.noClose
        | cons c more =>
          obtain ⟨rfl, rfl⟩ := List.cons.inj ends
          exact faulty inner more rfl inside (plain_append.1 plain).1
  · have none : '<' ∉ lead ++ body ++ tail := by
      simp [first.noOpen, opened, last.noOpen]
    rw [rootFault_of_not_mem none, rootFault_of_not_mem opened]
    simp [first.noClose, last.noClose]

theorem rootFault_of_unclosed {front behind : List Char} (noOpen : '<' ∉ front)
    (unclosed : upToClose 0 behind = none) : RootFault (front ++ '<' :: behind) := by
  rw [rootFault_append_open noOpen]
  intro inner after same inside
  rw [upToClose_eq_some_iff.2 ⟨same, inside⟩] at unclosed
  cases unclosed

theorem rootFault_pair_iff {front inner after : List Char} (noOpen : '<' ∉ front)
    (inside : Balanced inner) :
    RootFault (front ++ '<' :: (inner ++ '>' :: after)) ↔ ¬ Plain after := by
  rw [rootFault_append_open noOpen]
  constructor
  · intro faulty
    exact faulty inner after rfl inside
  · intro faulty inner' after' same inside'
    have found := upToClose_eq_some_iff.2 ⟨same, inside'⟩
    rw [upToClose_eq_some_iff.2 ⟨rfl, inside⟩] at found
    cases found
    exact faulty

theorem plain_trim {text : List Char} : Plain (trim text) ↔ Plain text := by
  obtain ⟨lead, gap, leadBlank, gapBlank, same⟩ := exists_padding text
  conv => rhs; rw [same]
  rw [plain_append, plain_append]
  simp only [Plain.of_blanks leadBlank, Plain.of_blanks gapBlank, true_and, and_true]

theorem plain_iff_not {text : List Char} : Plain text ↔ ¬ ('<' ∈ text ∨ '>' ∈ text) := by
  rw [not_or]
  exact ⟨fun plain => ⟨plain.noOpen, plain.noClose⟩, fun without => ⟨without.1, without.2⟩⟩

/-- Reading the root blames the brackets for these faults. -/
theorem blames_splitHead_iff {body text : List Char} :
    Blames (splitHead body text) ↔ RootFault body := by
  by_cases opened : '<' ∈ body
  · obtain ⟨front, behind, rfl, noOpen⟩ := exists_open_of_mem opened
    rw [splitHead_append_open noOpen]
    split
    · next unclosed => simp [Blames, rootFault_of_unclosed noOpen unclosed]
    · next inner after closed =>
      obtain ⟨rfl, inside⟩ := upToClose_eq_some_iff.1 closed
      rw [rootFault_pair_iff noOpen inside]
      split
      · next blank => simp [Blames, Plain.of_blanks (blanks_of_trim_eq_nil blank)]
      · rw [← plain_trim, plain_iff_not, not_not]
        split
        · next brackets => simp [Blames, brackets]
        · next without => simp [Blames, without]
  · rw [splitHead_of_not_mem opened, rootFault_of_not_mem opened]
    split
    · next closed => simp [Blames, closed]
    · next without => simp [Blames, without]

/-- A text that comes back to the depth it started from closes the bracket opened there. -/
theorem exists_upToClose {depth : Nat} {text : List Char}
    (scan : depthAfter (depth + 1) text = some 0) : ∃ read, upToClose depth text = some read := by
  fun_induction upToClose depth text with
  | case1 depth => cases scan
  | case2 depth rest ih =>
    obtain ⟨read, found⟩ := ih scan
    exact ⟨_, by rw [found, Option.map_some]⟩
  | case3 rest => exact ⟨_, rfl⟩
  | case4 depth rest positive _ ih =>
    obtain ⟨below, rfl⟩ := Nat.exists_eq_succ_of_ne_zero positive
    obtain ⟨read, found⟩ := ih scan
    exact ⟨_, by rw [found, Option.map_some]⟩
  | case5 depth c rest notOpen notClose ih =>
    rw [depthAfter, if_neg notOpen, if_neg notClose] at scan
    obtain ⟨read, found⟩ := ih scan
    exact ⟨_, by rw [found, Option.map_some]⟩

theorem closedInFront_pair_iff {front inner after : List Char} (noOpen : '<' ∉ front)
    (inside : Balanced inner) :
    ClosedInFront (front ++ '<' :: (inner ++ '>' :: after)) ↔ '>' ∈ front ∧ Plain after := by
  constructor
  · intro closedInFront
    generalize same : front ++ '<' :: (inner ++ '>' :: after) = text at closedInFront
    obtain ⟨noOpen', closed, inside', plain⟩ := closedInFront
    obtain ⟨rfl, rfl, rfl⟩ := eq_of_pair_eq noOpen inside noOpen' inside' same
    exact ⟨closed, plain⟩
  · rintro ⟨closed, plain⟩
    exact .of noOpen closed inside plain

/-- A text whose first `<` is not closed is unbalanced, whatever stands in front of it. -/
theorem faults_of_unclosed {front behind : List Char} (noOpen : '<' ∉ front)
    (unclosed : upToClose 0 behind = none) :
    ¬ Balanced (front ++ '<' :: behind) ∧ ¬ ClosedInFront (front ++ '<' :: behind) := by
  constructor
  · intro balanced
    obtain ⟨read, found⟩ := exists_upToClose ((balanced_open_iff noOpen).1 balanced).2
    rw [unclosed] at found
    cases found
  · intro closedInFront
    generalize same : front ++ '<' :: behind = text at closedInFront
    obtain ⟨noOpen', -, inside, -⟩ := closedInFront
    obtain ⟨-, rfl⟩ := eq_of_open_eq noOpen noOpen' same
    rw [upToClose_eq_some_iff.2 ⟨rfl, inside⟩] at unclosed
    cases unclosed

/-- The brackets behind a pair of brackets are blamed if the whole is unbalanced, but for a `>`
in front, and if it is not. -/
theorem not_plain_after_iff {front inner after : List Char} (noOpen : '<' ∉ front)
    (inside : Balanced inner) :
    ¬ Plain after ↔
      (¬ Balanced (front ++ '<' :: (inner ++ '>' :: after)) ∧
        ¬ ClosedInFront (front ++ '<' :: (inner ++ '>' :: after))) ∨
      (Plain front ∧ Balanced after ∧ '<' ∈ after) := by
  rw [balanced_pair_iff noOpen inside, closedInFront_pair_iff noOpen inside]
  constructor
  · intro brackets
    by_cases stray : '>' ∈ front
    · exact .inl ⟨fun balanced => balanced.1 stray, fun only => brackets only.2⟩
    · by_cases balanced : Balanced after
      · have more : '<' ∈ after := Decidable.byContradiction fun without =>
          brackets (balanced.plain without)
        exact .inr ⟨⟨noOpen, stray⟩, balanced, more⟩
      · exact .inl ⟨fun whole => balanced whole.2, fun only => stray only.1⟩
  · rintro (⟨unbalanced, notInFront⟩ | ⟨-, -, more⟩) plain
    · by_cases stray : '>' ∈ front
      · exact notInFront ⟨stray, plain⟩
      · exact unbalanced ⟨stray, plain.balanced⟩
    · exact plain.noOpen more

/-- The brackets at the root are blamed if they are unbalanced, but for a `>` in front, or if
there are more of them than one pair. -/
theorem rootFault_iff {text : List Char} :
    RootFault text ↔ (Unbalanced text ∧ ¬ ClosedInFront text) ∨
      ∃ front inner after, text = front ++ '<' :: (inner ++ '>' :: after) ∧ Plain front ∧
        Balanced inner ∧ Balanced after ∧ '<' ∈ after := by
  rw [unbalanced_iff]
  by_cases opened : '<' ∈ text
  · obtain ⟨front, behind, rfl, noOpen⟩ := exists_open_of_mem opened
    cases closed : upToClose 0 behind with
    | none =>
      exact iff_of_true (rootFault_of_unclosed noOpen closed)
        (.inl (faults_of_unclosed noOpen closed))
    | some read =>
      obtain ⟨inner, after⟩ := read
      obtain ⟨rfl, inside⟩ := upToClose_eq_some_iff.1 closed
      rw [rootFault_pair_iff noOpen inside, not_plain_after_iff noOpen inside]
      refine or_congr_right
        ⟨fun ⟨plain, behind⟩ => ⟨front, inner, after, rfl, plain, inside, behind⟩, ?_⟩
      rintro ⟨front', inner', after', same, plain, inside', behind⟩
      obtain ⟨rfl, rfl, rfl⟩ := eq_of_pair_eq noOpen inside plain.noOpen inside' same
      exact ⟨plain, behind⟩
  · have noPair : ¬ ClosedInFront text := by
      rintro ⟨-, -, -, -⟩
      exact opened (by simp)
    rw [rootFault_of_not_mem opened]
    constructor
    · intro stray
      exact .inl ⟨fun balanced => (balanced.plain opened).noClose stray, noPair⟩
    · rintro (⟨unbalanced, -⟩ | ⟨front, inner, after, rfl, -⟩)
      · exact Decidable.byContradiction fun without =>
          unbalanced (Plain.balanced ⟨opened, without⟩)
      · exact absurd (by simp) opened

/-! ## Brackets in arguments -/

theorem blames_bind_iff {α β : Type} {result : Except TypeError α}
    {next : α → Except TypeError β} :
    Blames (result.bind next) ↔
      Blames result ∨ ∃ found, result = .ok found ∧ Blames (next found) := by
  cases result <;> simp [Except.bind, Blames]

theorem not_blames_bare (name : String) (nullable : Bool) (text : List Char) :
    ¬ Blames (bare name nullable text) := by
  rw [bare]
  split <;> simp [Blames]

theorem not_blames_applied (name : String) (args : List TypeExpr) (nullable : Bool)
    (text : List Char) : ¬ Blames (applied name args nullable text) := by
  unfold applied
  split
  · split <;> simp [Blames]
  · split
    · split <;> simp [Blames]
    · simp [Blames]

/-- The text between the brackets can always be cut, so the brackets are blamed at the root or
for an argument. -/
theorem blames_parseChars_iff {raw : List Char} :
    Blames (parseChars raw) ↔ RootFault raw ∨
      ∃ name inner pieces, isIdentifier name = true ∧
        splitHead (splitNullMark (trim raw)).1 (trim raw) = .ok (name, some inner) ∧
        piecesOutside ',' inner = some pieces ∧
        Blames (parseEach (trim raw) (pieces.map trim)) := by
  have root : RootFault (splitNullMark (trim raw)).1 ↔ RootFault raw := by
    obtain ⟨lead, gap, mark, leadBlank, gapBlank, suffix, frame⟩ := exists_frame raw
    rw [List.append_assoc] at frame
    conv => rhs; rw [frame]
    exact (rootFault_frame (.of_blanks leadBlank)
      (plain_append.2 ⟨.of_blanks gapBlank, .of_suffix suffix⟩)).symm
  rw [parseChars_eq, blames_bind_iff, blames_splitHead_iff, root]
  refine or_congr_right ⟨?_, ?_⟩
  · rintro ⟨⟨name, inner?⟩, head, blames⟩
    dsimp only at blames
    split at blames
    · next valid =>
      cases inner? with
      | none => exact absurd blames (not_blames_bare _ _ _)
      | some inner =>
        obtain ⟨-, -, -, -, balanced, -, -⟩ := splitHead_eq_applied_iff.1 head
        obtain ⟨pieces, found⟩ := exists_piecesOutside ',' balanced
        refine ⟨name, inner, pieces, valid, head, found, ?_⟩
        rw [Option.elim_some, splitOutside_eq_ok_iff.2 ⟨pieces, found, rfl⟩] at blames
        change Blames ((parseEach (trim raw) (pieces.map trim)).bind _) at blames
        rcases blames_bind_iff.1 blames with inArgs | ⟨args, -, inTree⟩
        · exact inArgs
        · exact absurd inTree (not_blames_applied _ _ _ _)
    · simp [Blames] at blames
  · rintro ⟨name, inner, pieces, valid, head, found, blames⟩
    refine ⟨(name, some inner), head, ?_⟩
    rw [if_pos valid]
    exact blames_bind_iff.2 (.inr ⟨_, splitOutside_eq_ok_iff.2 ⟨pieces, found, rfl⟩,
      blames_bind_iff.2 (.inl blames)⟩)

/-- A piece is blamed for its brackets, and those in front of it are types. -/
def BlamedPiece (pieces : List (List Char)) : Prop :=
  ∃ (before : List (List Char × TypeExpr)) (piece : List Char) (rest : List (List Char)),
    pieces = before.map Prod.fst ++ piece :: rest ∧ (∀ arg ∈ before, Derives arg.1 arg.2) ∧
      Blames (parseChars piece)

theorem blamedPiece_cons {piece : List Char} {rest : List (List Char)} :
    BlamedPiece (piece :: rest) ↔
      Blames (parseChars piece) ∨ ∃ tree, parseChars piece = .ok tree ∧ BlamedPiece rest := by
  constructor
  · rintro ⟨before, blamed, others, same, read, blames⟩
    cases before with
    | nil =>
      cases same
      exact .inl blames
    | cons arg before =>
      cases same
      obtain ⟨first, later⟩ := List.forall_mem_cons.1 read
      exact .inr ⟨arg.2, parseChars_of_derives first, before, blamed, others, rfl, later, blames⟩
  · rintro (blames | ⟨tree, parsed, before, blamed, others, rfl, read, blames⟩)
    · exact ⟨[], piece, rest, rfl, by simp, blames⟩
    · exact ⟨(piece, tree) :: before, blamed, others, rfl,
        List.forall_mem_cons.2 ⟨derives_of_parseChars parsed, read⟩, blames⟩

theorem not_blames_of_trim_eq_nil {piece : List Char} (empty : trim piece = []) :
    ¬ Blames (parseChars piece) := by
  rw [parseChars_eq, empty]
  simp [splitNullMark, splitHead, Except.bind, trim, trimStart, trimEnd, isIdentifier, Blames]

/-- Arguments are read up to the first that is no type. -/
theorem blames_parseEach_iff {text : List Char} {pieces : List (List Char)} :
    Blames (parseEach text (pieces.map trim)) ↔ BlamedPiece pieces := by
  induction pieces with
  | nil => simp [parseEach, Blames, BlamedPiece]
  | cons piece rest ih =>
    rw [List.map_cons, parseEach, parseChars_trim, blamedPiece_cons]
    split
    · next empty =>
      have unread : ∀ tree, parseChars piece ≠ .ok tree := fun tree parsed =>
        trim_ne_nil_of_parseChars parsed empty
      have unblamed := not_blames_of_trim_eq_nil empty
      rw [Blames, not_exists] at unblamed
      simp [Blames, unblamed, unread]
    · cases parsed : parseChars piece with
      | error cause => simp [Blames]
      | ok tree =>
        rw [← ih]
        cases parseEach text (rest.map trim) <;> simp [Blames]

/-! ## Bracket errors -/

theorem Adjoined.blames {raw : List Char} (adjoined : Adjoined raw) : Blames (parseChars raw) := by
  induction adjoined with
  | behind plain inside balanced more =>
    exact blames_parseChars_iff.2 (.inl (rootFault_iff.2
      (.inr ⟨_, _, _, rfl, plain, inside, balanced, more⟩)))
  | argument leadBlank valid spaceBlank read faulty uncut others gapBlank suffix ih =>
    rename_i lead name space piece gap mark nullable before rest
    have each := forall_pieces_whole read uncut others
    have balanced := balanced_intercalate fun part member => (each part member).balanced
    have found := piecesOutside_intercalate (by decide) (by simp)
      fun part member => ⟨(each part member).balanced, (each part member).uncut⟩
    rw [blames_parseChars_iff, splitNullMark_applied leadBlank valid gapBlank suffix]
    exact .inr ⟨name, _, _, valid, splitHead_applied _ valid spaceBlank balanced, found,
      blames_parseEach_iff.2 ⟨before, piece, rest, rfl, read, ih⟩⟩

theorem blames_iff (raw : List Char) :
    Blames (parseChars raw) ↔
      (Unbalanced raw ∧ ¬ ClosedInFront raw) ∨ Adjoined raw := by
  -- By the length of the text: an argument is balanced, so if it is blamed it is adjoined.
  induction size : raw.length using Nat.strongRecOn generalizing raw with
  | ind n ih =>
    subst size
    constructor
    · intro blames
      rcases blames_parseChars_iff.1 blames with
        root | ⟨name, inner, pieces, valid, head, found, inArgs⟩
      · rcases rootFault_iff.1 root with
          unbalanced | ⟨front, inner, after, rfl, plain, inside, balanced, more⟩
        · exact .inl unbalanced
        · exact .inr (.behind plain inside balanced more)
      · obtain ⟨before, piece, rest, rfl, read, blamed⟩ := blames_parseEach_iff.1 inArgs
        obtain ⟨lead, space, gap, mark, leadBlank, spaceBlank, gapBlank, suffix, -, frame⟩ :=
          exists_frame_of_applied head
        have whole : ∀ part ∈ before.map Prod.fst ++ piece :: rest, Whole part :=
          fun part member =>
            ⟨(uncut_of_piecesOutside found part member).1,
              (uncut_of_piecesOutside found part member).2⟩
        have isPiece : piece ∈ before.map Prod.fst ++ piece :: rest := by simp
        have shorter : piece.length < raw.length := by
          have := length_lt_extent isPiece
          have := piecesOutside_extent found
          have := splitHead_length head
          have := length_splitNullMark_le (trim raw)
          have := length_trim_le raw
          omega
        rcases (ih _ shorter piece rfl).1 blamed with ⟨unbalanced, -⟩ | faulty
        · exact absurd (whole piece isPiece).balanced (unbalanced_iff.1 unbalanced)
        · rw [frame, (piecesOutside_join found).2]
          exact .inr (.argument leadBlank valid spaceBlank read faulty (whole piece isPiece)
            (fun other member => whole other (by simp [member])) gapBlank suffix)
    · rintro (unbalanced | adjoined)
      · exact blames_parseChars_iff.2 (.inl (rootFault_iff.2 (.inl unbalanced)))
      · exact adjoined.blames

/-- **Bracket errors and brackets.** A text gets an error about its brackets exactly if they are
unbalanced, and not only by a `>` in front of one pair of brackets, or if it is balanced and has
brackets behind those of its arguments. Every unbalanced text gets some error. -/
theorem unbalancedBrackets_iff (raw : String) :
    ((∃ text, parse raw = .error (.unbalancedBrackets text)) ↔
      (Unbalanced raw.toList ∧ ¬ ClosedInFront raw.toList) ∨ Adjoined raw.toList) ∧
    (Unbalanced raw.toList → ∃ cause, parse raw = .error cause) ∧
    (ClosedInFront raw.toList → Unbalanced raw.toList) ∧
    (Adjoined raw.toList → ¬ Unbalanced raw.toList) := by
  refine ⟨blames_iff raw.toList, fun unbalanced => ?_, fun closedInFront => ?_, fun adjoined => ?_⟩
  · cases read : parse raw with
    | error cause => exact ⟨cause, rfl⟩
    | ok tree =>
      have derived := parse_eq_ok_iff.1 read
      exact absurd derived.whole.balanced (unbalanced_iff.1 unbalanced)
  · rw [unbalanced_iff]
    generalize raw.toList = text at closedInFront
    obtain ⟨noOpen, closed, inside, -⟩ := closedInFront
    exact fun balanced => ((balanced_pair_iff noOpen inside).1 balanced).1 closed
  · rw [unbalanced_iff, not_not]
    exact adjoined.balanced

/-- An argument with two pairs of brackets, and a `>` in front of a pair. -/
theorem unbalancedBrackets_iff_nested :
    Adjoined "Map<String, List<int><int>>".toList ∧
    ¬ Unbalanced "Map<String, List<int><int>>".toList ∧
    (∃ text, parse "Map<String, List<int><int>>" = .error (.unbalancedBrackets text)) ∧
    ClosedInFront "Map>List<int>".toList ∧ Unbalanced "Map>List<int>".toList ∧
    ∃ cause, parse "Map>List<int>" = .error cause := by
  have first : Derives ['S', 't', 'r', 'i', 'n', 'g'] (.scalar "String" false) :=
    @Derives.bare [] ['S', 't', 'r', 'i', 'n', 'g'] [] [] false (by decide) (by decide)
      (by decide) .absent (by decide) (by decide)
  have second : Adjoined (" List".toList ++ '<' :: ("int".toList ++ '>' :: "<int>".toList)) :=
    .behind ⟨by decide, by decide⟩ rfl rfl (by decide)
  have adjoined : Adjoined "Map<String, List<int><int>>".toList :=
    @Adjoined.argument [] "Map".toList [] _ [] [] false
      [(['S', 't', 'r', 'i', 'n', 'g'], .scalar "String" false)] [] (by decide) (by decide)
      (by decide) (by simpa using first) second ⟨rfl, by decide⟩ (by simp) (by decide) .absent
  have closedInFront : ClosedInFront "Map>List<int>".toList :=
    @ClosedInFront.of "Map>List".toList "int".toList [] (by decide) (by decide) rfl
      ⟨by decide, by decide⟩
  obtain ⟨blamed, -, -, balanced⟩ := unbalancedBrackets_iff "Map<String, List<int><int>>"
  obtain ⟨-, refused, unbalanced, -⟩ := unbalancedBrackets_iff "Map>List<int>"
  exact ⟨adjoined, balanced adjoined, blamed.2 (.inr adjoined), closedInFront,
    unbalanced closedInFront, refused (unbalanced closedInFront)⟩

/-- Unbalanced brackets that are not blamed, and balanced ones that are. -/
theorem brackets_misjudged :
    (Unbalanced "int><String>".toList ∧
      parse "int><String>" = .error (.invalidIdentifier "int>" "int><String>")) ∧
    ¬ Unbalanced "List<int><int>".toList ∧
      parse "List<int><int>" = .error (.unbalancedBrackets "List<int><int>") := by
  refine ⟨⟨.inl ⟨['i', 'n', 't', '>'], by decide, by decide⟩, ?_⟩, ?_, ?_⟩
  · rw [parse, parseChars_eq]
    rfl
  · rw [unbalanced_iff, not_not]
    rfl
  · rw [parse, parseChars_eq]
    rfl

end Recordsmith.TypeExpr
