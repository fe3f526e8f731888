/-
# Recordsmith.Proofs.TypeExpr.Brackets — both bracket scans count one depth

The two scans over `<` and `>` keep a counter each. `depthAfter` is that counter
alone: the depth behind a text, or nothing if a `>` closes more than was opened.
A text is `Balanced` if it leads from depth 0 back to depth 0. What the scans do
is told through it:

* `upToClose_append`, `piecesFrom_append`: a scan runs over any text whose
  depth it can follow (for the pieces: one without a delimiter outside
  brackets) and goes on behind it;
* `upToClose_eq_some_iff`: `upToClose` finds the first `>` behind a balanced text;
* `piecesOutside_join`: the pieces with the delimiter between them are the text;
* `uncut_of_piecesOutside`: each piece is balanced, and cutting it again gives nothing new.

`depthAfter_eq_some_iff` tells the depth by counting: a text can be followed if no
place in it has more `>` in front of it than `<`.
-/
import Recordsmith.TypeExpr.Brackets

namespace Recordsmith.TypeExpr

set_option autoImplicit false

/-- The bracket depth behind a text that starts at `depth`; `none` if a bracket
is closed that was not opened. -/
def depthAfter : Nat → List Char → Option Nat
  | depth, [] => some depth
  | depth, c :: rest =>
      if c = '<' then depthAfter (depth + 1) rest
      else if c = '>' then
        if depth = 0 then none else depthAfter (depth - 1) rest
      else depthAfter depth rest

/-- Every bracket opened is closed, and no other. -/
def Balanced (text : List Char) : Prop :=
  depthAfter 0 text = some 0

/-- The number of delimiters outside brackets in a text read from `depth`. -/
def delimitersOutside (delimiter : Char) : Nat → List Char → Nat
  | _, [] => 0
  | depth, c :: rest =>
      if c = '<' then delimitersOutside delimiter (depth + 1) rest
      else if c = '>' then delimitersOutside delimiter (depth - 1) rest
      else if c = delimiter ∧ depth = 0 then delimitersOutside delimiter depth rest + 1
      else delimitersOutside delimiter depth rest

/-! ## The depth -/

@[simp] theorem depthAfter_open (depth : Nat) (rest : List Char) :
    depthAfter depth ('<' :: rest) = depthAfter (depth + 1) rest := rfl

@[simp] theorem depthAfter_close (depth : Nat) (rest : List Char) :
    depthAfter (depth + 1) ('>' :: rest) = depthAfter depth rest := rfl

theorem depthAfter_append {depth middle : Nat} {front : List Char}
    (scan : depthAfter depth front = some middle) (back : List Char) :
    depthAfter depth (front ++ back) = depthAfter middle back := by
  fun_induction depthAfter depth front with
  | case1 depth => cases scan; rfl
  | case2 depth rest ih => exact ih scan
  | case3 rest => cases scan
  | case4 depth rest nonzero _ ih => simpa [depthAfter, nonzero] using ih scan
  | case5 depth c rest notOpen notClose ih => simpa [depthAfter, notOpen, notClose] using ih scan

/-- What can be followed from a depth can be followed from any larger one. -/
theorem depthAfter_add {depth final : Nat} {text : List Char}
    (scan : depthAfter depth text = some final) (more : Nat) :
    depthAfter (depth + more) text = some (final + more) := by
  fun_induction depthAfter depth text with
  | case1 depth => cases scan; rfl
  | case2 depth rest ih =>
    rw [depthAfter_open, Nat.add_right_comm]
    exact ih scan
  | case3 rest => cases scan
  | case4 depth rest nonzero _ ih =>
    obtain ⟨below, rfl⟩ := Nat.exists_eq_succ_of_ne_zero nonzero
    rw [Nat.succ_add, depthAfter_close]
    exact ih scan
  | case5 depth c rest notOpen notClose ih => simpa [depthAfter, notOpen, notClose] using ih scan

theorem depthAfter_of_not_mem {text : List Char} (noOpen : '<' ∉ text) (noClose : '>' ∉ text)
    (depth : Nat) : depthAfter depth text = some depth := by
  induction text with
  | nil => rfl
  | cons c rest ih =>
    simp only [List.mem_cons, not_or] at noOpen noClose
    rw [depthAfter, if_neg (Ne.symm noOpen.1), if_neg (Ne.symm noClose.1)]
    exact ih noOpen.2 noClose.2

theorem Balanced.of_not_mem {text : List Char} (noOpen : '<' ∉ text) (noClose : '>' ∉ text) :
    Balanced text :=
  depthAfter_of_not_mem noOpen noClose 0

theorem Balanced.depthAfter {text : List Char} (balanced : Balanced text) (depth : Nat) :
    depthAfter depth text = some depth := by
  simpa using depthAfter_add balanced depth

theorem Balanced.append {front back : List Char} (first : Balanced front)
    (second : Balanced back) : Balanced (front ++ back) := by
  rw [Balanced, depthAfter_append first]
  exact second

/-- Brackets around a balanced text. -/
theorem Balanced.enclose {inner : List Char} (balanced : Balanced inner) :
    Balanced ('<' :: (inner ++ ['>'])) := by
  rw [Balanced, depthAfter_open, depthAfter_append (balanced.depthAfter 1)]
  rfl

/-! ## Counting -/

theorem forall_isPrefix_cons {P : List Char → Prop} {c : Char} {rest : List Char} :
    (∀ front, front <+: c :: rest → P front) ↔
      P [] ∧ ∀ front, front <+: rest → P (c :: front) := by
  simp only [List.prefix_cons_iff]
  constructor
  · intro all
    exact ⟨all [] (.inl rfl), fun front isPrefix => all _ (.inr ⟨front, rfl, isPrefix⟩)⟩
  · rintro ⟨none, longer⟩ _ (rfl | ⟨front, rfl, isPrefix⟩)
    · exact none
    · exact longer front isPrefix

/-- The depth is the number of brackets that are opened and not closed, and no place has more
closed than are open. -/
theorem depthAfter_eq_some_iff {depth final : Nat} {text : List Char} :
    depthAfter depth text = some final ↔
      (∀ front, front <+: text → front.count '>' ≤ depth + front.count '<') ∧
        final + text.count '>' = depth + text.count '<' := by
  induction text generalizing depth with
  | nil => simp [depthAfter, eq_comm]
  | cons c rest ih =>
    rw [forall_isPrefix_cons, depthAfter]
    split
    · next opens =>
      subst opens
      rw [ih]
      simp [Nat.add_assoc, Nat.add_comm 1]
    · split
      · next closes =>
        subst closes
        split
        · next zero =>
          subst zero
          constructor
          · intro impossible
            cases impossible
          · rintro ⟨⟨-, each⟩, -⟩
            exact absurd (each [] List.nil_prefix) (by decide)
        · next positive =>
          obtain ⟨below, rfl⟩ := Nat.exists_eq_succ_of_ne_zero positive
          simp only [Nat.succ_eq_add_one, Nat.add_sub_cancel, ih, List.count_nil, Nat.zero_le,
            true_and, List.count_cons_self, List.count_cons_of_ne (show '>' ≠ '<' by decide)]
          exact and_congr (forall₂_congr fun front _ => by omega) (by omega)
      · next notOpen notClose =>
        rw [ih]
        simp [notOpen, notClose]

/-! ## Delimiters outside brackets -/

theorem delimitersOutside_append {delimiter : Char} {depth middle : Nat} {front : List Char}
    (scan : depthAfter depth front = some middle) (back : List Char) :
    delimitersOutside delimiter depth (front ++ back) =
      delimitersOutside delimiter depth front + delimitersOutside delimiter middle back := by
  fun_induction depthAfter depth front with
  | case1 depth => cases scan; simp [delimitersOutside]
  | case2 depth rest ih => simpa [delimitersOutside] using ih scan
  | case3 rest => cases scan
  | case4 depth rest nonzero _ ih => simpa [delimitersOutside] using ih scan
  | case5 depth c rest notOpen notClose ih =>
    simp only [List.cons_append, delimitersOutside, if_neg notOpen, if_neg notClose, ih scan]
    split <;> omega

/-- Within brackets no delimiter counts. -/
theorem delimitersOutside_succ {delimiter : Char} {depth final : Nat} {text : List Char}
    (scan : depthAfter depth text = some final) :
    delimitersOutside delimiter (depth + 1) text = 0 := by
  fun_induction depthAfter depth text with
  | case1 depth => rfl
  | case2 depth rest ih => simpa [delimitersOutside] using ih scan
  | case3 rest => cases scan
  | case4 depth rest nonzero _ ih =>
    obtain ⟨below, rfl⟩ := Nat.exists_eq_succ_of_ne_zero nonzero
    simpa [delimitersOutside] using ih scan
  | case5 depth c rest notOpen notClose ih =>
    simpa [delimitersOutside, notOpen, notClose] using ih scan

theorem delimitersOutside_of_not_mem {delimiter : Char} {text : List Char}
    (absent : delimiter ∉ text) (depth : Nat) : delimitersOutside delimiter depth text = 0 := by
  induction text generalizing depth with
  | nil => rfl
  | cons c rest ih =>
    simp only [List.mem_cons, not_or] at absent
    have different : ¬ (c = delimiter ∧ depth = 0) := fun same => absent.1 same.1.symm
    simp only [delimitersOutside, if_neg different, ih absent.2, ite_self]

theorem delimitersOutside_enclose {delimiter : Char} {inner : List Char}
    (balanced : Balanced inner) : delimitersOutside delimiter 0 ('<' :: (inner ++ ['>'])) = 0 := by
  have closing : delimitersOutside delimiter 1 ['>'] = 0 := rfl
  simp only [delimitersOutside, if_true]
  rw [delimitersOutside_append (balanced.depthAfter 1), delimitersOutside_succ balanced, closing]

/-! ## Reading up to the closing bracket -/

theorem upToClose_append {depth middle : Nat} {front : List Char}
    (scan : depthAfter depth front = some middle) (back : List Char) :
    upToClose depth (front ++ back) =
      (upToClose middle back).map fun read => (front ++ read.1, read.2) := by
  fun_induction depthAfter depth front with
  | case1 depth =>
    cases scan
    exact Option.map_id'.symm
  | case2 depth rest ih => simp [upToClose, ih scan, Function.comp_def, addFront]
  | case3 rest => cases scan
  | case4 depth rest nonzero _ ih =>
    simp [upToClose, nonzero, ih scan, Function.comp_def, addFront]
  | case5 depth c rest notOpen notClose ih =>
    simp [upToClose, notOpen, notClose, ih scan, Function.comp_def, addFront]

theorem upToClose_split {depth : Nat} {text inner after : List Char}
    (closed : upToClose depth text = some (inner, after)) :
    text = inner ++ '>' :: after ∧ depthAfter depth inner = some 0 := by
  fun_induction upToClose depth text generalizing inner after with
  | case1 => cases closed
  | case3 => cases closed; exact ⟨rfl, rfl⟩
  | case2 depth rest ih =>
    obtain ⟨⟨front, back⟩, found, same⟩ := Option.map_eq_some_iff.1 closed
    cases same
    obtain ⟨rfl, scan⟩ := ih found
    exact ⟨rfl, scan⟩
  | case4 depth rest nonzero _ ih =>
    obtain ⟨⟨front, back⟩, found, same⟩ := Option.map_eq_some_iff.1 closed
    cases same
    obtain ⟨rfl, scan⟩ := ih found
    exact ⟨rfl, by simpa [depthAfter, nonzero] using scan⟩
  | case5 depth c rest notOpen notClose ih =>
    obtain ⟨⟨front, back⟩, found, same⟩ := Option.map_eq_some_iff.1 closed
    cases same
    obtain ⟨rfl, scan⟩ := ih found
    exact ⟨rfl, by simpa [depthAfter, notOpen, notClose] using scan⟩

/-- The bracket that closes an open one is the first behind a balanced text. -/
theorem upToClose_eq_some_iff {text inner after : List Char} :
    upToClose 0 text = some (inner, after) ↔ text = inner ++ '>' :: after ∧ Balanced inner := by
  constructor
  · exact upToClose_split
  · rintro ⟨rfl, balanced⟩
    rw [upToClose_append balanced]
    simp [upToClose]

/-! ## Pieces -/

theorem piecesFrom_append {delimiter : Char} {depth middle : Nat} {front : List Char}
    (scan : depthAfter depth front = some middle)
    (free : delimitersOutside delimiter depth front = 0) (back : List Char) :
    piecesFrom delimiter depth (front ++ back) =
      (piecesFrom delimiter middle back).map fun read => (front ++ read.1, read.2) := by
  fun_induction depthAfter depth front with
  | case1 depth =>
    cases scan
    exact Option.map_id'.symm
  | case2 depth rest ih =>
    have free : delimitersOutside delimiter (depth + 1) rest = 0 := by
      simpa [delimitersOutside] using free
    simp [piecesFrom, ih scan free, Function.comp_def, addFront]
  | case3 rest => cases scan
  | case4 depth rest nonzero _ ih =>
    have free : delimitersOutside delimiter (depth - 1) rest = 0 := by
      simpa [delimitersOutside] using free
    simp [piecesFrom, nonzero, ih scan free, Function.comp_def, addFront]
  | case5 depth c rest notOpen notClose ih =>
    rw [delimitersOutside, if_neg notOpen, if_neg notClose] at free
    split at free
    · cases free
    · next inside =>
      simp [piecesFrom, notOpen, notClose, inside, ih scan free, Function.comp_def, addFront]

theorem piecesFrom_join {delimiter : Char} {depth : Nat} {text piece : List Char}
    {others : List (List Char)} (cut : piecesFrom delimiter depth text = some (piece, others)) :
    text = [delimiter].intercalate (piece :: others) := by
  fun_induction piecesFrom delimiter depth text generalizing piece others with
  | case1 => cases cut; rfl
  | case2 => cases cut
  | case4 => cases cut
  | case6 depth c rest _ _ atDelimiter ih =>
    obtain ⟨⟨first, behind⟩, found, same⟩ := Option.map_eq_some_iff.1 cut
    cases same
    obtain ⟨rfl, -⟩ := atDelimiter
    rw [List.intercalate_cons_cons, ← ih found]
    rfl
  | case3 | case5 | case7 =>
    rename_i ih
    obtain ⟨⟨first, behind⟩, found, same⟩ := Option.map_eq_some_iff.1 cut
    cases same
    rw [ih found]
    cases behind <;> simp

/-- Cutting loses the delimiters between the pieces, and nothing else. -/
theorem piecesOutside_join {delimiter : Char} {text : List Char} {pieces : List (List Char)}
    (cut : piecesOutside delimiter text = some pieces) :
    pieces ≠ [] ∧ text = [delimiter].intercalate pieces := by
  obtain ⟨⟨piece, others⟩, found, rfl⟩ := Option.map_eq_some_iff.1 cut
  exact ⟨List.cons_ne_nil _ _, piecesFrom_join found⟩

/-- The pieces are balanced, and no delimiter in them stands outside brackets. -/
theorem uncut_of_piecesFrom {delimiter : Char} {depth : Nat} {text piece : List Char}
    {others : List (List Char)} (cut : piecesFrom delimiter depth text = some (piece, others)) :
    (depthAfter depth piece = some 0 ∧ delimitersOutside delimiter depth piece = 0) ∧
      ∀ other ∈ others, Balanced other ∧ delimitersOutside delimiter 0 other = 0 := by
  fun_induction piecesFrom delimiter depth text generalizing piece others with
  | case1 =>
    cases cut
    exact ⟨⟨rfl, rfl⟩, by simp⟩
  | case2 => cases cut
  | case4 => cases cut
  | case6 depth c rest _ _ atDelimiter ih =>
    obtain ⟨⟨first, behind⟩, found, same⟩ := Option.map_eq_some_iff.1 cut
    cases same
    obtain ⟨rfl, rfl⟩ := atDelimiter
    obtain ⟨next, later⟩ := ih found
    exact ⟨⟨rfl, rfl⟩, List.forall_mem_cons.2 ⟨next, later⟩⟩
  | case3 depth rest ih =>
    obtain ⟨⟨first, behind⟩, found, same⟩ := Option.map_eq_some_iff.1 cut
    cases same
    exact ih found
  | case5 depth rest positive _ ih =>
    obtain ⟨⟨first, behind⟩, found, same⟩ := Option.map_eq_some_iff.1 cut
    cases same
    simpa [depthAfter, delimitersOutside, positive] using ih found
  | case7 depth c rest notOpen notClose inside ih =>
    obtain ⟨⟨first, behind⟩, found, same⟩ := Option.map_eq_some_iff.1 cut
    cases same
    simpa [depthAfter, delimitersOutside, notOpen, notClose, inside] using ih found

/-- A text is cut if its depth can be followed to the end and comes back to 0. -/
theorem exists_piecesFrom (delimiter : Char) {depth : Nat} {text : List Char}
    (scan : depthAfter depth text = some 0) :
    ∃ read, piecesFrom delimiter depth text = some read := by
  fun_induction depthAfter depth text with
  | case1 depth =>
    cases scan
    exact ⟨_, rfl⟩
  | case2 depth rest ih =>
    obtain ⟨read, found⟩ := ih scan
    exact ⟨_, by rw [piecesFrom, if_pos rfl, found, Option.map_some]⟩
  | case3 rest => cases scan
  | case4 depth rest positive _ ih =>
    obtain ⟨read, found⟩ := ih scan
    exact ⟨_, by
      rw [piecesFrom, if_neg (by decide), if_pos rfl, if_neg positive, found, Option.map_some]⟩
  | case5 depth c rest notOpen notClose ih =>
    obtain ⟨read, found⟩ := ih scan
    rw [piecesFrom, if_neg notOpen, if_neg notClose, found]
    split
    · exact ⟨_, rfl⟩
    · exact ⟨_, rfl⟩

/-- A balanced text can be cut. -/
theorem exists_piecesOutside {text : List Char} (delimiter : Char) (balanced : Balanced text) :
    ∃ pieces, piecesOutside delimiter text = some pieces := by
  obtain ⟨read, found⟩ := exists_piecesFrom delimiter balanced
  exact ⟨_, by rw [piecesOutside, found, Option.map_some]⟩

/-- Every piece is balanced and has no delimiter outside brackets. -/
theorem uncut_of_piecesOutside {delimiter : Char} {text : List Char} {pieces : List (List Char)}
    (cut : piecesOutside delimiter text = some pieces) :
    ∀ piece ∈ pieces, Balanced piece ∧ delimitersOutside delimiter 0 piece = 0 := by
  obtain ⟨⟨piece, others⟩, found, rfl⟩ := Option.map_eq_some_iff.1 cut
  obtain ⟨first, later⟩ := uncut_of_piecesFrom found
  exact List.forall_mem_cons.2 ⟨first, later⟩

/-- Balanced pieces that hold no delimiter outside brackets are found again. -/
theorem piecesOutside_intercalate {delimiter : Char} {pieces : List (List Char)}
    (plain : delimiter ≠ '<' ∧ delimiter ≠ '>') (nonempty : pieces ≠ [])
    (each : ∀ piece ∈ pieces, Balanced piece ∧ delimitersOutside delimiter 0 piece = 0) :
    piecesOutside delimiter ([delimiter].intercalate pieces) = some pieces := by
  have found : ∀ piece others, pieces = piece :: others →
      piecesFrom delimiter 0 ([delimiter].intercalate pieces) = some (piece, others) := by
    clear nonempty
    induction pieces with
    | nil => intro piece others same; cases same
    | cons first rest ih =>
      rintro piece others ⟨rfl, rfl⟩
      obtain ⟨balanced, free⟩ := each first List.mem_cons_self
      cases rest with
      | nil => simpa [piecesFrom] using piecesFrom_append balanced free []
      | cons second rest =>
        have next := ih (fun piece member => each piece (List.mem_cons_of_mem _ member))
          second rest rfl
        rw [List.intercalate_cons_cons, List.append_assoc, piecesFrom_append balanced free]
        simp [piecesFrom, plain, next]
  obtain ⟨piece, others, same⟩ := List.exists_cons_of_ne_nil nonempty
  rw [piecesOutside, found piece others same, same]
  rfl

end Recordsmith.TypeExpr
