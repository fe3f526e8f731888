/-
# Recordsmith.Proofs.TypeExpr.Segments — where a text is cut

`splitOutside` runs over a text once, with a counter for the brackets that are open. What
it gives is told here without a counter. A delimiter stands *outside* brackets if there
are as many `<` as `>` in front of it (`OutsideAt`), and the *pieces* of a text are what
is between these places (`Pieces`). Then

* a text is refused exactly if its brackets are unbalanced (`splitOutside_eq_error_iff`);
* every other text is cut into its pieces, which are trimmed (`pieces_of_piecesOutside`);
* a bracket is never a delimiter (`delimitersOutside_bracket`);
* a segment is not cut any further (`splitOutside_of_uncut`).

The counter of the loop meets the counting of brackets in `delimitersOutside_eq_countP`.
-/
import Recordsmith.Proofs.TypeExpr.BracketErrors

namespace Recordsmith.TypeExpr

open Recordsmith.Text

set_option autoImplicit false

/-- The delimiter stands at this place, with as many `<` as `>` in front of it. -/
def OutsideAt (delimiter : Char) (text : List Char) (place : Nat) : Prop :=
  text[place]? = some delimiter ∧ (text.take place).count '<' = (text.take place).count '>'

instance (delimiter : Char) (text : List Char) (place : Nat) :
    Decidable (OutsideAt delimiter text place) :=
  inferInstanceAs (Decidable (_ ∧ _))

/-- The places of a text where it is cut. -/
def cuts (delimiter : Char) (text : List Char) : List Nat :=
  (List.range text.length).filter fun place => OutsideAt delimiter text place

/-- The pieces of a text between the delimiters outside brackets. -/
structure Pieces (delimiter : Char) (text : List Char) (pieces : List (List Char)) : Prop where
  joined : [delimiter].intercalate pieces = text
  balanced : ∀ piece ∈ pieces, ¬ Unbalanced piece
  uncut : ∀ piece ∈ pieces, ∀ place, ¬ OutsideAt delimiter piece place
  count : pieces.length = (cuts delimiter text).length + 1

/-! ## Delimiters outside brackets -/

/-- A bracket is counted as a bracket, whatever the delimiter is. -/
theorem delimitersOutside_bracket {delimiter : Char} (bracket : delimiter = '<' ∨ delimiter = '>')
    (depth : Nat) (text : List Char) : delimitersOutside delimiter depth text = 0 := by
  fun_induction delimitersOutside delimiter depth text with
  | case1 depth => rfl
  | case2 depth rest ih => exact ih
  | case3 depth rest notOpen ih => exact ih
  | case4 depth c rest notOpen notClose atDelimiter ih =>
    rcases bracket with same | same
    · exact absurd (atDelimiter.1.trans same) notOpen
    · exact absurd (atDelimiter.1.trans same) notClose
  | case5 depth c rest notOpen notClose inside ih => exact ih

/-- The counter of the loop is 0 where as many brackets are closed as were open. -/
theorem delimitersOutside_eq_countP {delimiter : Char} {depth final : Nat} {text : List Char}
    (plain : delimiter ≠ '<' ∧ delimiter ≠ '>') (scan : depthAfter depth text = some final) :
    delimitersOutside delimiter depth text =
      (List.range text.length).countP fun place =>
        text[place]? = some delimiter ∧
          depth + (text.take place).count '<' = (text.take place).count '>' := by
  fun_induction depthAfter depth text with
  | case1 depth => rfl
  | case2 depth rest ih =>
    rw [delimitersOutside, if_pos rfl, ih scan, List.length_cons, List.range_succ_eq_map,
      List.countP_cons, List.countP_map]
    simp [plain.1.symm, Function.comp_def, Nat.add_assoc, Nat.add_comm 1]
  | case3 rest => cases scan
  | case4 depth rest positive notOpen ih =>
    obtain ⟨below, rfl⟩ := Nat.exists_eq_succ_of_ne_zero positive
    rw [delimitersOutside, if_neg notOpen, if_pos rfl, ih scan, List.length_cons,
      List.range_succ_eq_map, List.countP_cons, List.countP_map]
    simp [plain.2.symm, Function.comp_def, Nat.succ_add]
  | case5 depth c rest notOpen notClose ih =>
    rw [delimitersOutside, if_neg notOpen, if_neg notClose, ih scan, List.length_cons,
      List.range_succ_eq_map, List.countP_cons, List.countP_map]
    simp only [List.getElem?_cons_zero, List.take_zero, List.count_nil, Nat.add_zero,
      Option.some.injEq, Function.comp_def, Nat.succ_eq_add_one, List.getElem?_cons_succ,
      List.take_succ_cons, List.count_cons_of_ne notOpen, List.count_cons_of_ne notClose,
      decide_eq_true_eq]
    split
    · rfl
    · rfl

theorem length_cuts {delimiter : Char} {text : List Char}
    (plain : delimiter ≠ '<' ∧ delimiter ≠ '>') (balanced : Balanced text) :
    (cuts delimiter text).length = delimitersOutside delimiter 0 text := by
  rw [delimitersOutside_eq_countP plain balanced, cuts, ← List.countP_eq_length_filter]
  refine List.countP_congr fun place _ => ?_
  rw [decide_eq_true_eq, decide_eq_true_eq, OutsideAt, Nat.zero_add]

theorem not_outsideAt_of_uncut {delimiter : Char} {text : List Char}
    (plain : delimiter ≠ '<' ∧ delimiter ≠ '>') (balanced : Balanced text)
    (free : delimitersOutside delimiter 0 text = 0) (place : Nat) :
    ¬ OutsideAt delimiter text place := by
  rw [← length_cuts plain balanced, List.length_eq_zero_iff, cuts, List.filter_eq_nil_iff] at free
  intro outside
  have within : place < text.length := (List.getElem?_eq_some_iff.1 outside.1).1
  exact free place (List.mem_range.2 within) (decide_eq_true outside)

/-! ## Texts that are cut -/

/-- Only a text that comes back to depth 0 is cut. -/
theorem depthAfter_of_piecesFrom {delimiter : Char} {depth : Nat} {text : List Char}
    {read : List Char × List (List Char)} (cut : piecesFrom delimiter depth text = some read) :
    depthAfter depth text = some 0 := by
  fun_induction piecesFrom delimiter depth text generalizing read with
  | case1 => rfl
  | case2 => cases cut
  | case3 depth rest ih =>
    obtain ⟨found, same, -⟩ := Option.map_eq_some_iff.1 cut
    exact ih same
  | case4 => cases cut
  | case5 depth rest positive notOpen ih =>
    obtain ⟨found, same, -⟩ := Option.map_eq_some_iff.1 cut
    simpa [depthAfter, positive] using ih same
  | case6 depth c rest notOpen notClose atDelimiter ih =>
    obtain ⟨found, same, -⟩ := Option.map_eq_some_iff.1 cut
    simpa [depthAfter, notOpen, notClose] using ih same
  | case7 depth c rest notOpen notClose inside ih =>
    obtain ⟨found, same, -⟩ := Option.map_eq_some_iff.1 cut
    simpa [depthAfter, notOpen, notClose] using ih same

theorem length_of_piecesFrom {delimiter : Char} {depth : Nat} {text piece : List Char}
    {others : List (List Char)} (cut : piecesFrom delimiter depth text = some (piece, others)) :
    others.length = delimitersOutside delimiter depth text := by
  fun_induction piecesFrom delimiter depth text generalizing piece others with
  | case1 => cases cut; rfl
  | case2 => cases cut
  | case4 => cases cut
  | case6 depth c rest notOpen notClose atDelimiter ih =>
    obtain ⟨⟨first, behind⟩, found, same⟩ := Option.map_eq_some_iff.1 cut
    cases same
    rw [delimitersOutside, if_neg notOpen, if_neg notClose, if_pos atDelimiter, List.length_cons,
      ih found]
  | case3 | case5 | case7 =>
    rename_i ih
    obtain ⟨⟨first, behind⟩, found, same⟩ := Option.map_eq_some_iff.1 cut
    cases same
    simp_all [delimitersOutside]

/-- A text is refused exactly if its brackets are unbalanced, and they are blamed. -/
theorem splitOutside_eq_error_iff {delimiter : Char} {text : List Char} {cause : TypeError} :
    splitOutside delimiter text = .error cause ↔
      Unbalanced text ∧ cause = .unbalancedBrackets (String.ofList text) := by
  rw [unbalanced_iff, splitOutside]
  split
  · next refused =>
    have unbalanced : ¬ Balanced text := by
      intro balanced
      obtain ⟨pieces, found⟩ := exists_piecesOutside delimiter balanced
      rw [refused] at found
      cases found
    simp [unbalanced, eq_comm]
  · next pieces found =>
    obtain ⟨read, cut, -⟩ := Option.map_eq_some_iff.1 found
    have balanced : Balanced text := depthAfter_of_piecesFrom cut
    simp [balanced]

/-- What a text is cut into are its pieces. -/
theorem pieces_of_piecesOutside {delimiter : Char} {text : List Char} {pieces : List (List Char)}
    (plain : delimiter ≠ '<' ∧ delimiter ≠ '>') (balanced : Balanced text)
    (cut : piecesOutside delimiter text = some pieces) : Pieces delimiter text pieces := by
  have each := uncut_of_piecesOutside cut
  refine ⟨(piecesOutside_join cut).2.symm, ?_, ?_, ?_⟩
  · intro piece member
    rw [unbalanced_iff, not_not]
    exact (each piece member).1
  · intro piece member
    exact not_outsideAt_of_uncut plain (each piece member).1 (each piece member).2
  · obtain ⟨⟨first, others⟩, found, rfl⟩ := Option.map_eq_some_iff.1 cut
    rw [length_cuts plain balanced, ← length_of_piecesFrom found, List.length_cons]

/-! ## Segments -/

/-- A text that can be followed to its end can be followed to any place before it. -/
theorem exists_depthAfter_front {depth final : Nat} {front back : List Char}
    (scan : depthAfter depth (front ++ back) = some final) :
    ∃ middle, depthAfter depth front = some middle ∧ depthAfter middle back = some final := by
  obtain ⟨each, -⟩ := depthAfter_eq_some_iff.1 scan
  have enough := each front (List.prefix_append front back)
  have first : depthAfter depth front = some (depth + front.count '<' - front.count '>') :=
    depthAfter_eq_some_iff.2
      ⟨fun start isPrefix => each start (isPrefix.trans (List.prefix_append front back)), by omega⟩
  exact ⟨_, first, by rwa [depthAfter_append first] at scan⟩

/-- Trimming takes no brackets away, and no delimiter comes out of them. -/
theorem uncut_trim {delimiter : Char} {text : List Char} (balanced : Balanced text)
    (free : delimitersOutside delimiter 0 text = 0) :
    Balanced (trim text) ∧ delimitersOutside delimiter 0 (trim text) = 0 := by
  obtain ⟨lead, gap, leadBlank, gapBlank, same⟩ := exists_padding text
  have leadBalanced := (Plain.of_blanks leadBlank).balanced
  rw [same, List.append_assoc] at balanced free
  rw [Balanced, depthAfter_append leadBalanced] at balanced
  obtain ⟨middle, inner, behind⟩ := exists_depthAfter_front balanced
  have gapPlain := Plain.of_blanks gapBlank
  rw [depthAfter_of_not_mem gapPlain.noOpen gapPlain.noClose] at behind
  cases behind
  rw [delimitersOutside_append leadBalanced, delimitersOutside_append inner] at free
  exact ⟨inner, by omega⟩

/-- A balanced text without a delimiter outside brackets is one segment. -/
theorem splitOutside_of_uncut {delimiter : Char} {text : List Char} (balanced : Balanced text)
    (free : delimitersOutside delimiter 0 text = 0) :
    splitOutside delimiter text = .ok [trim text] := by
  have whole : piecesOutside delimiter text = some [text] := by
    have read := piecesFrom_append balanced free []
    rw [List.append_nil] at read
    rw [piecesOutside, read]
    simp [piecesFrom]
  rw [splitOutside, whole]
  rfl

/-- **A text is cut exactly at the delimiters outside brackets.** It is refused if its brackets are
unbalanced, and only then. A bracket as delimiter cuts nothing. Any other delimiter cuts the text
into its pieces, which are given trimmed, and a segment is cut to nothing but itself. -/
theorem splitOutside_exact (delimiter : Char) (text : List Char) :
    ((∃ cause, splitOutside delimiter text = .error cause) ↔ Unbalanced text) ∧
    (∀ cause, splitOutside delimiter text = .error cause →
      cause = .unbalancedBrackets (String.ofList text)) ∧
    (¬ Unbalanced text → delimiter = '<' ∨ delimiter = '>' →
      splitOutside delimiter text = .ok [trim text]) ∧
    (¬ Unbalanced text → delimiter ≠ '<' → delimiter ≠ '>' →
      ∃ pieces, Pieces delimiter text pieces ∧
        splitOutside delimiter text = .ok (pieces.map trim)) ∧
    ∀ segments, splitOutside delimiter text = .ok segments →
      ∀ segment ∈ segments, splitOutside delimiter segment = .ok [segment] := by
  refine ⟨?_, ?_, ?_, ?_, ?_⟩
  · simp [splitOutside_eq_error_iff]
  · intro cause refused
    exact (splitOutside_eq_error_iff.1 refused).2
  · intro even bracket
    have balanced : Balanced text := not_not.1 (mt unbalanced_iff.2 even)
    exact splitOutside_of_uncut balanced (delimitersOutside_bracket bracket 0 text)
  · intro even notOpen notClose
    have balanced : Balanced text := not_not.1 (mt unbalanced_iff.2 even)
    obtain ⟨pieces, cut⟩ := exists_piecesOutside delimiter balanced
    exact ⟨pieces, pieces_of_piecesOutside ⟨notOpen, notClose⟩ balanced cut,
      splitOutside_eq_ok_iff.2 ⟨pieces, cut, rfl⟩⟩
  · intro segments split segment member
    obtain ⟨pieces, cut, rfl⟩ := splitOutside_eq_ok_iff.1 split
    obtain ⟨piece, isPiece, rfl⟩ := List.mem_map.1 member
    obtain ⟨balanced, free⟩ := uncut_of_piecesOutside cut piece isPiece
    obtain ⟨trimmedBalanced, trimmedFree⟩ := uncut_trim balanced free
    have again := splitOutside_of_uncut trimmedBalanced trimmedFree
    rwa [trim_trim] at again

/-- A delimiter inside brackets and two outside, and brackets as delimiters. -/
theorem splitOutside_exact_arrows :
    ¬ Unbalanced "a → Map<b → c> → ".toList ∧
    (∃ pieces, Pieces '→' "a → Map<b → c> → ".toList pieces ∧ pieces.length = 3 ∧
      splitOutside '→' "a → Map<b → c> → ".toList = .ok (pieces.map trim)) ∧
    splitOutside '→' "Map<b → c>".toList = .ok ["Map<b → c>".toList] ∧
    splitOutside '<' "a → Map<b → c> → ".toList = .ok ["a → Map<b → c> →".toList] ∧
    Unbalanced "a>, <b".toList ∧ ∃ cause, splitOutside ',' "a>, <b".toList = .error cause := by
  have even : ¬ Unbalanced "a → Map<b → c> → ".toList := by
    rw [unbalanced_iff, not_not]
    rfl
  have uneven : Unbalanced "a>, <b".toList := .inl ⟨['a', '>'], by decide, by decide⟩
  obtain ⟨-, -, -, cut, again⟩ := splitOutside_exact '→' "a → Map<b → c> → ".toList
  obtain ⟨pieces, isCut, split⟩ := cut even (by decide) (by decide)
  refine ⟨even, ⟨pieces, isCut, isCut.count.trans (by decide), split⟩, ?_, ?_, uneven, ?_⟩
  · exact again [['a'], "Map<b → c>".toList, []] rfl _ (by simp)
  · exact (splitOutside_exact '<' "a → Map<b → c> → ".toList).2.2.1 even (.inl rfl)
  · exact (splitOutside_exact ',' "a>, <b".toList).1.2 uneven

end Recordsmith.TypeExpr
