/-
# Recordsmith.Proofs.Dart.Reading — words tell the tree

Two expressions that are put together by the rules of `WellPlaced` and `Composed`, and
whose names and types are single words (`Word`), are written with the same words only if
they are the same (`ReadAs.unique`). So there is one way to group what is written.

The proof reads an expression back. It goes up the ranks: a reader that gets nested
expressions back (`Exact`) yields readers for operands, comparisons and conjunctions, each
of which gets the expressions of its rank back if what follows does not go on with them
(`ReadsFrom`), and at last a reader for expressions one level deeper.
-/
import Recordsmith.Proofs.Dart.Reader
import Recordsmith.Proofs.Dart.Rendered

namespace Recordsmith.Dart

open Recordsmith.Text (isIdentifierPart)
open Recordsmith.Dart.Expr

set_option autoImplicit false

/-- A construct is put together as the ranks ask for, out of words. -/
structure Grammatical (expr : Expr) : Prop where
  placed : WellPlaced expr
  composed : Composed expr
  spelled : OwnStrings Word expr

/-! ## Where expressions start -/

/-- The brackets that close lists. -/
def closings : List String :=
  [")", "]", "\x7d"]

/-- The words that no expression starts with. -/
def stops : List String :=
  closings ++ [",", "..."]

theorem not_mem_stops {word : String} {c : Char} (first : word.toList.head? = some c)
    (starts : ∀ stop ∈ stops, stop.toList.head? ≠ some c) : word ∉ stops := fun member =>
  starts word member first

theorem not_mem_stops_of_word {word : String} (isWord : Word word) : word ∉ stops := by
  have foreign : ∀ stop ∈ stops, stop.toList.head?.any isIdentifierPart = false := by decide
  exact fun member => isWord.ne (foreign word member) rfl

theorem isExpression_left {op : BinaryOp} {left right : Expr}
    (placed : WellPlaced (.binary op left right)) : left.isExpression = true := by
  cases op with
  | assignment => exact isExpression_of_rank_eq_six (rank_of_isAssignable placed)
  | isType | asType | equals | conjunction =>
    simp only [WellPlaced] at placed
    exact isExpression_of_rank (by omega)

/-- No expression starts with a closing bracket, a comma or dots. -/
theorem exists_head {expr : Expr} (isExpression : expr.isExpression = true)
    (readable : Everywhere Grammatical expr) :
    ∃ word rest, words expr = word :: rest ∧ word ∉ stops := by
  induction expr using induction_on_parts with
  | step expr ih =>
  have leads : ∀ {target : Expr} (behind : List String), target ∈ parts expr →
      target.isExpression = true →
      ∃ word rest, words target ++ behind = word :: rest ∧ word ∉ stops := by
    intro target behind isPart isTarget
    obtain ⟨word, rest, same, starts⟩ := ih target isPart isTarget
      ((everywhere_iff_parts.1 readable).2 target isPart)
    exact ⟨word, rest ++ behind, by rw [same]; rfl, starts⟩
  have tight : ∀ {target : Expr}, target.rank = 6 → target.isExpression = true :=
    fun ranked => isExpression_of_rank (by omega)
  have typed : ∀ types : List String, typeArguments types ∉ stops := fun types =>
    not_mem_stops (head_typeArguments types) (by decide)
  obtain ⟨placed, composed, spelled⟩ := (everywhere_iff_parts.1 readable).1
  cases expr with
  | ident name => exact ⟨name, [], words_ident name, not_mem_stops_of_word spelled⟩
  | str value =>
    exact ⟨_, [], words_str value, not_mem_stops (head_quote value) (by decide)⟩
  | call target types args =>
    rw [words_call, List.append_assoc]
    exact leads _ (by simp) (tight placed)
  | index target position =>
    rw [words_index]
    exact leads _ (by simp) (tight placed)
  | member target name nullSafe =>
    rw [words_member]
    exact leads _ (by simp) (tight placed)
  | bang operand =>
    rw [words_bang]
    exact leads _ (by simp) (tight placed)
  | binary op left right =>
    rw [words_binary]
    exact leads _ (by simp) (isExpression_left placed)
  | conditional condition positive negative =>
    rw [words_conditional]
    exact leads _ (by simp) (isExpression_of_rank (Nat.le_of_lt placed))
  | paren inner => exact ⟨_, _, words_paren inner, by decide⟩
  | listLit type items =>
    cases type with
    | none => exact ⟨"[", _, words_listLit none items, by decide⟩
    | some type => exact ⟨typeArguments [type], _, words_listLit (some type) items, typed _⟩
  | mapLit types entries =>
    cases types with
    | none => exact ⟨"\x7b", _, words_mapLit none entries, by decide⟩
    | some types => exact ⟨typeArguments _, _, words_mapLit (some types) entries, typed _⟩
  | lambda params body => exact ⟨_, _, words_lambda params body, by decide⟩
  | _ => cases isExpression

/-! ## One rank up -/

/-- A reader gets every expression back that is smaller than this. -/
def Exact (reader : Reader Expr) (bound : Nat) : Prop :=
  ∀ expr rest, expr.isExpression = true → Everywhere Grammatical expr → sizeOf expr < bound →
    Ends 1 rest → reader (words expr ++ rest) = some (expr, rest)

/-- A reader gets every expression back that has at least this rank. -/
def ReadsFrom (bound rank : Nat) (reader : Reader Expr) : Prop :=
  ∀ expr rest, rank ≤ expr.rank → Everywhere Grammatical expr → sizeOf expr ≤ bound →
    Ends rank rest → reader (words expr ++ rest) = some (expr, rest)

theorem exists_binary_of_rank {expr : Expr} (strict : expr.rank = 4 ∨ expr.rank = 5) :
    ∃ op left right, expr = .binary op left right := by
  cases expr with
  | binary op left right => exact ⟨op, left, right, rfl⟩
  | _ => simp [rank] at strict

theorem rank_lt_of_placed {op : BinaryOp} {left right : Expr} (strict : op.rank = 4 ∨ op.rank = 5)
    (placed : WellPlaced (.binary op left right)) : op.rank < left.rank ∧ op.rank < right.rank := by
  cases op with
  | conjunction | assignment => simp [BinaryOp.rank] at strict
  | isType | asType | equals => exact placed

/-- An operator that is written once between its operands. -/
theorem readsFrom_binary {bound rank : Nat} {ops : List BinaryOp} {operand : Reader Expr}
    (reads : ReadsFrom bound (rank + 1) operand) (strict : rank = 4 ∨ rank = 5)
    (ranked : ∀ op, op ∈ ops ↔ op.rank = rank) :
    ReadsFrom bound rank (readBinary ops operand) := by
  intro expr rest enough readable small ends
  rcases Nat.lt_or_eq_of_le enough with tighter | rfl
  · exact readBinary_of_ends (reads expr rest tighter readable small (ends.mono (Nat.le_succ _)))
      ends fun op member => Nat.le_of_eq ((ranked op).1 member).symm
  · obtain ⟨op, left, right, rfl⟩ := exists_binary_of_rank strict
    obtain ⟨⟨placed, -, -⟩, within⟩ := everywhere_iff_parts.1 readable
    obtain ⟨tighterLeft, tighterRight⟩ := rank_lt_of_placed strict placed
    have isLeft : left ∈ parts (.binary op left right) := by simp
    have isRight : right ∈ parts (.binary op left right) := by simp
    have smallLeft := Nat.le_trans (Nat.le_of_lt (sizeOf_lt_of_mem_parts isLeft)) small
    have smallRight := Nat.le_trans (Nat.le_of_lt (sizeOf_lt_of_mem_parts isRight)) small
    have ended : Ends (op.rank + 1) (op.symbol :: (words right ++ rest)) :=
      ends_cons.2 (by rw [continuation_symbol]; exact Nat.lt_succ_self _)
    have readLeft := reads left _ tighterLeft (within left isLeft) smallLeft ended
    have readRight := reads right rest tighterRight (within right isRight) smallRight
      (ends.mono (Nat.le_succ _))
    rw [words_binary, List.append_assoc, List.cons_append, readBinary, readLeft, Option.bind_some]
    dsimp only
    rw [find?_symbol ((ranked op).2 rfl)]
    simp [readRight]

/-- To read an operand and go on is to go on behind it, a few steps later. -/
def ReadInTurn (inner : Reader Expr) (bound : Nat) (expr : Expr) : Prop :=
  ∃ count ≤ sizeOf expr, ∀ (more : Nat) (rest : List String), rest.head? ≠ some "=>" →
    readOperand inner (bound + 1) (more + count) (words expr ++ rest) =
      readSuffixes inner (bound + 1) more expr rest

/-- One more suffix behind a target is read in one more step. -/
theorem ReadInTurn.suffix {inner : Reader Expr} {bound : Nat} {target expr : Expr}
    {suffix : List String} (inTurn : ReadInTurn inner bound target)
    (smaller : sizeOf target < sizeOf expr)
    (written : words expr = words target ++ suffix)
    (noArrow : ∀ rest, (suffix ++ rest).head? ≠ some "=>")
    (step : ∀ more rest, readSuffixes inner (bound + 1) (more + 1) target (suffix ++ rest) =
      readSuffixes inner (bound + 1) more expr rest) : ReadInTurn inner bound expr := by
  obtain ⟨count, counted, read⟩ := inTurn
  refine ⟨count + 1, by omega, fun more rest _ => ?_⟩
  rw [written, List.append_assoc, ← step, ← read (more + 1) _ (noArrow rest), Nat.add_right_comm,
    Nat.add_assoc]

/-! ## Lists -/

/-- What may stand between commas. -/
inductive IsItem : Expr → Prop where
  | value {expr : Expr} (isExpression : expr.isExpression = true) : IsItem expr
  | spread (operand : Expr) : IsItem (.spread operand)
  | entry (key value : Expr) : IsItem (.entry key value)

theorem isItem_of_isElement {expr : Expr} (isElement : expr.isElement = true) : IsItem expr := by
  cases expr with
  | spread operand => exact .spread operand
  | _ => exact .value isElement

theorem isItem_of_isEntry {expr : Expr} (isEntry : expr.isEntry = true) : IsItem expr := by
  cases expr with
  | spread operand => exact .spread operand
  | entry key value => exact .entry key value
  | _ => cases isEntry

theorem exists_item_head {item : Expr} (isItem : IsItem item)
    (readable : Everywhere Grammatical item) :
    ∃ word rest, words item = word :: rest ∧ word ∉ closings := by
  have starts : ∀ {expr : Expr} (behind : List String), expr.isExpression = true →
      Everywhere Grammatical expr →
      ∃ word rest, words expr ++ behind = word :: rest ∧ word ∉ closings := by
    intro expr behind isExpression grammatical
    obtain ⟨word, rest, same, starts⟩ := exists_head isExpression grammatical
    refine ⟨word, rest ++ behind, by rw [same]; rfl, fun closes => starts ?_⟩
    exact List.mem_append_left _ closes
  cases isItem with
  | value isExpression => simpa using starts [] isExpression readable
  | spread operand => exact ⟨_, _, words_spread operand, by decide⟩
  | entry key value =>
    obtain ⟨⟨-, composed, -⟩, within⟩ := everywhere_iff_parts.1 readable
    rw [words_entry]
    exact starts _ composed.1 (within key (by simp))

theorem length_lt_sizeOf {α : Type} [SizeOf α] (items : List α) : items.length < sizeOf items := by
  induction items with
  | nil => simp
  | cons item rest ih =>
    simp only [List.length_cons, List.cons.sizeOf_spec]
    omega

section Exactness

variable {inner : Reader Expr} {bound : Nat} (exact : Exact inner bound)

include exact

theorem readItem_words {item : Expr} (rest : List String) (isItem : IsItem item)
    (readable : Everywhere Grammatical item) (small : sizeOf item < bound) (ends : Ends 1 rest)
    (noColon : rest.head? ≠ some ":") :
    readItem inner (words item ++ rest) = some (item, rest) := by
  have noDots : ∀ {expr : Expr} (behind : List String), expr.isExpression = true →
      Everywhere Grammatical expr → (words expr ++ behind).head? ≠ some "..." := by
    intro expr behind isExpression grammatical
    obtain ⟨word, more, same, starts⟩ := exists_head isExpression grammatical
    rw [same]
    rintro ⟨rfl⟩
    exact starts (by decide)
  obtain ⟨⟨-, composed, -⟩, within⟩ := everywhere_iff_parts.1 readable
  cases isItem with
  | value isExpression =>
    rw [readItem, if_neg (noDots rest isExpression readable),
      exact item rest isExpression readable small ends, Option.bind_some]
    exact if_neg noColon
  | spread operand =>
    have smaller : sizeOf operand < sizeOf (Expr.spread operand) :=
      sizeOf_lt_of_mem_parts (by simp)
    have read := exact operand rest composed (within operand (by simp)) (by omega) ends
    simp [readItem, words_spread, read]
  | entry key value =>
    have smallKey : sizeOf key < sizeOf (Expr.entry key value) := sizeOf_lt_of_mem_parts (by simp)
    have smallValue : sizeOf value < sizeOf (Expr.entry key value) :=
      sizeOf_lt_of_mem_parts (by simp)
    have readKey := exact key (":" :: (words value ++ rest)) composed.1 (within key (by simp))
      (by omega) (ends_cons.2 (by decide))
    have readValue := exact value rest composed.2 (within value (by simp)) (by omega) ends
    rw [words_entry, List.append_assoc, List.cons_append, readItem,
      if_neg (noDots _ composed.1 (within key (by simp))), readKey]
    simp [readValue]

/-- Items are found again between commas and a closing bracket. -/
theorem readList_listed {closing : String} (closes : closing ∈ closings) {items : List Expr}
    {fuel : Nat} (rest : List String) (each : ∀ item ∈ items, IsItem item)
    (readable : ∀ item ∈ items, Everywhere Grammatical item)
    (small : ∀ item ∈ items, sizeOf item < bound) (enough : items.length < fuel) :
    readList inner closing fuel (listed items ++ closing :: rest) = some (items, rest) := by
  have closed : ∀ word ∈ closings, word ≠ ":" ∧ word ≠ "," ∧ continuation word < 1 := by decide
  obtain ⟨notColon, notComma, ends⟩ := closed closing closes
  induction items generalizing fuel with
  | nil =>
    obtain ⟨more, rfl⟩ := Nat.exists_eq_add_of_lt enough
    simp [readList, listed]
  | cons item others ih =>
    obtain ⟨more, rfl⟩ := Nat.exists_eq_add_of_lt enough
    obtain ⟨isItem, eachOther⟩ := List.forall_mem_cons.1 each
    obtain ⟨grammatical, readableOthers⟩ := List.forall_mem_cons.1 readable
    obtain ⟨smallItem, smallOthers⟩ := List.forall_mem_cons.1 small
    obtain ⟨word, behind, same, opens⟩ := exists_item_head isItem grammatical
    have notClosed : ∀ after, (words item ++ after).head? ≠ some closing := by
      rw [same]
      rintro after ⟨rfl⟩
      exact opens closes
    cases others with
    | nil =>
      have read := readItem_words exact (closing :: rest) isItem grammatical smallItem
        (ends_cons.2 ends) (by simpa using notColon)
      rw [listed_singleton, readList, if_neg (notClosed _), read, Option.bind_some]
      exact if_pos rfl
    | cons next others =>
      have read := readItem_words exact ("," :: (listed (next :: others) ++ closing :: rest))
        isItem grammatical smallItem (ends_cons.2 (by decide)) (by simp)
      have fewer : (next :: others).length < (next :: others).length + 1 + more := by omega
      rw [listed_cons_cons, List.append_assoc, List.cons_append, List.length_cons, readList,
        if_neg (notClosed _), read, Option.bind_some]
      dsimp only
      rw [if_neg (by simpa using Ne.symm notComma), List.tail_cons,
        ih eachOther readableOthers smallOthers fewer]
      rfl

/-- The parts of an expression that are divided by commas. -/
theorem readList_parts {closing : String} (closes : closing ∈ closings) {expr : Expr}
    (items : List Expr) (rest : List String) (readable : Everywhere Grammatical expr)
    (small : sizeOf expr ≤ bound) (among : ∀ item ∈ items, item ∈ parts expr)
    (each : ∀ item ∈ items, IsItem item) (enough : items.length ≤ sizeOf expr) :
    readList inner closing (bound + 1) (listed items ++ closing :: rest) = some (items, rest) := by
  have within := (everywhere_iff_parts.1 readable).2
  apply readList_listed exact closes rest each
  · exact fun item member => within item (among item member)
  · intro item member
    have := sizeOf_lt_of_mem_parts (among item member)
    omega
  · omega

/-! ## Operands -/

/-- The expressions that do not start with another one. -/
def isPrimary : Expr → Bool
  | .ident _ | .str _ | .paren _ | .listLit _ _ | .mapLit _ _ => true
  | _ => false

theorem readPrimary_words {expr : Expr} (rest : List String) (isPrimary : isPrimary expr = true)
    (readable : Everywhere Grammatical expr) (small : sizeOf expr ≤ bound)
    (noArrow : rest.head? ≠ some "=>") :
    readPrimary inner (bound + 1) (words expr ++ rest) = some (expr, rest) := by
  obtain ⟨placed, composed, spelled⟩ := (everywhere_iff_parts.1 readable).1
  cases expr with
  | ident name => exact readPrimary_name spelled _ rest
  | str value => exact readPrimary_quote value _ rest
  | paren inside =>
    have read := readList_parts exact (show ")" ∈ closings by decide) [inside] rest readable small
      (by simp) (by simpa using .value composed) (by simp)
    rw [listed_singleton] at read
    simp [words_paren, readPrimary, read, noArrow]
  | listLit type items =>
    have read := readList_parts exact (show "]" ∈ closings by decide) items rest readable small
      (by simp) (fun item member => isItem_of_isElement (composed item member))
      (by have := length_lt_sizeOf items; simp; omega)
    cases type with
    | none => simp [words_listLit, typeWords, readPrimary, read]
    | some type =>
      have decoded := typesOf_typeArguments [type] (by simp) (by simpa using spelled)
      simp [words_listLit, typeWords, readPrimary_typeArguments, read, decoded]
  | mapLit types entries =>
    have read := readList_parts exact (show "\x7d" ∈ closings by decide) entries rest readable small
      (by simp) (fun entry member => isItem_of_isEntry (composed entry member))
      (by have := length_lt_sizeOf entries; simp; omega)
    cases types with
    | none => simp [words_mapLit, typeWords, readPrimary, read]
    | some types =>
      have decoded := typesOf_typeArguments [types.1, types.2] (by simp)
        (by simpa using spelled)
      simp [words_mapLit, typeWords, readPrimary_typeArguments, read, decoded]
  | _ => cases isPrimary

theorem readPrimary_lambda {params : List String} {body : Expr} {rest : List String}
    (readable : Everywhere Grammatical (.lambda params body))
    (small : sizeOf (Expr.lambda params body) ≤ bound) (ends : Ends 1 rest) :
    readPrimary inner (bound + 1) (words (.lambda params body) ++ rest) =
      some (.lambda params body, rest) := by
  obtain ⟨⟨-, composed, spelled⟩, within⟩ := everywhere_iff_parts.1 readable
  have smaller : sizeOf body < sizeOf (Expr.lambda params body) :=
    sizeOf_lt_of_mem_parts (by simp)
  have readBody := exact body rest composed (within body (by simp)) (by omega) ends
  have smallNames : ∀ name ∈ params, sizeOf (Expr.ident name) < bound := by
    intro name member
    have := List.sizeOf_lt_of_mem member
    simp at small ⊢
    omega
  have counted : params.length < bound + 1 := by
    have := length_lt_sizeOf params
    simp at small
    omega
  have readParams : readList inner ")" (bound + 1)
      (listed (params.map .ident) ++ ")" :: "=>" :: (words body ++ rest)) =
      some (params.map .ident, "=>" :: (words body ++ rest)) := by
    apply readList_listed exact (by decide)
    · exact List.forall_mem_map.2 fun name _ => .value rfl
    · exact List.forall_mem_map.2 fun name member => ⟨trivial, trivial, spelled name member⟩
    · exact List.forall_mem_map.2 smallNames
    · simpa using counted
  have names : (params.map Expr.ident).filterMap name? = params := by
    rw [List.filterMap_map]
    exact List.filterMap_some
  simp [words_lambda, readPrimary, readParams, readBody, names]

theorem readInTurn_of_rank {expr : Expr} (tight : expr.rank = 6)
    (readable : Everywhere Grammatical expr) (small : sizeOf expr ≤ bound) :
    ReadInTurn inner bound expr := by
  induction expr using induction_on_parts with
  | step expr ih =>
  have primary : isPrimary expr = true → ReadInTurn inner bound expr := by
    intro isPrimary
    refine ⟨0, Nat.zero_le _, fun more rest noArrow => ?_⟩
    rw [readOperand, readPrimary_words exact rest isPrimary readable small noArrow]
    rfl
  obtain ⟨⟨placed, composed, spelled⟩, within⟩ := everywhere_iff_parts.1 readable
  have smaller : ∀ {part : Expr}, part ∈ parts expr → sizeOf part < sizeOf expr :=
    sizeOf_lt_of_mem_parts
  have inTurn : ∀ {target : Expr}, target ∈ parts expr → target.rank = 6 →
      ReadInTurn inner bound target := fun {target} isPart ranked =>
    ih target isPart ranked (within target isPart)
      (Nat.le_trans (Nat.le_of_lt (smaller isPart)) small)
  cases expr with
  | ident | str | paren | listLit | mapLit => exact primary rfl
  | member target name nullSafe =>
    have isTarget : target ∈ parts (.member target name nullSafe) := by simp
    apply (inTurn isTarget placed).suffix (smaller isTarget)
      (words_member target name nullSafe)
    · cases nullSafe <;> simp
    · intro more rest
      cases nullSafe <;> simp [readSuffixes]
  | bang operand =>
    have isTarget : operand ∈ parts (.bang operand) := by simp
    apply (inTurn isTarget placed).suffix (smaller isTarget) (words_bang operand) (by simp)
    intro more rest
    simp [readSuffixes]
  | index target position =>
    have isTarget : target ∈ parts (.index target position) := by simp
    have isPosition : position ∈ parts (.index target position) := by simp
    apply (inTurn isTarget placed).suffix (smaller isTarget) (words_index target position)
      (by simp)
    intro more rest
    have read := exact position ("]" :: rest) composed (within position isPosition)
      (Nat.lt_of_lt_of_le (smaller isPosition) small) (ends_cons.2 (by decide))
    simp [readSuffixes, read]
  | call target types args =>
    have isTarget : target ∈ parts (.call target types args) := by simp
    have counted : args.length ≤ sizeOf (Expr.call target types args) := by
      have := length_lt_sizeOf args
      simp
      omega
    have read := fun rest => readList_parts exact (show ")" ∈ closings by decide) args rest readable
      small (by simp +contextual) (fun arg member => .value (composed arg member)) counted
    apply (inTurn isTarget placed).suffix (smaller isTarget)
      (by rw [words_call, List.append_assoc])
    · intro rest
      cases types with
      | nil => simp [typeWords]
      | cons type others =>
        have notArrow : typeArguments (type :: others) ≠ "=>" :=
          ne_of_head (head_typeArguments _) (by decide)
        simpa [typeWords] using notArrow
    · intro more rest
      cases types with
      | nil => simp [typeWords, readSuffixes, read]
      | cons type others =>
        have decoded := typesOf_typeArguments (type :: others) (by simp) spelled
        simp [typeWords, readSuffixes_typeArguments, read, decoded]
  | binary op left right => cases op <;> cases tight
  | _ => cases tight

theorem readsFrom_operand : ReadsFrom bound 6 (readOperand inner (bound + 1) (bound + 1)) := by
  intro expr rest tight readable small ends
  have ranked : expr.rank = 6 := Nat.le_antisymm (rank_le_six expr) tight
  obtain ⟨count, counted, read⟩ := readInTurn_of_rank exact ranked readable small
  obtain ⟨more, enough⟩ := Nat.exists_eq_add_of_le (Nat.le_trans counted small)
  have split : bound + 1 = (more + 1) + count := by omega
  have stopped := read (more + 1) rest (ends.head_ne (by decide))
  rwa [← split, readSuffixes_of_ends ends] at stopped

theorem readOperand_lambda {params : List String} {body : Expr} {rest : List String}
    (readable : Everywhere Grammatical (.lambda params body))
    (small : sizeOf (Expr.lambda params body) ≤ bound) (ends : Ends 1 rest) :
    readOperand inner (bound + 1) (bound + 1) (words (.lambda params body) ++ rest) =
      some (.lambda params body, rest) := by
  rw [readOperand, readPrimary_lambda exact readable small ends, Option.bind_some]
  exact readSuffixes_of_ends (ends.mono (by decide)) _ _ _

/-! ## Operators -/

theorem readsFrom_comparison : ReadsFrom bound 4 (readComparison inner (bound + 1)) := by
  apply readsFrom_binary _ (.inl rfl)
  · intro op
    cases op <;> decide
  · apply readsFrom_binary (readsFrom_operand exact) (.inr rfl)
    intro op
    cases op <;> decide

/-- Conjuncts are read in turn. -/
theorem readConjunction_words {expr : Expr} (enough : 3 ≤ expr.rank)
    (readable : Everywhere Grammatical expr) (small : sizeOf expr ≤ bound) :
    ∃ count ≤ sizeOf expr, ∀ (more : Nat) (rest : List String), Ends 4 rest →
      readConjunction inner (bound + 1) (more + count) (words expr ++ rest) =
        readConjuncts (readComparison inner (bound + 1)) more expr rest := by
  induction expr using induction_on_parts with
  | step expr ih =>
  rcases Nat.lt_or_eq_of_le enough with tighter | same
  · refine ⟨0, Nat.zero_le _, fun more rest ends => ?_⟩
    rw [readConjunction, readsFrom_comparison exact expr rest tighter readable small ends]
    rfl
  · obtain ⟨left, right, rfl⟩ : ∃ left right, expr = .binary .conjunction left right := by
      cases expr with
      | binary op left right =>
        cases op with
        | conjunction => exact ⟨left, right, rfl⟩
        | equals | isType | asType | assignment => simp [rank, BinaryOp.rank] at same
      | _ => simp [rank] at same
    obtain ⟨⟨⟨rankLeft, rankRight⟩, -, -⟩, within⟩ := everywhere_iff_parts.1 readable
    have isLeft : left ∈ parts (.binary .conjunction left right) := by simp
    have isRight : right ∈ parts (.binary .conjunction left right) := by simp
    have smallerLeft := sizeOf_lt_of_mem_parts isLeft
    have smallerRight := sizeOf_lt_of_mem_parts isRight
    obtain ⟨count, counted, readLeft⟩ := ih left isLeft rankLeft (within left isLeft) (by omega)
    refine ⟨count + 1, by omega, fun more rest ends => ?_⟩
    have readRight := readsFrom_comparison exact right rest rankRight (within right isRight)
      (by omega) ends
    have next := readLeft (more + 1) ("&&" :: (words right ++ rest)) (ends_cons.2 (by decide))
    rw [words_binary, List.append_assoc, List.cons_append, ← Nat.add_assoc, Nat.add_right_comm]
    rw [BinaryOp.symbol, next]
    simp [readConjuncts, readRight]

theorem readsFrom_conjunction :
    ReadsFrom bound 3 (readConjunction inner (bound + 1) (bound + 1)) := by
  intro expr rest enough readable small ends
  obtain ⟨count, counted, read⟩ := readConjunction_words exact enough readable small
  obtain ⟨more, sum⟩ := Nat.exists_eq_add_of_le (Nat.le_trans counted small)
  have split : bound + 1 = (more + 1) + count := by omega
  have stopped := read (more + 1) rest (ends.mono (by decide))
  rwa [← split, readConjuncts, if_neg (ends.head_ne (by decide))] at stopped

theorem readConjunction_lambda {params : List String} {body : Expr} {rest : List String}
    (readable : Everywhere Grammatical (.lambda params body))
    (small : sizeOf (Expr.lambda params body) ≤ bound) (ends : Ends 1 rest) :
    readConjunction inner (bound + 1) (bound + 1) (words (.lambda params body) ++ rest) =
      some (.lambda params body, rest) := by
  have alone : readComparison inner (bound + 1) (words (.lambda params body) ++ rest) =
      some (.lambda params body, rest) :=
    readBinary_of_ends
      (readBinary_of_ends (readOperand_lambda exact readable small ends) ends (by decide)) ends
      (by decide)
  rw [readConjunction, alone, Option.bind_some]
  dsimp only
  rw [readConjuncts, if_neg (ends.head_ne (by decide))]

/-! ## Expressions -/

theorem exact_readExpression : Exact (readExpression inner (bound + 1)) (bound + 1) := by
  intro expr rest isExpression readable small ends
  have fits : sizeOf expr ≤ bound := Nat.le_of_lt_succ small
  obtain ⟨⟨placed, composed, -⟩, within⟩ := everywhere_iff_parts.1 readable
  have smaller : ∀ part ∈ parts expr, sizeOf part < bound := fun part isPart =>
    Nat.lt_of_lt_of_le (sizeOf_lt_of_mem_parts isPart) fits
  -- The first operand, up to a word that does not belong to a conjunction.
  have first : ∀ (operand : Expr) (word : String) (behind : List String), operand ∈ parts expr →
      3 ≤ operand.rank → continuation word < 3 →
      readConjunction inner (bound + 1) (bound + 1) (words operand ++ word :: behind) =
        some (operand, word :: behind) := fun operand word behind isPart enough stops =>
    readsFrom_conjunction exact operand (word :: behind) enough (within operand isPart)
      (Nat.le_of_lt (smaller operand isPart)) (ends_cons.2 stops)
  have nested : ∀ (part : Expr) (behind : List String), part ∈ parts expr →
      part.isExpression = true → Ends 1 behind →
      inner (words part ++ behind) = some (part, behind) := fun part behind isPart isValue =>
    exact part behind isValue (within part isPart) (smaller part isPart)
  by_cases tight : 3 ≤ expr.rank
  · exact readExpression_of_ends
      (readsFrom_conjunction exact expr rest tight readable fits (ends.mono (by decide))) ends
  cases expr with
  | lambda params body =>
    exact readExpression_of_ends (readConjunction_lambda exact readable fits ends) ends
  | conditional condition positive negative =>
    have readCondition := first condition "?" (words positive ++ ":" :: (words negative ++ rest))
      (by simp) placed (by decide)
    have readPositive := nested positive (":" :: (words negative ++ rest)) (by simp) composed.1
      (ends_cons.2 (by decide))
    have readNegative := nested negative rest (by simp) composed.2 ends
    simp [words_conditional, readExpression, readCondition, readPositive, readNegative]
  | binary op left right =>
    cases op with
    | assignment =>
      have tightLeft : 3 ≤ left.rank := by rw [rank_of_isAssignable placed]; decide
      have readLeft := first left "=" (words right ++ rest) (by simp) tightLeft (by decide)
      have readRight := nested right rest (by simp) composed ends
      simp [words_binary, BinaryOp.symbol, readExpression, readLeft, readRight]
    | equals | conjunction | isType | asType => simp [rank, BinaryOp.rank] at tight
  | ident | str | paren | listLit | mapLit | call | index | member | bang => simp at tight
  | _ => cases isExpression

end Exactness

theorem exact_read (fuel : Nat) : Exact (read fuel) fuel := by
  induction fuel with
  | zero =>
    intro expr rest isExpression readable small
    cases small
  | succ fuel ih => exact exact_readExpression ih

/-- A way to read a row of words: an expression that is put together as the ranks ask for
and written like this. -/
structure ReadAs (row : List String) (tree : Expr) : Prop where
  isExpression : tree.isExpression = true
  readable : Everywhere Grammatical tree
  written : words tree = row

theorem ReadAs.read_eq {row : List String} {tree : Expr} (reading : ReadAs row tree) {fuel : Nat}
    (fits : sizeOf tree < fuel) : read fuel row = some (tree, []) := by
  have exact := exact_read fuel tree [] reading.isExpression reading.readable fits (by simp [Ends])
  rwa [List.append_nil, reading.written] at exact

/-- There is one way at most to read a row of words. -/
theorem ReadAs.unique {row : List String} {tree other : Expr} (reading : ReadAs row tree)
    (another : ReadAs row other) : other = tree := by
  have first := reading.read_eq (by omega : sizeOf tree < sizeOf tree + sizeOf other + 1)
  have second := another.read_eq (by omega : sizeOf other < sizeOf tree + sizeOf other + 1)
  rw [first] at second
  cases second
  rfl

-- Without the ranks there may be more: a member of a conditional is written like a
-- conditional that ends with a member.
example (condition positive negative : Expr) (name : String) :
    words (.member (.conditional condition positive negative) name false) =
      words (.conditional condition positive (.member negative name false)) := by
  simp [words_member, words_conditional]

end Recordsmith.Dart
