/-
# Recordsmith.Proofs.Record.Declaration — where a declaration is cut

Cutting a declaration tries the places of `>` from the right and, behind each of
them, looks for a null mark and a name. What it finds is told without any search
(`split?_eq_some_iff`): the name is the last run of the text, and in front of it,
behind a gap, stands a text of the form

    word ['<' line '>'] [blanks '?']

There is no choice in it: the last run of a text is unique
(`eq_of_lastRun_eq`), so a `>` inside the name is passed over, and a `?` that
could be a name only is one.
-/
import Mathlib.Data.List.Basic
import Recordsmith.Proofs.Text.Trim
import Recordsmith.Record.Declaration

namespace Recordsmith.Declaration

open Recordsmith.Text

set_option autoImplicit false

/-- One or more characters, none of them a blank. -/
structure Run (text : List Char) : Prop where
  nonempty : text ≠ []
  solid : ∀ c ∈ text, isBlank c = false

/-- One or more blanks. -/
structure Gap (text : List Char) : Prop where
  nonempty : text ≠ []
  blank : Blanks text

/-- Nothing, or brackets around characters of one line. -/
inductive Brackets : List Char → Prop where
  | absent : Brackets []
  | around {inside : List Char} (nonempty : inside ≠ []) (oneLine : '\n' ∉ inside) :
      Brackets ('<' :: (inside ++ ['>']))

/-- Nothing, or blanks and a null mark. -/
inductive Mark : List Char → Prop where
  | absent : Mark []
  | present {space : List Char} (blank : Blanks space) : Mark (space ++ ['?'])

/-- What is taken for a type: a word, brackets and a null mark. -/
inductive TypeText : List Char → Prop where
  | of {word brackets mark : List Char} (nonempty : word ≠ [])
      (isWord : ∀ c ∈ word, isWordChar c = true) (shape : Brackets brackets)
      (suffix : Mark mark) : TypeText (word ++ brackets ++ mark)

/-! ## Characters -/

theorem isWordChar_of_isBlank {c : Char} (blank : isBlank c = true) : isWordChar c = false := by
  have codes : c.toNat ∈ [0x09, 0x0a, 0x0b, 0x0c, 0x0d, 0x20, 0x85, 0xa0, 0x1680, 0x2000, 0x2001,
      0x2002, 0x2003, 0x2004, 0x2005, 0x2006, 0x2007, 0x2008, 0x2009, 0x200a, 0x2028, 0x2029,
      0x202f, 0x205f, 0x3000] := by
    simp only [isBlank, Bool.or_eq_true, Bool.and_eq_true, decide_eq_true_eq, beq_iff_eq] at blank
    simp only [List.mem_cons, List.not_mem_nil, or_false]
    omega
  have table : ∀ n ∈ [0x09, 0x0a, 0x0b, 0x0c, 0x0d, 0x20, 0x85, 0xa0, 0x1680, 0x2000, 0x2001,
      0x2002, 0x2003, 0x2004, 0x2005, 0x2006, 0x2007, 0x2008, 0x2009, 0x200a, 0x2028, 0x2029,
      0x202f, 0x205f, 0x3000], isWordChar (Char.ofNat n) = false := by
    decide +kernel
  have same := table c.toNat codes
  rwa [Char.ofNat_toNat] at same

/-- A scan runs to the first character that is not of its class. -/
theorem span_append {p : Char → Bool} {front back : List Char} (inside : ∀ c ∈ front, p c = true)
    (stop : ∀ c ∈ back.head?, p c = false) :
    (front ++ back).takeWhile p = front ∧ (front ++ back).dropWhile p = back := by
  rw [List.takeWhile_append_of_pos inside, List.dropWhile_append_of_pos inside]
  cases back with
  | nil => simp
  | cons c rest => simp [stop c rfl]

/-! ## The last run -/

theorem span_reverse {front run trail : List Char} (closed : ∀ c ∈ front.getLast?, isBlank c = true)
    (isRun : Run run) (blank : Blanks trail) :
    (front ++ run ++ trail).reverse.takeWhile isBlank = trail.reverse ∧
      ((front ++ run ++ trail).reverse.dropWhile isBlank).takeWhile (!isBlank ·) = run.reverse ∧
      ((front ++ run ++ trail).reverse.dropWhile isBlank).dropWhile (!isBlank ·) =
        front.reverse := by
  have inTrail : ∀ c ∈ trail.reverse, isBlank c = true := fun c member =>
    blank c (List.mem_reverse.1 member)
  have beforeTrail : ∀ c ∈ (run.reverse ++ front.reverse).head?, isBlank c = false := by
    intro c first
    rw [List.head?_append_of_ne_nil _ (by simpa using isRun.nonempty)] at first
    exact isRun.solid c (List.mem_reverse.1 (List.mem_of_head? first))
  have inRun : ∀ c ∈ run.reverse, (!isBlank c) = true := fun c member => by
    rw [isRun.solid c (List.mem_reverse.1 member)]
    rfl
  have beforeRun : ∀ c ∈ front.reverse.head?, (!isBlank c) = false := by
    intro c first
    rw [List.head?_reverse] at first
    rw [closed c first]
    rfl
  obtain ⟨taken, dropped⟩ := span_append inTrail beforeTrail
  obtain ⟨takenRun, droppedRun⟩ := span_append inRun beforeRun
  rw [List.reverse_append, List.reverse_append, taken, dropped]
  exact ⟨rfl, takenRun, droppedRun⟩

/-- A text has one last run. -/
theorem eq_of_lastRun_eq {front run trail front' run' trail' : List Char}
    (closed : ∀ c ∈ front.getLast?, isBlank c = true) (isRun : Run run) (blank : Blanks trail)
    (closed' : ∀ c ∈ front'.getLast?, isBlank c = true) (isRun' : Run run')
    (blank' : Blanks trail') (same : front ++ run ++ trail = front' ++ run' ++ trail') :
    front = front' ∧ run = run' := by
  obtain ⟨-, takenRun, rest⟩ := span_reverse closed isRun blank
  obtain ⟨-, takenRun', rest'⟩ := span_reverse closed' isRun' blank'
  rw [same] at takenRun rest
  exact ⟨List.reverse_injective (rest.symm.trans rest'),
    List.reverse_injective (takenRun.symm.trans takenRun')⟩

theorem Gap.getLast {front gap : List Char} (isGap : Gap gap) :
    ∀ c ∈ (front ++ gap).getLast?, isBlank c = true := by
  intro c last
  rw [List.getLast?_append_of_ne_nil _ isGap.nonempty] at last
  exact isGap.blank c (List.mem_of_getLast? last)

/-! ## Names -/

theorem soleRun?_eq_some_iff {text run : List Char} :
    soleRun? text = some run ↔
      Run run ∧ ∃ lead trail, Blanks lead ∧ Blanks trail ∧ text = lead ++ run ++ trail := by
  rw [soleRun?]
  constructor
  · intro found
    simp only [Option.ite_none_right_eq_some, Option.some.injEq] at found
    obtain ⟨⟨nonempty, behind⟩, rfl⟩ := found
    obtain ⟨lead, leadBlank, start⟩ := exists_trimStart text
    refine ⟨⟨nonempty, ?_⟩, lead, _, leadBlank, List.all_eq_true.1 behind, ?_⟩
    · intro c member
      simpa using List.all_eq_true.1 List.all_takeWhile c member
    · rw [List.append_assoc, List.takeWhile_append_dropWhile]
      exact start
  · rintro ⟨isRun, lead, trail, leadBlank, trailBlank, rfl⟩
    have solid : ∀ c ∈ (run ++ trail).head?, isBlank c = false := by
      intro c first
      rw [List.head?_append_of_ne_nil _ isRun.nonempty] at first
      exact isRun.solid c (List.mem_of_head? first)
    have inside : ∀ c ∈ run, (!isBlank c) = true := fun c member => by
      rw [isRun.solid c member]
      rfl
    have stop : ∀ c ∈ trail.head?, (!isBlank c) = false := fun c first => by
      rw [trailBlank c (List.mem_of_head? first)]
      rfl
    obtain ⟨taken, dropped⟩ := span_append inside stop
    simp only [List.append_assoc, trimStart_append leadBlank, trimStart_of_head solid, taken,
      dropped]
    rw [if_pos ⟨isRun.nonempty, List.all_eq_true.2 trailBlank⟩]

theorem nameBehind?_eq_some_iff {text name : List Char} :
    nameBehind? text = some name ↔
      Run name ∧ ∃ gap trail, Gap gap ∧ Blanks trail ∧ text = gap ++ name ++ trail := by
  cases text with
  | nil =>
    simp only [nameBehind?, reduceCtorEq, false_iff]
    rintro ⟨isRun, gap, trail, isGap, -, same⟩
    rw [List.append_assoc] at same
    exact isGap.nonempty (List.append_eq_nil_iff.1 same.symm).1
  | cons c rest =>
    rw [nameBehind?]
    constructor
    · intro found
      rw [Option.ite_none_right_eq_some, soleRun?_eq_some_iff] at found
      obtain ⟨blank, isRun, lead, trail, leadBlank, trailBlank, rfl⟩ := found
      exact ⟨isRun, c :: lead, trail, ⟨by simp, List.forall_mem_cons.2 ⟨blank, leadBlank⟩⟩,
        trailBlank, rfl⟩
    · rintro ⟨isRun, gap, trail, isGap, trailBlank, same⟩
      obtain ⟨d, lead, rfl⟩ := List.exists_cons_of_ne_nil isGap.nonempty
      cases same
      obtain ⟨blank, leadBlank⟩ := List.forall_mem_cons.1 isGap.blank
      rw [if_pos blank]
      exact soleRun?_eq_some_iff.2 ⟨isRun, lead, trail, leadBlank, trailBlank, rfl⟩

/-! ## The null mark -/

theorem Run.nameBehind?_eq_none {name trail : List Char} (isRun : Run name)
    (blank : Blanks trail) : nameBehind? (name.tail ++ trail) = none := by
  obtain ⟨first, more, rfl⟩ := List.exists_cons_of_ne_nil isRun.nonempty
  rw [Option.eq_none_iff_forall_ne_some]
  intro other found
  obtain ⟨isOther, gap, behind, isGap, -, same⟩ := nameBehind?_eq_some_iff.1 found
  cases more with
  | nil =>
    obtain ⟨c, rest, rfl⟩ := List.exists_cons_of_ne_nil isOther.nonempty
    have inside : c ∈ trail := by
      rw [show trail = gap ++ c :: rest ++ behind from same]
      simp
    have solid := isOther.solid c List.mem_cons_self
    rw [blank c inside] at solid
    cases solid
  | cons c rest =>
    obtain ⟨d, lead, rfl⟩ := List.exists_cons_of_ne_nil isGap.nonempty
    have first : c = d := (List.cons.inj same).1
    have solid := isRun.solid c (by simp)
    rw [first, isGap.blank d List.mem_cons_self] at solid
    cases solid

theorem finish?_eq_some_iff {text mark name : List Char} :
    finish? text = some (mark, name) ↔
      Mark mark ∧ Run name ∧ ∃ gap trail, Gap gap ∧ Blanks trail ∧
        text = mark ++ gap ++ name ++ trail := by
  rw [finish?]
  constructor
  · intro found
    rcases Option.or_eq_some_iff.1 found with marked | ⟨-, unmarked⟩
    · split at marked
      · next behind start =>
        obtain ⟨other, named, same⟩ := Option.map_eq_some_iff.1 marked
        cases same
        obtain ⟨isRun, gap, trail, isGap, blank, rfl⟩ := nameBehind?_eq_some_iff.1 named
        have space : Blanks (text.takeWhile isBlank) := fun c member =>
          List.all_eq_true.1 List.all_takeWhile c member
        refine ⟨.present space, isRun, gap, trail, isGap, blank, ?_⟩
        have whole : text.takeWhile isBlank ++ trimStart text = text :=
          List.takeWhile_append_dropWhile
        rw [start] at whole
        simpa using whole.symm
      · cases marked
    · obtain ⟨other, named, same⟩ := Option.map_eq_some_iff.1 unmarked
      cases same
      obtain ⟨isRun, gap, trail, isGap, blank, rfl⟩ := nameBehind?_eq_some_iff.1 named
      exact ⟨.absent, isRun, gap, trail, isGap, blank, rfl⟩
  · rintro ⟨suffix, isRun, gap, trail, isGap, blank, rfl⟩
    cases suffix with
    | present spaceBlank =>
      rename_i space
      have named : nameBehind? (gap ++ name ++ trail) = some name :=
        nameBehind?_eq_some_iff.2 ⟨isRun, gap, trail, isGap, blank, rfl⟩
      have regroup : space ++ ['?'] ++ gap ++ name ++ trail =
          space ++ '?' :: (gap ++ name ++ trail) := by simp
      have stop : ∀ c ∈ ('?' :: (gap ++ name ++ trail)).head?, isBlank c = false := by
        rintro c ⟨⟩
        decide
      obtain ⟨taken, dropped⟩ := span_append spaceBlank stop
      rw [regroup, trimStart, dropped, taken]
      simp only [named, Option.map_some, Option.some_or]
    | absent =>
      have named : nameBehind? ([] ++ gap ++ name ++ trail) = some name :=
        nameBehind?_eq_some_iff.2 ⟨isRun, gap, trail, isGap, blank, rfl⟩
      have start : trimStart ([] ++ gap ++ name ++ trail) = name ++ trail := by
        rw [List.nil_append, List.append_assoc, trimStart_append isGap.blank]
        apply trimStart_of_head
        intro c first
        rw [List.head?_append_of_ne_nil _ isRun.nonempty] at first
        exact isRun.solid c (List.mem_of_head? first)
      rw [start, named]
      -- A name that starts with `?` is not cut, for no other name follows it.
      split
      · next behind same =>
        have tail : behind = name.tail ++ trail := by
          obtain ⟨c, rest, rfl⟩ := List.exists_cons_of_ne_nil isRun.nonempty
          cases same
          rfl
        rw [tail, isRun.nameBehind?_eq_none blank]
        rfl
      · rfl

/-! ## Brackets -/

theorem closings_eq_append (found : List (Nat × List Char)) (count : Nat) (text : List Char) :
    closings found count text = closings [] count text ++ found := by
  induction text generalizing found count with
  | nil => rfl
  | cons c rest ih =>
    rw [closings, closings]
    split
    · rfl
    · rw [ih, ih (if c = '>' then [(count, rest)] else [])]
      split <;> simp

section closings

variable {β : Type} {choose : Nat × List Char → Option β} {result : β}

theorem findSome?_closings_cons (count : Nat) (c : Char) (rest : List Char) :
    (closings [] count (c :: rest)).findSome? choose =
      if c = '\n' then none
      else ((closings [] (count + 1) rest).findSome? choose).or
        (if c = '>' then choose (count, rest) else none) := by
  rw [closings]
  split
  · rfl
  · rw [closings_eq_append, List.findSome?_append]
    split <;> simp

/-- What is chosen is behind a `>` of the first line. -/
theorem exists_of_findSome?_closings {count : Nat} {text : List Char}
    (chosen : (closings [] count text).findSome? choose = some result) :
    ∃ front back, text = front ++ '>' :: back ∧ '\n' ∉ front ∧
      choose (count + front.length, back) = some result := by
  induction text generalizing count with
  | nil => cases chosen
  | cons c rest ih =>
    rw [findSome?_closings_cons] at chosen
    split at chosen
    · cases chosen
    · next sameLine =>
      rcases Option.or_eq_some_iff.1 chosen with later | ⟨-, here⟩
      · obtain ⟨front, back, rfl, oneLine, found⟩ := ih later
        refine ⟨c :: front, back, rfl, ?_, ?_⟩
        · simpa [Ne.symm sameLine] using oneLine
        · rw [List.length_cons, ← Nat.add_assoc, Nat.add_right_comm]
          exact found
      · split at here
        · next closes =>
          subst closes
          exact ⟨[], rest, rfl, by simp, here⟩
        · cases here

/-- A `>` of the first line is chosen if none behind it is. -/
theorem findSome?_closings_append {count : Nat} {front back : List Char}
    (oneLine : '\n' ∉ front) (here : choose (count + front.length, back) = some result)
    (later : (closings [] (count + front.length + 1) back).findSome? choose = none) :
    (closings [] count (front ++ '>' :: back)).findSome? choose = some result := by
  induction front generalizing count with
  | nil =>
    rw [List.length_nil, Nat.add_zero] at here later
    rw [List.nil_append, findSome?_closings_cons, if_neg (by decide), later, if_pos rfl]
    exact here
  | cons c rest ih =>
    simp only [List.mem_cons, not_or] at oneLine
    have shift : count + (c :: rest).length = count + 1 + rest.length := by
      rw [List.length_cons]
      omega
    rw [shift] at here later
    rw [List.cons_append, findSome?_closings_cons, if_neg (Ne.symm oneLine.1),
      ih oneLine.2 here later]
    rfl

end closings

/-- There is no `>` between the brackets of a type and the name. -/
theorem close_not_mem {mark gap : List Char} (suffix : Mark mark) (isGap : Gap gap) :
    '>' ∉ mark ++ gap := by
  have notInGap : '>' ∉ gap := isGap.blank.not_mem (by decide)
  cases suffix with
  | absent => simpa using notInGap
  | present blank =>
    have notInSpace := blank.not_mem (c := '>') (by decide)
    simp [notInSpace, notInGap]

/-! ## The cut -/

theorem isBlank_of_isWordChar {c : Char} (wordChar : isWordChar c = true) : isBlank c = false := by
  cases blank : isBlank c with
  | false => rfl
  | true =>
    rw [isWordChar_of_isBlank blank] at wordChar
    cases wordChar

/-- What stands behind the word of a type starts with a blank or a mark, unless it starts
with brackets. -/
theorem Mark.head_append {mark gap : List Char} (suffix : Mark mark) (isGap : Gap gap)
    (rest : List Char) : ∀ c ∈ (mark ++ gap ++ rest).head?, isBlank c = true ∨ c = '?' := by
  intro c first
  rw [List.append_assoc] at first
  cases suffix with
  | absent =>
    rw [List.nil_append, List.head?_append_of_ne_nil _ isGap.nonempty] at first
    exact .inl (isGap.blank c (List.mem_of_head? first))
  | present blank =>
    rename_i space
    cases space with
    | nil =>
      cases first
      exact .inr rfl
    | cons d more =>
      cases first
      exact .inl (blank _ List.mem_cons_self)

/-- The brackets, the null mark and the name behind a word. -/
def cut? (word rest : List Char) : Option (List Char × List Char) :=
  match rest with
  | '<' :: inside =>
      (closings [] 0 inside).findSome? fun (count, behind) =>
        if count = 0 then none
        else
          (finish? behind).map fun (mark, name) =>
            (word ++ '<' :: inside.take (count + 1) ++ mark, name)
  | rest => (finish? rest).map fun (mark, name) => (word ++ mark, name)

theorem split?_eq (text : List Char) :
    split? text =
      if (trimStart text).takeWhile isWordChar = [] then none
      else cut? ((trimStart text).takeWhile isWordChar) ((trimStart text).dropWhile isWordChar) :=
  rfl

/-- No `>` inside the name can be taken for the end of the brackets. -/
theorem findSome?_closings_eq_none {β : Type} {choose : Nat × List Char → Option β}
    {mark gap name trail : List Char} (suffix : Mark mark) (isGap : Gap gap) (isRun : Run name)
    (blank : Blanks trail)
    (finishes : ∀ count behind result, choose (count, behind) = some result →
      ∃ mark name, finish? behind = some (mark, name)) (count : Nat) :
    (closings [] count (mark ++ gap ++ name ++ trail)).findSome? choose = none := by
  rw [Option.eq_none_iff_forall_ne_some]
  intro result chosen
  obtain ⟨front, back, whole, -, here⟩ := exists_of_findSome?_closings chosen
  obtain ⟨otherMark, other, finished⟩ := finishes _ _ _ here
  obtain ⟨-, isOther, otherGap, otherTrail, isOtherGap, otherBlank, rfl⟩ :=
    finish?_eq_some_iff.1 finished
  have regroup : front ++ '>' :: (otherMark ++ otherGap ++ other ++ otherTrail) =
      (front ++ '>' :: otherMark ++ otherGap) ++ other ++ otherTrail := by
    simp
  rw [regroup] at whole
  obtain ⟨same, -⟩ := eq_of_lastRun_eq isGap.getLast isRun blank isOtherGap.getLast isOther
    otherBlank whole
  apply close_not_mem suffix isGap
  rw [same]
  simp

theorem take_close (front back : List Char) :
    (front ++ '>' :: back).take (front.length + 1) = front ++ ['>'] := by
  have counted : (front ++ ['>']).length = front.length + 1 := by simp
  rw [List.append_cons, List.take_left' counted]

theorem cut?_eq_some_iff {word rest type name : List Char} :
    cut? word rest = some (type, name) ↔
      Run name ∧ ∃ brackets mark gap trail, Brackets brackets ∧ Mark mark ∧ Gap gap ∧
        Blanks trail ∧ type = word ++ brackets ++ mark ∧
        rest = brackets ++ (mark ++ gap ++ name ++ trail) := by
  constructor
  · intro found
    unfold cut? at found
    split at found
    · next inside =>
      obtain ⟨front, back, rfl, oneLine, chosen⟩ := exists_of_findSome?_closings found
      dsimp only at chosen
      rw [Nat.zero_add] at chosen
      split at chosen
      · cases chosen
      · next nonzero =>
        obtain ⟨⟨mark, other⟩, finished, same⟩ := Option.map_eq_some_iff.1 chosen
        cases same
        obtain ⟨suffix, isRun, gap, trail, isGap, blank, rfl⟩ := finish?_eq_some_iff.1 finished
        have shape : Brackets ('<' :: (front ++ ['>'])) :=
          .around (by rintro rfl; exact nonzero rfl) oneLine
        refine ⟨isRun, _, mark, gap, trail, shape, suffix, isGap, blank, ?_, by simp⟩
        rw [take_close]
    · obtain ⟨⟨mark, other⟩, finished, same⟩ := Option.map_eq_some_iff.1 found
      cases same
      obtain ⟨suffix, isRun, gap, trail, isGap, blank, rfl⟩ := finish?_eq_some_iff.1 finished
      exact ⟨isRun, [], mark, gap, trail, .absent, suffix, isGap, blank, by simp, rfl⟩
  · rintro ⟨isRun, brackets, mark, gap, trail, shape, suffix, isGap, blank, rfl, rfl⟩
    have finished : finish? (mark ++ gap ++ name ++ trail) = some (mark, name) :=
      finish?_eq_some_iff.2 ⟨suffix, isRun, gap, trail, isGap, blank, rfl⟩
    cases shape with
    | absent =>
      have head := suffix.head_append isGap (name ++ trail)
      rw [← List.append_assoc] at head
      rw [List.nil_append, List.append_nil]
      unfold cut?
      split
      · next inside same =>
        rw [same] at head
        have notOpen := head '<' rfl
        exact absurd notOpen (by decide)
      · rw [finished]
        rfl
    | around nonempty oneLine =>
      rename_i inside
      have regroup : '<' :: (inside ++ ['>']) ++ (mark ++ gap ++ name ++ trail) =
          '<' :: (inside ++ '>' :: (mark ++ gap ++ name ++ trail)) := by
        simp
      rw [regroup, cut?]
      apply findSome?_closings_append oneLine
      · have nonzero : inside.length ≠ 0 := by simpa using nonempty
        rw [Nat.zero_add]
        dsimp only
        rw [if_neg nonzero, finished, take_close]
        rfl
      · apply findSome?_closings_eq_none suffix isGap isRun blank
        intro count behind result chosen
        rw [Option.ite_none_left_eq_some] at chosen
        obtain ⟨⟨otherMark, other⟩, otherFinished, -⟩ := Option.map_eq_some_iff.1 chosen.2
        exact ⟨otherMark, other, otherFinished⟩

/-- **Where a declaration is cut.** The name is the last run of the text, and the type is
what stands between the blanks in front of it and those at the start, if it has the form of
one. -/
theorem split?_eq_some_iff {text type name : List Char} :
    split? text = some (type, name) ↔
      TypeText type ∧ Run name ∧ ∃ lead gap trail, Blanks lead ∧ Gap gap ∧ Blanks trail ∧
        text = lead ++ type ++ gap ++ name ++ trail := by
  rw [split?_eq]
  constructor
  · intro found
    rw [Option.ite_none_left_eq_some] at found
    obtain ⟨nonempty, found⟩ := found
    obtain ⟨isRun, brackets, mark, gap, trail, shape, suffix, isGap, blank, rfl, rest⟩ :=
      cut?_eq_some_iff.1 found
    obtain ⟨lead, leadBlank, start⟩ := exists_trimStart text
    have isWord : ∀ c ∈ (trimStart text).takeWhile isWordChar, isWordChar c = true :=
      fun c member => List.all_eq_true.1 List.all_takeWhile c member
    refine ⟨.of nonempty isWord shape suffix, isRun, lead, gap, trail, leadBlank, isGap, blank, ?_⟩
    calc
      text = lead ++ trimStart text := start
      _ = lead ++ ((trimStart text).takeWhile isWordChar ++
            (trimStart text).dropWhile isWordChar) := by rw [List.takeWhile_append_dropWhile]
      _ = _ := by
        rw [rest]
        simp only [List.append_assoc]
  · rintro ⟨⟨nonempty, isWord, shape, suffix⟩, isRun, lead, gap, trail, leadBlank, isGap, blank,
      rfl⟩
    rename_i word brackets mark
    have regroup : lead ++ (word ++ brackets ++ mark) ++ gap ++ name ++ trail =
        lead ++ (word ++ (brackets ++ (mark ++ gap ++ name ++ trail))) := by
      simp only [List.append_assoc]
    have solid : ∀ c ∈ (word ++ (brackets ++ (mark ++ gap ++ name ++ trail))).head?,
        isBlank c = false := by
      intro c first
      rw [List.head?_append_of_ne_nil _ nonempty] at first
      exact isBlank_of_isWordChar (isWord c (List.mem_of_head? first))
    have stop : ∀ c ∈ (brackets ++ (mark ++ gap ++ name ++ trail)).head?,
        isWordChar c = false := by
      intro c first
      cases shape with
      | absent =>
        rw [List.nil_append, List.append_assoc] at first
        rcases suffix.head_append isGap _ c first with space | rfl
        · exact isWordChar_of_isBlank space
        · decide
      | around inside oneLine =>
        cases first
        decide
    obtain ⟨taken, dropped⟩ := span_append isWord stop
    rw [regroup, trimStart_append leadBlank, trimStart_of_head solid, taken, dropped,
      if_neg nonempty]
    exact cut?_eq_some_iff.2 ⟨isRun, brackets, mark, gap, trail, shape, suffix, isGap, blank,
      rfl, rfl⟩

end Recordsmith.Declaration
