/-
# Recordsmith.Proofs.Record.LastRun — a declaration is cut in front of its last run

What a declaration declares is told without any search for brackets. Take the last run
of characters that are not blank (`lastRun?`): it is the name, and the trimmed text in
front of it is the type, provided that it has the form

    word ['<' line '>'] blanks ['?']

(`TypeForm`). If there is no run, or the text in front of it has another form, the
declaration cannot be cut.

A text can follow the pattern of a declaration in several ways (`Reading`), since the
blanks behind a type can be counted to it or to the gap in front of the name. It makes
no difference which way is taken: they all have the same name, and types are trimmed
before they are read (`ofDeclaration_eq_lastRun`).
-/
import Mathlib.Data.List.DropRight
import Recordsmith.Proofs.Record.Field

namespace Recordsmith

open Recordsmith.Text

set_option autoImplicit false

namespace Declaration

/-- The last run of characters that are not blank, behind the text in front of it. -/
def lastRun? (text : List Char) : Option (List Char × List Char) :=
  let kept := text.rdropWhile isBlank
  if kept = [] then none
  else some (kept.rdropWhile (!isBlank ·), kept.rtakeWhile (!isBlank ·))

/-- The form of a type in a declaration. -/
inductive TypeForm : List Char → Prop where
  | of {word brackets space mark : List Char} (nonempty : word ≠ [])
      (isWord : ∀ c ∈ word, isWordChar c = true) (shape : Brackets brackets)
      (blank : Blanks space) (suffix : mark = [] ∨ mark = ['?']) :
      TypeForm (word ++ brackets ++ space ++ mark)

/-- A way to read a declaration: a type, a gap and a name, with blanks around them. -/
inductive Reading : List Char → List Char → List Char → Prop where
  | of {lead type gap name trail : List Char} (leadBlank : Blanks lead) (form : TypeForm type)
      (isGap : Gap gap) (isRun : Run name) (trailBlank : Blanks trail) :
      Reading (lead ++ type ++ gap ++ name ++ trail) type name

/-! ## The last run -/

theorem lastRun?_of_run {front run trail : List Char}
    (closed : ∀ c ∈ front.getLast?, isBlank c = true) (isRun : Run run) (blank : Blanks trail) :
    lastRun? (front ++ run ++ trail) = some (front, run) := by
  obtain ⟨-, taken, dropped⟩ := span_reverse closed isRun blank
  have nonempty : (front ++ run ++ trail).reverse.dropWhile isBlank ≠ [] := by
    intro empty
    rw [empty] at taken
    exact isRun.nonempty (List.reverse_eq_nil_iff.1 taken.symm)
  simp only [lastRun?, List.rdropWhile, List.rtakeWhile, List.reverse_eq_nil_iff,
    List.reverse_reverse, if_neg nonempty, taken, dropped]

theorem exists_of_lastRun? {text front run : List Char}
    (found : lastRun? text = some (front, run)) :
    Run run ∧ (∀ c ∈ front.getLast?, isBlank c = true) ∧
      ∃ trail, Blanks trail ∧ text = front ++ run ++ trail := by
  rw [lastRun?, Option.ite_none_left_eq_some, Option.some.injEq, Prod.mk.injEq] at found
  obtain ⟨nonempty, rfl, rfl⟩ := found
  refine ⟨⟨?_, ?_⟩, ?_, text.rtakeWhile isBlank, ?_, ?_⟩
  · rw [Ne, List.rtakeWhile_eq_nil_iff]
    intro blank
    have solid := List.rdropWhile_last_not isBlank text nonempty
    exact blank nonempty (by simpa using solid)
  · intro c member
    simpa using List.mem_rtakeWhile_imp member
  · intro c last
    obtain ⟨inside, rfl⟩ := List.mem_getLast?_eq_getLast last
    simpa using List.rdropWhile_last_not (!isBlank ·) _ inside
  · exact fun c member => List.mem_rtakeWhile_imp member
  · rw [List.rdropWhile_append_rtakeWhile, List.rdropWhile_append_rtakeWhile]

/-! ## The form of a type -/

theorem TypeText.solid {text : List Char} (isType : TypeText text) : Solid text := by
  cases isType with
  | of nonempty isWord shape suffix =>
    rename_i word brackets mark
    have solid : ∀ c ∈ word, isBlank c = false := fun c member =>
      isBlank_of_isWordChar (isWord c member)
    refine ⟨fun c first => ?_, fun c last => ?_⟩
    · rw [List.append_assoc, List.head?_append_of_ne_nil _ nonempty] at first
      exact solid c (List.mem_of_head? first)
    · cases suffix with
      | present blank =>
        rw [← List.append_assoc, List.getLast?_concat] at last
        cases last
        decide
      | absent =>
        rw [List.append_nil] at last
        cases shape with
        | absent =>
          rw [List.append_nil] at last
          exact solid c (List.mem_of_getLast? last)
        | around _ _ =>
          rw [← List.cons_append, ← List.append_assoc, List.getLast?_concat] at last
          cases last
          decide

theorem TypeText.typeForm {text : List Char} (isType : TypeText text) : TypeForm text := by
  cases isType with
  | of nonempty isWord shape suffix =>
    cases suffix with
    | absent => simpa using TypeForm.of nonempty isWord shape Blanks.nil (.inl rfl)
    | present blank => simpa using TypeForm.of nonempty isWord shape blank (.inr rfl)

/-- A text of the form of a type is a type and blanks, and trimming drops the blanks. -/
theorem TypeForm.eq_trim_append {text : List Char} (form : TypeForm text) :
    TypeText (trim text) ∧ ∃ space, Blanks space ∧ text = trim text ++ space := by
  have padded : ∃ type space, TypeText type ∧ Blanks space ∧ text = type ++ space := by
    cases form with
    | of nonempty isWord shape blank suffix =>
      rename_i word brackets space mark
      rcases suffix with rfl | rfl
      · exact ⟨_, space, .of nonempty isWord shape .absent, blank, by simp⟩
      · exact ⟨_, [], .of nonempty isWord shape (.present blank), Blanks.nil, by simp⟩
  obtain ⟨type, space, isType, blank, rfl⟩ := padded
  have trimmed : trim ([] ++ type ++ space) = type := trim_padded Blanks.nil isType.solid blank
  rw [List.nil_append] at trimmed
  rw [trimmed]
  exact ⟨isType, space, blank, rfl⟩

theorem TypeForm.ne_nil {text : List Char} (form : TypeForm text) : text ≠ [] := by
  cases form with
  | of nonempty isWord shape blank suffix => simp [nonempty]

/-! ## Deciding the form -/

theorem brackets_iff {text : List Char} :
    Brackets text ↔
      text = [] ∨ (text = '<' :: (text.tail.dropLast ++ ['>']) ∧ text.tail.dropLast ≠ [] ∧
        '\n' ∉ text.tail.dropLast) := by
  constructor
  · rintro (_ | ⟨nonempty, oneLine⟩)
    · exact .inl rfl
    · right
      rw [List.tail_cons, List.dropLast_concat]
      exact ⟨rfl, nonempty, oneLine⟩
  · rintro (rfl | ⟨same, nonempty, oneLine⟩)
    · exact .absent
    · rw [same]
      exact .around nonempty oneLine

instance (text : List Char) : Decidable (Brackets text) :=
  decidable_of_iff _ brackets_iff.symm

/-- The text without a null mark at its end. -/
def unmarked (text : List Char) : List Char :=
  if text.getLast? = some '?' then text.dropLast else text

theorem exists_unmarked (text : List Char) :
    ∃ mark, (mark = [] ∨ mark = ['?']) ∧ text = unmarked text ++ mark := by
  rw [unmarked]
  split
  · next marked =>
    obtain ⟨front, rfl⟩ := List.getLast?_eq_some_iff.1 marked
    exact ⟨['?'], .inr rfl, by rw [List.dropLast_concat]⟩
  · exact ⟨[], .inl rfl, by rw [List.append_nil]⟩

theorem Brackets.getLast {text : List Char} (shape : Brackets text) :
    ∀ c ∈ text.getLast?, c = '>' := by
  intro c last
  cases shape with
  | absent => cases last
  | around _ _ =>
    rw [← List.cons_append, List.getLast?_concat] at last
    cases last
    rfl

theorem trimEnd_unmarked {brackets space mark : List Char} (shape : Brackets brackets)
    (blank : Blanks space) (suffix : mark = [] ∨ mark = ['?']) :
    trimEnd (unmarked (brackets ++ space ++ mark)) = brackets := by
  have same : unmarked (brackets ++ space ++ mark) = brackets ++ space := by
    rcases suffix with rfl | rfl
    · rw [List.append_nil, unmarked, if_neg]
      intro marked
      rw [List.getLast?_append, Option.or_eq_some_iff] at marked
      rcases marked with inSpace | ⟨-, inBrackets⟩
      · have := blank '?' (List.mem_of_getLast? inSpace)
        exact absurd this (by decide)
      · exact absurd (shape.getLast '?' inBrackets) (by decide)
    · rw [unmarked, if_pos List.getLast?_concat, List.dropLast_concat]
  rw [same, trimEnd_append blank, trimEnd_of_getLast]
  intro c last
  rw [shape.getLast c last]
  decide

theorem typeForm_iff {text : List Char} :
    TypeForm text ↔ text.takeWhile isWordChar ≠ [] ∧
      Brackets (trimEnd (unmarked (text.dropWhile isWordChar))) := by
  constructor
  · rintro ⟨nonempty, isWord, shape, blank, suffix⟩
    rename_i word brackets space mark
    have stop : ∀ c ∈ (brackets ++ space ++ mark).head?, isWordChar c = false := by
      intro c first
      rw [List.append_assoc, List.head?_append, List.head?_append, Option.mem_def,
        Option.or_eq_some_iff, Option.or_eq_some_iff] at first
      rcases first with inBrackets | ⟨-, inSpace | ⟨-, inMark⟩⟩
      · cases shape with
        | absent => cases inBrackets
        | around _ _ =>
          cases inBrackets
          decide
      · exact isWordChar_of_isBlank (blank c (List.mem_of_head? inSpace))
      · rcases suffix with rfl | rfl
        · cases inMark
        · cases inMark
          decide
    obtain ⟨taken, dropped⟩ := span_append isWord stop
    rw [List.append_assoc, List.append_assoc, ← List.append_assoc brackets, taken, dropped,
      trimEnd_unmarked shape blank suffix]
    exact ⟨nonempty, shape⟩
  · rintro ⟨nonempty, shape⟩
    obtain ⟨mark, suffix, marked⟩ := exists_unmarked (text.dropWhile isWordChar)
    obtain ⟨space, blank, spaced⟩ := exists_trimEnd (unmarked (text.dropWhile isWordChar))
    have isWord : ∀ c ∈ text.takeWhile isWordChar, isWordChar c = true := fun c member =>
      List.all_eq_true.1 List.all_takeWhile c member
    have form := TypeForm.of nonempty isWord shape blank suffix
    rwa [List.append_assoc _ _ space, ← spaced, List.append_assoc, ← marked,
      List.takeWhile_append_dropWhile] at form

instance (text : List Char) : Decidable (TypeForm text) :=
  decidable_of_iff _ typeForm_iff.symm

/-! ## Readings -/

theorem Reading.typeForm {text type name : List Char} (reading : Reading text type name) :
    TypeForm type := by
  cases reading with
  | of leadBlank form isGap isRun trailBlank => exact form

/-- Every reading has the last run for its name, and all that stands in front of that, blanks
at the ends apart, for its type. -/
theorem Reading.exists_lastRun {text type name : List Char} (reading : Reading text type name) :
    ∃ front, lastRun? text = some (front, name) ∧ trim front = trim type := by
  cases reading with
  | of leadBlank form isGap isRun trailBlank =>
    rename_i lead gap trail
    obtain ⟨isType, space, spaceBlank, spaced⟩ := form.eq_trim_append
    refine ⟨_, lastRun?_of_run isGap.getLast isRun trailBlank, ?_⟩
    have regroup : lead ++ type ++ gap = lead ++ trim type ++ (space ++ gap) := by
      rw [← List.append_assoc, List.append_assoc lead (trim type), ← spaced]
    rw [regroup]
    exact trim_padded leadBlank isType.solid (spaceBlank.append isGap.blank)

/-- The last run and a type in front of it are a reading. -/
theorem reading_of_lastRun {text front run : List Char} (found : lastRun? text = some (front, run))
    (form : TypeForm (trim front)) : Reading text (trim front) run := by
  obtain ⟨isRun, closed, trail, trailBlank, rfl⟩ := exists_of_lastRun? found
  obtain ⟨lead, gap, leadBlank, gapBlank, same⟩ := exists_padding front
  have isGap : Gap gap := by
    refine ⟨?_, gapBlank⟩
    rintro rfl
    -- Without a gap the last character of the type would be a blank.
    rw [List.append_nil] at same
    have ends : front.getLast? = (trim front).getLast? := by
      conv =>
        lhs
        rw [same]
      exact List.getLast?_append_of_ne_nil _ form.ne_nil
    have last := List.getLast?_eq_getLast_of_ne_nil form.ne_nil
    have solid := (solid_trim front).last _ last
    rw [closed _ (ends.trans last)] at solid
    cases solid
  have reading : Reading (lead ++ trim front ++ gap ++ run ++ trail) (trim front) run :=
    .of leadBlank form isGap isRun trailBlank
  rwa [← same] at reading

/-- Cutting finds a reading whose type is trimmed, if there is any. -/
theorem split?_of_reading {text type name : List Char} (reading : Reading text type name) :
    split? text = some (trim type, name) := by
  cases reading with
  | of leadBlank form isGap isRun trailBlank =>
    rename_i lead gap trail
    obtain ⟨isType, space, spaceBlank, spaced⟩ := form.eq_trim_append
    have wide : Gap (space ++ gap) := ⟨by simp [isGap.nonempty], spaceBlank.append isGap.blank⟩
    refine split?_eq_some_iff.2 ⟨isType, isRun, lead, space ++ gap, trail, leadBlank, wide,
      trailBlank, ?_⟩
    rw [← List.append_assoc, List.append_assoc lead (trim type), ← spaced]

theorem reading_of_split? {text type name : List Char} (found : split? text = some (type, name)) :
    Reading text type name := by
  obtain ⟨isType, isRun, lead, gap, trail, leadBlank, isGap, trailBlank, rfl⟩ :=
    split?_eq_some_iff.1 found
  exact .of leadBlank isType.typeForm isGap isRun trailBlank

end Declaration

namespace Field

open Declaration (lastRun? TypeForm Reading)

theorem ofParts_trim (record name : String) (type : List Char) :
    ofParts record name (String.ofList (trim type)) = ofParts record name (String.ofList type) := by
  simp only [ofParts, TypeExpr.parse, String.toList_ofList, TypeExpr.parseChars_trim]

theorem ofDeclaration_of_reading (record : String) (index : Nat) {text : String}
    {type name : List Char} (reading : Reading text.toList type name) :
    ofDeclaration record index text =
      ofParts record (String.ofList name) (String.ofList type) := by
  rw [ofDeclaration, Declaration.split?_of_reading reading]
  exact ofParts_trim record _ type

theorem ofDeclaration_of_no_reading (record : String) (index : Nat) {text : String}
    (unread : ∀ type name, ¬Reading text.toList type name) :
    ofDeclaration record index text = .error (.invalidField record index text) := by
  have uncut : Declaration.split? text.toList = none := by
    rw [Option.eq_none_iff_forall_ne_some]
    rintro ⟨type, name⟩ found
    exact unread type name (Declaration.reading_of_split? found)
  rw [ofDeclaration, uncut]

/-- **A declaration is cut in front of its last run.** The last run is the name, and the
trimmed text in front of it is the type if it has the form of one; else there is nothing to cut.
Every other way to read the text along the pattern of a declaration gives the same field or the
same error. -/
theorem ofDeclaration_eq_lastRun (record : String) (index : Nat) (text : String) :
    (ofDeclaration record index text =
      (lastRun? text.toList).elim (.error (.invalidField record index text)) fun found =>
        if TypeForm (trim found.1) then
          ofParts record (String.ofList found.2) (String.ofList (trim found.1))
        else .error (.invalidField record index text)) ∧
    (∀ type name, Reading text.toList type name →
      ofDeclaration record index text =
        ofParts record (String.ofList name) (String.ofList type)) ∧
    ((∀ type name, ¬Reading text.toList type name) →
      ofDeclaration record index text = .error (.invalidField record index text)) := by
  refine ⟨?_, fun type name => ofDeclaration_of_reading record index,
    ofDeclaration_of_no_reading record index⟩
  cases found : lastRun? text.toList with
  | none =>
    apply ofDeclaration_of_no_reading
    intro type name reading
    obtain ⟨front, other, -⟩ := reading.exists_lastRun
    rw [found] at other
    cases other
  | some cut =>
    obtain ⟨front, run⟩ := cut
    rw [Option.elim_some]
    split
    · next form =>
      exact ofDeclaration_of_reading record index (Declaration.reading_of_lastRun found form)
    · next formless =>
      apply ofDeclaration_of_no_reading
      intro type name reading
      obtain ⟨other, same, trimmed⟩ := reading.exists_lastRun
      cases found.symm.trans same
      apply formless
      rw [trimmed]
      exact reading.typeForm.eq_trim_append.1.typeForm

/-- The blanks in front of a name counted to the type and counted to the gap, and a text in
which what stands in front of the last run is no type. -/
theorem ofDeclaration_eq_lastRun_blanks :
    Reading " List<a> >\u2003 b>?".toList "List<a> >\u2003".toList "b>?".toList ∧
      Reading " List<a> >\u2003 b>?".toList "List<a> >".toList "b>?".toList ∧
      ofParts "Ledger" "b>?" "List<a> >\u2003" = ofParts "Ledger" "b>?" "List<a> >" ∧
      (∀ type name, ¬Reading "int> entry".toList type name) ∧
      ofDeclaration "Ledger" 2 "int> entry" =
        .error (.invalidField "Ledger" 2 "int> entry") := by
  have lead : Blanks [' '] := by decide
  have solid : ("b>?".toList.all fun c => !isBlank c) = true := by decide
  have isRun : Declaration.Run "b>?".toList :=
    ⟨by decide, by simpa only [List.all_eq_true, Bool.not_eq_true'] using solid⟩
  have narrow : Declaration.Gap [' '] := ⟨by decide, lead⟩
  have wide : Declaration.Gap ['\u2003', ' '] := ⟨by decide, by decide⟩
  have long : TypeForm "List<a> >\u2003".toList := by decide
  have short : TypeForm "List<a> >".toList := by decide
  have withBlank := Reading.of lead long narrow isRun Blanks.nil
  have withoutBlank := Reading.of lead short wide isRun Blanks.nil
  obtain ⟨-, read, -⟩ := ofDeclaration_eq_lastRun "Ledger" 0 " List<a> >\u2003 b>?"
  obtain ⟨-, -, refused⟩ := ofDeclaration_eq_lastRun "Ledger" 2 "int> entry"
  have unread : ∀ type name, ¬Reading "int> entry".toList type name := by
    intro type name reading
    obtain ⟨front, found, trimmed⟩ := reading.exists_lastRun
    have cut : lastRun? "int> entry".toList = some ("int> ".toList, "entry".toList) := by decide
    cases cut.symm.trans found
    have form := reading.typeForm.eq_trim_append.1.typeForm
    rw [← trimmed] at form
    exact absurd form (by decide)
  exact ⟨withBlank, withoutBlank, (read _ _ withBlank).symm.trans (read _ _ withoutBlank), unread,
    refused unread⟩

end Field

end Recordsmith
