/-
# Recordsmith.Proofs.Text.Trim — what trimming keeps and what it drops

`trim` drops a run of blanks on each side and nothing else. The two sides of
this are

* `exists_padding`: a text is its trimmed text between two runs of blanks;
* `trim_padded`: a text between two runs of blanks trims to itself, if it has
  no blank at either end (`Solid`).

Identifiers are solid, and so is everything that starts with an identifier and
ends in a character that is no blank.
-/
import Recordsmith.Text.Blank
import Recordsmith.Text.Identifier

namespace Recordsmith.Text

set_option autoImplicit false

/-- A run of blanks, possibly empty. -/
def Blanks (text : List Char) : Prop :=
  ∀ c ∈ text, isBlank c = true

instance (text : List Char) : Decidable (Blanks text) :=
  decidable_of_iff (text.all isBlank = true) List.all_eq_true

/-- A text without a blank at either end. -/
structure Solid (text : List Char) : Prop where
  first : ∀ c ∈ text.head?, isBlank c = false
  last : ∀ c ∈ text.getLast?, isBlank c = false

theorem Blanks.nil : Blanks [] := by
  intro c member
  cases member

theorem Blanks.append {front back : List Char} (first : Blanks front) (second : Blanks back) :
    Blanks (front ++ back) := by
  intro c member
  rcases List.mem_append.1 member with member | member
  · exact first c member
  · exact second c member

theorem Blanks.not_mem {text : List Char} (blank : Blanks text) {c : Char}
    (solid : isBlank c = false) : c ∉ text := by
  intro member
  rw [blank c member] at solid
  cases solid

/-! ## One side -/

theorem trimStart_append {front : List Char} (blank : Blanks front) (back : List Char) :
    trimStart (front ++ back) = trimStart back :=
  List.dropWhile_append_of_pos blank

theorem trimStart_of_head {text : List Char} (first : ∀ c ∈ text.head?, isBlank c = false) :
    trimStart text = text := by
  cases text with
  | nil => rfl
  | cons c rest =>
    have solid : isBlank c = false := first c rfl
    simp [trimStart, solid]

theorem trimEnd_blanks {text : List Char} (blank : Blanks text) : trimEnd text = [] := by
  induction text with
  | nil => rfl
  | cons c rest ih =>
    have tail : Blanks rest := fun d member => blank d (List.mem_cons_of_mem c member)
    rw [trimEnd, ih tail]
    simp [blank c List.mem_cons_self]

theorem trimEnd_append {back : List Char} (blank : Blanks back) (front : List Char) :
    trimEnd (front ++ back) = trimEnd front := by
  induction front with
  | nil => exact trimEnd_blanks blank
  | cons c rest ih =>
    rw [List.cons_append, trimEnd, trimEnd, ih]

theorem trimEnd_of_getLast {text : List Char} (last : ∀ c ∈ text.getLast?, isBlank c = false) :
    trimEnd text = text := by
  induction text with
  | nil => rfl
  | cons c rest ih =>
    cases rest with
    | nil =>
      have solid : isBlank c = false := last c rfl
      simp [trimEnd, solid]
    | cons d rest =>
      have same : trimEnd (d :: rest) = d :: rest := ih (by simpa using last)
      rw [trimEnd, same]

theorem exists_trimEnd (text : List Char) : ∃ gap, Blanks gap ∧ text = trimEnd text ++ gap := by
  induction text with
  | nil => exact ⟨[], Blanks.nil, rfl⟩
  | cons c rest ih =>
    obtain ⟨gap, blank, same⟩ := ih
    rw [trimEnd]
    split
    · next empty =>
      rw [empty, List.nil_append] at same
      subst same
      split
      · next isBlank =>
        refine ⟨c :: rest, ?_, rfl⟩
        intro d member
        rcases List.mem_cons.1 member with rfl | member
        · exact isBlank
        · exact blank d member
      · exact ⟨rest, blank, rfl⟩
    · exact ⟨gap, blank, by rw [List.cons_append, ← same]⟩

theorem exists_trimStart (text : List Char) :
    ∃ gap, Blanks gap ∧ text = gap ++ trimStart text := by
  refine ⟨text.takeWhile isBlank, ?_, List.takeWhile_append_dropWhile.symm⟩
  intro c member
  exact List.all_eq_true.1 List.all_takeWhile c member

/-! ## Both sides -/

/-- Only blanks are lost by trimming, and only at the two ends. -/
theorem exists_padding (text : List Char) :
    ∃ lead gap, Blanks lead ∧ Blanks gap ∧ text = lead ++ trim text ++ gap := by
  obtain ⟨lead, leadBlank, start⟩ := exists_trimStart text
  obtain ⟨gap, gapBlank, stop⟩ := exists_trimEnd (trimStart text)
  refine ⟨lead, gap, leadBlank, gapBlank, ?_⟩
  rw [trim, List.append_assoc, ← stop]
  exact start

/-- A solid text is found again between any two runs of blanks. -/
theorem trim_padded {lead text gap : List Char} (leadBlank : Blanks lead) (solid : Solid text)
    (gapBlank : Blanks gap) : trim (lead ++ text ++ gap) = text := by
  rw [trim, List.append_assoc, trimStart_append leadBlank]
  cases text with
  | nil =>
    have dropped : trimStart (gap ++ []) = trimStart [] := trimStart_append gapBlank []
    rw [List.nil_append, ← List.append_nil gap, dropped]
    rfl
  | cons c rest =>
    rw [trimStart_of_head (by simpa using solid.first), trimEnd_append gapBlank]
    exact trimEnd_of_getLast solid.last

theorem head_trimEnd {text : List Char} {c : Char} (first : c ∈ (trimEnd text).head?) :
    c ∈ text.head? := by
  cases text with
  | nil => cases first
  | cons d rest =>
    rw [trimEnd] at first
    split at first
    · split at first
      · cases first
      · exact first
    · exact first

theorem isBlank_getLast_trimEnd (text : List Char) :
    ∀ c ∈ (trimEnd text).getLast?, isBlank c = false := by
  induction text with
  | nil => simp [trimEnd]
  | cons d rest ih =>
    intro c last
    rw [trimEnd] at last
    split at last
    · split at last
      · cases last
      · next solid =>
        cases last
        simpa using solid
    · next kept nonempty =>
      obtain ⟨e, more, same⟩ := List.exists_cons_of_ne_nil nonempty
      rw [same, List.getLast?_cons_cons] at last
      exact ih c (by rw [same]; exact last)

theorem solid_trim (text : List Char) : Solid (trim text) := by
  refine ⟨?_, isBlank_getLast_trimEnd _⟩
  intro c first
  have start : c ∈ (trimStart text).head? := head_trimEnd first
  have bound := List.head?_dropWhile_not isBlank text
  rw [trimStart] at start
  rw [Option.mem_def.1 start] at bound
  exact bound

theorem trim_of_solid {text : List Char} (solid : Solid text) : trim text = text := by
  simpa using trim_padded Blanks.nil solid Blanks.nil

theorem trim_trim (text : List Char) : trim (trim text) = trim text :=
  trim_of_solid (solid_trim text)

theorem trim_blanks {text : List Char} (blank : Blanks text) : trim text = [] := by
  have solid : Solid [] := ⟨by simp, by simp⟩
  simpa using trim_padded Blanks.nil solid blank

theorem blanks_of_trim_eq_nil {text : List Char} (empty : trim text = []) : Blanks text := by
  obtain ⟨lead, gap, leadBlank, gapBlank, same⟩ := exists_padding text
  rw [empty, List.append_nil] at same
  rw [same]
  exact leadBlank.append gapBlank

/-! ## Identifiers -/

theorem isIdentifierPart_of_isIdentifier {name : List Char} (valid : isIdentifier name = true) :
    ∀ c ∈ name, isIdentifierPart c = true := by
  cases name with
  | nil => intro c member; cases member
  | cons first rest =>
    rw [isIdentifier, Bool.and_eq_true, List.all_eq_true] at valid
    intro c member
    rcases List.mem_cons.1 member with rfl | member
    · rw [isIdentifierPart, valid.1, Bool.true_or]
    · exact valid.2 c member

theorem ne_nil_of_isIdentifier {name : List Char} (valid : isIdentifier name = true) :
    name ≠ [] := by
  rintro rfl
  cases valid

/-- Identifiers are printable ASCII, from `$` on. -/
theorem toNat_of_isIdentifierPart {c : Char} (part : isIdentifierPart c = true) :
    0x24 ≤ c.toNat ∧ c.toNat < 0x80 := by
  simp only [isIdentifierPart, isIdentifierStart, Bool.or_eq_true, beq_iff_eq] at part
  rcases part with ((letter | rfl) | rfl) | digit
  · change (decide (65 ≤ c.toNat ∧ c.toNat ≤ 90) ||
      (decide (97 ≤ c.toNat) && decide (c.toNat ≤ 122))) = true at letter
    simp only [Bool.or_eq_true, Bool.and_eq_true, decide_eq_true_eq] at letter
    omega
  · decide
  · decide
  · obtain ⟨low, high⟩ := Char.isDigit_iff_toNat.1 digit
    change 48 ≤ c.toNat at low
    change c.toNat ≤ 57 at high
    omega

/-- No character of an identifier is a blank. -/
theorem isBlank_of_isIdentifierPart {c : Char} (part : isIdentifierPart c = true) :
    isBlank c = false := by
  have bounded := toNat_of_isIdentifierPart part
  simp only [isBlank, Bool.or_eq_false_iff, Bool.and_eq_false_iff, decide_eq_false_iff_not,
    beq_eq_false_iff_ne]
  omega

theorem not_mem_of_isIdentifier {name : List Char} (valid : isIdentifier name = true) {c : Char}
    (foreign : isIdentifierPart c = false) : c ∉ name := by
  intro member
  rw [isIdentifierPart_of_isIdentifier valid c member] at foreign
  cases foreign

theorem solid_of_isIdentifier {name : List Char} (valid : isIdentifier name = true) :
    Solid name := by
  have solid : ∀ c ∈ name, isBlank c = false := fun c member =>
    isBlank_of_isIdentifierPart (isIdentifierPart_of_isIdentifier valid c member)
  exact ⟨fun c first => solid c (List.mem_of_head? first),
    fun c last => solid c (List.mem_of_getLast? last)⟩

end Recordsmith.Text
