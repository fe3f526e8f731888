/-
# Recordsmith.Distinct — first occurrences

References, modules and imports are listed without repetition, each name where
it first occurs.
-/
namespace Recordsmith

set_option autoImplicit false

/-- The elements of a list without repetitions, each at its first occurrence. -/
def distinct {α : Type} [DecidableEq α] : List α → List α
  | [] => []
  | a :: rest => a :: (distinct rest).filter (· ≠ a)

/-- The first element that already stands further to the front. -/
def firstRepeat? {α : Type} [DecidableEq α] (names : List α) : Option α :=
  go [] names
where
  go (seen : List α) : List α → Option α
    | [] => none
    | a :: rest => if a ∈ seen then some a else go (a :: seen) rest

theorem mem_distinct {α : Type} [DecidableEq α] {a : α} {names : List α} :
    a ∈ distinct names ↔ a ∈ names := by
  induction names with
  | nil => simp [distinct]
  | cons b rest ih =>
    by_cases same : a = b <;> simp [distinct, same, ih]

theorem nodup_distinct {α : Type} [DecidableEq α] (names : List α) : (distinct names).Nodup := by
  induction names with
  | nil => simp [distinct]
  | cons b rest ih =>
    rw [distinct, List.nodup_cons]
    exact ⟨by simp, ih.filter _⟩

theorem firstRepeat?_go_eq_none {α : Type} [DecidableEq α] {seen names : List α} :
    firstRepeat?.go seen names = none ↔ names.Nodup ∧ ∀ a ∈ names, a ∉ seen := by
  induction names generalizing seen with
  | nil => simp [firstRepeat?.go]
  | cons b rest ih =>
    rw [firstRepeat?.go]
    by_cases old : b ∈ seen
    · simp [old]
    · simp only [old, if_false, ih, List.nodup_cons, List.mem_cons, not_or]
      grind

/-- No element repeats exactly when the list has no duplicates. -/
theorem firstRepeat?_eq_none {α : Type} [DecidableEq α] {names : List α} :
    firstRepeat? names = none ↔ names.Nodup := by
  simp [firstRepeat?, firstRepeat?_go_eq_none]

theorem firstRepeat?_go_eq_some {α : Type} [DecidableEq α] {seen names : List α} {a : α} :
    firstRepeat?.go seen names = some a ↔
      ∃ front back, names = front ++ a :: back ∧ front.Nodup ∧ (∀ b ∈ front, b ∉ seen) ∧
        (a ∈ front ∨ a ∈ seen) := by
  induction names generalizing seen with
  | nil => simp [firstRepeat?.go]
  | cons b rest ih =>
    rw [firstRepeat?.go]
    by_cases old : b ∈ seen
    · rw [if_pos old]
      constructor
      · intro same
        cases same
        exact ⟨[], rest, rfl, List.nodup_nil, by simp, .inr old⟩
      · rintro ⟨front, back, split, -, fresh, -⟩
        cases front with
        | nil => cases split; rfl
        | cons first front => cases split; exact absurd old (fresh b List.mem_cons_self)
    · rw [if_neg old, ih]
      constructor
      · rintro ⟨front, back, rfl, unrepeated, fresh, taken⟩
        refine ⟨b :: front, back, rfl, ?_, ?_, ?_⟩
        · exact List.nodup_cons.2 ⟨fun again => fresh b again List.mem_cons_self, unrepeated⟩
        · grind
        · grind
      · rintro ⟨front, back, split, unrepeated, fresh, taken⟩
        cases front with
        | nil => cases split; exact absurd (taken.resolve_left (by simp)) old
        | cons first front =>
          cases split
          rw [List.nodup_cons] at unrepeated
          refine ⟨front, back, rfl, unrepeated.2, ?_, ?_⟩
          · grind
          · grind

/-- The first repeated element stands behind distinct ones, and is one of them. -/
theorem firstRepeat?_eq_some {α : Type} [DecidableEq α] {names : List α} {a : α} :
    firstRepeat? names = some a ↔
      ∃ front back, names = front ++ a :: back ∧ front.Nodup ∧ a ∈ front := by
  simp [firstRepeat?, firstRepeat?_go_eq_some]

end Recordsmith
