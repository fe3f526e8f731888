/-
# Recordsmith.Proofs.Layout.Suppression — which semicolons are cancelled

`dropSuppressed` goes over tokens with one bit of memory, `suppressedBehind` is
that bit behind a sequence, and so a sequence can be taken apart
(`dropSuppressed_append`).

The rule itself needs no memory: a `statementEnd` is cancelled if the tokens in
front of it end in a `noStatementEnd`, apart from further such marks and
`noSpaceBefore` (`Cancelled`). The bit says just that (`suppressedBehind_iff`).
-/
import Mathlib.Data.List.Induction
import Recordsmith.Layout.Format

namespace Recordsmith.Layout

set_option autoImplicit false

/-- Whether a semicolon is cancelled behind one more token. -/
def suppressedAfter (suppressed : Bool) : Token → Bool
  | .noStatementEnd => true
  | .noSpaceBefore => suppressed
  | _ => false

/-- Whether a semicolon is cancelled behind tokens. -/
def suppressedBehind (suppressed : Bool) (tokens : List Token) : Bool :=
  tokens.foldl suppressedAfter suppressed

@[simp] theorem suppressedBehind_nil (suppressed : Bool) :
    suppressedBehind suppressed [] = suppressed := rfl

@[simp] theorem suppressedBehind_cons (suppressed : Bool) (token : Token) (rest : List Token) :
    suppressedBehind suppressed (token :: rest) =
      suppressedBehind (suppressedAfter suppressed token) rest := rfl

@[simp] theorem suppressedBehind_append (suppressed : Bool) (front back : List Token) :
    suppressedBehind suppressed (front ++ back) =
      suppressedBehind (suppressedBehind suppressed front) back :=
  List.foldl_append

theorem dropSuppressed_cons (suppressed : Bool) (token : Token) (rest : List Token) :
    dropSuppressed suppressed (token :: rest) =
      dropSuppressed suppressed [token] ++
        dropSuppressed (suppressedAfter suppressed token) rest := by
  cases token with
  | statementEnd => cases suppressed <;> rfl
  | text | noSpaceBefore | noStatementEnd | endLine | indent | dedent => rfl

/-- What is in front decides only whether a semicolon is cancelled behind it. -/
theorem dropSuppressed_append (suppressed : Bool) (front back : List Token) :
    dropSuppressed suppressed (front ++ back) =
      dropSuppressed suppressed front ++
        dropSuppressed (suppressedBehind suppressed front) back := by
  induction front generalizing suppressed with
  | nil => rfl
  | cons token rest ih =>
    rw [List.cons_append, dropSuppressed_cons, ih, dropSuppressed_cons suppressed token rest,
      List.append_assoc]
    rfl

/-! ## The rule -/

/-- A semicolon behind these tokens is cancelled: a `noStatementEnd` is among them, and
behind it nothing but `noSpaceBefore` and `noStatementEnd`. -/
def Cancelled (front : List Token) : Prop :=
  ∃ before between, front = before ++ .noStatementEnd :: between ∧
    ∀ token ∈ between, token = .noSpaceBefore ∨ token = .noStatementEnd

theorem not_cancelled_nil : ¬ Cancelled [] := by
  rintro ⟨before, between, split, -⟩
  simp at split

theorem cancelled_concat_iff {front : List Token} {token : Token} :
    Cancelled (front ++ [token]) ↔
      token = .noStatementEnd ∨ token = .noSpaceBefore ∧ Cancelled front := by
  constructor
  · rintro ⟨before, between, split, skipped⟩
    rcases List.eq_nil_or_concat between with rfl | ⟨others, last, rfl⟩
    · exact .inl (List.singleton_inj.1 (List.append_inj' split rfl).2)
    · rw [List.concat_eq_append] at split skipped
      rw [← List.cons_append, ← List.append_assoc] at split
      obtain ⟨rfl, same⟩ := List.append_inj' split rfl
      obtain rfl : token = last := by simpa using same
      rcases skipped token (by simp) with rfl | rfl
      · exact .inr ⟨rfl, before, others, rfl, fun other member => skipped other (by simp [member])⟩
      · exact .inl rfl
  · rintro (rfl | ⟨rfl, before, between, rfl, skipped⟩)
    · exact ⟨front, [], rfl, by simp⟩
    · refine ⟨before, between ++ [.noSpaceBefore], by simp, ?_⟩
      rw [List.forall_mem_append]
      exact ⟨skipped, by simp⟩

/-- The bit that is kept says whether a semicolon is cancelled. -/
theorem suppressedBehind_iff (front : List Token) :
    suppressedBehind false front = true ↔ Cancelled front := by
  induction front using List.reverseRecOn with
  | nil => simp [not_cancelled_nil]
  | append_singleton front token ih =>
    rw [cancelled_concat_iff, suppressedBehind_append, ← ih]
    cases token with
    | noStatementEnd => simp [suppressedAfter]
    | noSpaceBefore => simp [suppressedAfter]
    | text | statementEnd | endLine | indent | dedent => simp [suppressedAfter]

instance (front : List Token) : Decidable (Cancelled front) :=
  decidable_of_iff _ (suppressedBehind_iff front)

end Recordsmith.Layout
