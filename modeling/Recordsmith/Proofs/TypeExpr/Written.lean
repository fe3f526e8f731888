/-
# Recordsmith.Proofs.TypeExpr.Written — the characters of a written type

The canonical text of a type starts with the name at its root; the arguments in
brackets and the null mark follow (`toList_render`). Apart from identifiers there
are brackets, commas, spaces and question marks in it, and nothing else
(`mem_render`): in particular no line feed, no quote and no backslash. So a
written type can stand in a line of code and in a string of a document as it is.
-/
import Recordsmith.Proofs.TypeExpr.Canonical

namespace Recordsmith

open Recordsmith.Text

set_option autoImplicit false

namespace TypeExpr

/-- The characters that canonical texts have besides identifiers. -/
def isPunctuation (c : Char) : Bool :=
  c ∈ ['<', '>', ',', ' ', '?']

/-- The written arguments between commas. -/
def argumentList (type : TypeExpr) : List Char :=
  [',', ' '].intercalate (type.args.map fun arg => arg.render.toList)

/-- The written arguments in brackets, if there are any. -/
def brackets (type : TypeExpr) : List Char :=
  if type.args = [] then [] else '<' :: (type.argumentList ++ ['>'])

namespace WellFormed

variable {type : TypeExpr}

theorem isIdentifier_name (formed : WellFormed type) : isIdentifier type.name.toList = true := by
  cases formed with
  | scalar valid notList notMap => exact valid
  | list inner =>
    show isIdentifier Container.list.name.toList = true
    decide
  | map first second =>
    show isIdentifier Container.map.name.toList = true
    decide
  | generic valid notList notMap nonempty each => exact valid

theorem of_mem_args (formed : WellFormed type) : ∀ arg ∈ type.args, WellFormed arg := by
  cases formed with
  | scalar valid notList notMap => simp [args]
  | list inner => simpa [args] using inner
  | map first second => simpa [args] using ⟨first, second⟩
  | generic valid notList notMap nonempty each => exact each

end WellFormed

theorem toList_render {type : TypeExpr} (formed : WellFormed type) :
    type.render.toList = type.name.toList ++ type.brackets ++ (nullMark type.nullable).toList := by
  have separator : ", ".toList = [',', ' '] := rfl
  cases formed with
  | scalar valid notList notMap => simp [render, name, brackets, args, nullable]
  | list inner => simp [render, name, brackets, args, argumentList, nullable]
  | map first second =>
    simp [render, name, brackets, args, argumentList, nullable, List.intercalate_cons_cons,
      separator]
  | generic valid notList notMap nonempty each =>
    simp [render, name, brackets, args, argumentList, nullable, nonempty, renderEach_eq_map,
      String.toList_intercalate, Function.comp_def, separator]

theorem render_ne_empty {type : TypeExpr} (formed : WellFormed type) : type.render ≠ "" := by
  intro empty
  have noChars := toList_render formed
  rw [empty] at noChars
  have nameless := (List.append_eq_nil_iff.1 (List.append_eq_nil_iff.1 noChars.symm).1).1
  exact ne_nil_of_isIdentifier formed.isIdentifier_name nameless

theorem argumentList_ne_nil {type : TypeExpr} (formed : WellFormed type)
    (applied : type.args ≠ []) : type.argumentList ≠ [] := by
  obtain ⟨first, rest, split⟩ := List.exists_cons_of_ne_nil applied
  have written := render_ne_empty (formed.of_mem_args first (by simp [split]))
  rw [argumentList, split, List.map_cons]
  cases rest with
  | nil => simpa using written
  | cons next rest =>
    rw [List.map_cons, List.intercalate_cons_cons]
    simp

/-! ## Characters -/

theorem mem_intercalate {c : Char} {separator : List Char} {pieces : List (List Char)}
    (member : c ∈ separator.intercalate pieces) :
    c ∈ separator ∨ ∃ piece ∈ pieces, c ∈ piece := by
  induction pieces with
  | nil => simp at member
  | cons piece rest ih =>
    cases rest with
    | nil => exact .inr ⟨piece, by simp, by simpa using member⟩
    | cons next rest =>
      rw [List.intercalate_cons_cons, List.mem_append, List.mem_append] at member
      rcases member with (member | member) | member
      · exact .inr ⟨piece, by simp, member⟩
      · exact .inl member
      · rcases ih member with between | ⟨other, among, inside⟩
        · exact .inl between
        · exact .inr ⟨other, List.mem_cons_of_mem _ among, inside⟩

/-- A character of a written type is in the name at the root, in an argument, or
punctuation. -/
theorem mem_render_cases {type : TypeExpr} (formed : WellFormed type) {c : Char}
    (member : c ∈ type.render.toList) :
    c ∈ type.name.toList ∨ (∃ arg ∈ type.args, c ∈ arg.render.toList) ∨ isPunctuation c = true := by
  rw [toList_render formed, List.mem_append, List.mem_append] at member
  rcases member with (inName | inBrackets) | inMark
  · exact .inl inName
  · rw [brackets] at inBrackets
    split at inBrackets
    · cases inBrackets
    · rw [List.mem_cons, List.mem_append, List.mem_singleton] at inBrackets
      rcases inBrackets with rfl | inList | rfl
      · exact .inr (.inr rfl)
      · rcases mem_intercalate inList with between | ⟨piece, among, inside⟩
        · refine .inr (.inr ?_)
          rcases List.mem_cons.1 between with rfl | between
          · rfl
          · rw [List.mem_singleton.1 between]
            rfl
        · obtain ⟨arg, isArg, rfl⟩ := List.mem_map.1 among
          exact .inr (.inl ⟨arg, isArg, inside⟩)
      · exact .inr (.inr rfl)
  · cases marked : type.nullable with
    | false => rw [marked] at inMark; cases inMark
    | true =>
      rw [marked] at inMark
      rw [List.mem_singleton.1 inMark]
      exact .inr (.inr rfl)

/-- A written type consists of identifiers and punctuation. -/
theorem mem_render {type : TypeExpr} (formed : WellFormed type) {c : Char}
    (member : c ∈ type.render.toList) : isIdentifierPart c = true ∨ isPunctuation c = true := by
  have step : ∀ (type : TypeExpr), WellFormed type →
      (∀ arg ∈ type.args, c ∈ arg.render.toList →
        isIdentifierPart c = true ∨ isPunctuation c = true) →
      c ∈ type.render.toList → isIdentifierPart c = true ∨ isPunctuation c = true := by
    intro type formed inArgs member
    rcases mem_render_cases formed member with inName | ⟨arg, isArg, inside⟩ | punctuation
    · exact .inl (isIdentifierPart_of_isIdentifier formed.isIdentifier_name c inName)
    · exact inArgs arg isArg inside
    · exact .inr punctuation
  induction formed with
  | scalar valid notList notMap =>
    exact step _ (.scalar valid notList notMap) (by simp [args]) member
  | list inner ih => exact step _ (.list inner) (by simpa [args] using ih) member
  | map first second ihKey ihValue =>
    exact step _ (.map first second) (by simpa [args] using ⟨ihKey, ihValue⟩) member
  | generic valid notList notMap nonempty each ih =>
    exact step _ (.generic valid notList notMap nonempty each) ih member

theorem newline_not_mem_render {type : TypeExpr} (formed : WellFormed type) :
    '\n' ∉ type.render.toList := by
  intro member
  rcases mem_render formed member with part | punctuation
  · exact absurd part (by decide)
  · exact absurd punctuation (by decide)

end TypeExpr

/-! ## Texts in documents -/

namespace Text

/-- A character that stands for itself in a string of a document. -/
def isOrdinary (c : Char) : Bool :=
  0x20 ≤ c.toNat && c.toNat != 0x7f && c != '"' && c != '\\'

/-- A text between quotes. -/
def quoted (text : String) : List Char :=
  '"' :: (text.toList ++ ['"'])

/-- Texts between commas. -/
def listed (texts : List (List Char)) : List Char :=
  [','].intercalate texts

theorem listed_cons_cons (text next : List Char) (rest : List (List Char)) :
    listed (text :: next :: rest) = text ++ ',' :: listed (next :: rest) := by
  rw [listed, List.intercalate_cons_cons, List.append_assoc]
  rfl

/-- All characters of a text stand for themselves in a string of a document. -/
def Ordinary (text : String) : Prop :=
  ∀ c ∈ text.toList, isOrdinary c = true

instance (text : String) : Decidable (Ordinary text) :=
  decidable_of_iff (text.toList.all isOrdinary = true) List.all_eq_true

theorem isOrdinary_of_isIdentifierPart {c : Char} (inIdentifier : isIdentifierPart c = true) :
    isOrdinary c = true := by
  obtain ⟨low, -⟩ := toNat_of_isIdentifierPart inIdentifier
  have other : ∀ d, isIdentifierPart d = false → c ≠ d := by
    rintro _ outside rfl
    rw [outside] at inIdentifier
    cases inIdentifier
  have notDelete : c.toNat ≠ 0x7f := by
    intro same
    exact other '\x7f' (by decide) (Char.toNat_inj.1 same)
  simp only [isOrdinary, Bool.and_eq_true, decide_eq_true_eq, bne_iff_ne]
  exact ⟨⟨⟨Nat.le_trans (by decide) low, notDelete⟩, other '"' (by decide)⟩,
    other '\\' (by decide)⟩

theorem ordinary_of_isIdentifier {name : String} (valid : isIdentifier name.toList = true) :
    Ordinary name :=
  fun c member => isOrdinary_of_isIdentifierPart (isIdentifierPart_of_isIdentifier valid c member)

theorem ordinary_render {type : TypeExpr} (formed : TypeExpr.WellFormed type) :
    Ordinary type.render := by
  intro c member
  rcases TypeExpr.mem_render formed member with inIdentifier | punctuation
  · exact isOrdinary_of_isIdentifierPart inIdentifier
  · simp only [TypeExpr.isPunctuation, List.mem_cons, List.not_mem_nil, or_false,
      decide_eq_true_eq] at punctuation
    rcases punctuation with rfl | rfl | rfl | rfl | rfl <;> decide

end Text

end Recordsmith
