/-
# Recordsmith.Proofs.Record.Field — two ways to write a field

A field is written in one text, type and name with a gap between them, or as a
name and a type apart. What each way accepts is told by the grammar of types:

* `ofParts_eq_ok_iff`: the type is a type text, and the name is an identifier;
* `exists_of_ofDeclaration`: the text is a type text and a name, with blanks
  around and between them.

For a written type the two ways are interchangeable, but for one difference. The
word that a declaration starts with has no dollar signs, and identifiers may have
them: a declaration whose type has one in the name at its root is refused
(`ofDeclaration_render`). Inside the brackets dollar signs do no harm.
-/
import Recordsmith.Proofs.Record.Declaration
import Recordsmith.Proofs.TypeExpr.Written
import Recordsmith.Record.Basic

namespace Recordsmith

open Recordsmith.Text
open Recordsmith.TypeExpr (WellFormed Derives)

set_option autoImplicit false

namespace Declaration

/-- Of the characters of identifiers only the dollar sign is no word character. -/
theorem isWordChar_iff_of_isIdentifierPart {c : Char} (part : isIdentifierPart c = true) :
    isWordChar c = true ↔ c ≠ '$' := by
  rw [isWordChar, if_pos (toNat_of_isIdentifierPart part).2]
  constructor
  · rintro wordChar rfl
    exact absurd wordChar (by decide)
  · intro other
    simp only [isIdentifierPart, isIdentifierStart, Bool.or_eq_true, beq_iff_eq, other,
      or_false] at part
    rcases part with (letter | rfl) | digit
    · simp [Char.isAlphanum, letter]
    · rfl
    · simp [Char.isAlphanum, digit]

theorem run_of_isIdentifier {name : List Char} (valid : isIdentifier name = true) : Run name :=
  ⟨ne_nil_of_isIdentifier valid, fun c member =>
    isBlank_of_isIdentifierPart (isIdentifierPart_of_isIdentifier valid c member)⟩

/-- A written type has the form of one, if the name at its root has no dollar sign. -/
theorem typeText_render {type : TypeExpr} (formed : WellFormed type)
    (plain : '$' ∉ type.name.toList) : TypeText type.render.toList := by
  have valid := formed.isIdentifier_name
  have isWord : ∀ c ∈ type.name.toList, isWordChar c = true := by
    intro c member
    rw [isWordChar_iff_of_isIdentifierPart (isIdentifierPart_of_isIdentifier valid c member)]
    rintro rfl
    exact plain member
  have shape : Brackets type.brackets := by
    rw [TypeExpr.brackets]
    split
    · exact .absent
    · next applied =>
      refine .around (TypeExpr.argumentList_ne_nil formed applied) ?_
      intro newline
      apply TypeExpr.newline_not_mem_render formed
      simp [TypeExpr.toList_render formed, TypeExpr.brackets, applied, newline]
  have suffix : Mark (TypeExpr.nullMark type.nullable).toList := by
    cases type.nullable with
    | false => exact .absent
    | true => exact .present Blanks.nil
  rw [TypeExpr.toList_render formed]
  exact .of (ne_nil_of_isIdentifier valid) isWord shape suffix

/-- Behind a word there is no cut at a dollar sign. -/
theorem cut?_dollar (word rest : List Char) : cut? word ('$' :: rest) = none := by
  have notBlank : isBlank '$' = false := by decide
  have start : trimStart ('$' :: rest) = '$' :: rest := by simp [trimStart, notBlank]
  simp [cut?, finish?, start, nameBehind?, notBlank]

/-- A text that starts with an identifier with a dollar sign is no declaration. -/
theorem split?_eq_none_of_dollar {name : List Char} (rest : List Char)
    (valid : isIdentifier name = true) (dollar : '$' ∈ name) : split? (name ++ rest) = none := by
  obtain ⟨word, more, rfl, plain⟩ := List.eq_append_cons_of_mem dollar
  have isPart := isIdentifierPart_of_isIdentifier valid
  have isWord : ∀ c ∈ word, isWordChar c = true := by
    intro c member
    rw [isWordChar_iff_of_isIdentifierPart (isPart c (List.mem_append_left _ member))]
    rintro rfl
    exact plain member
  have solid : ∀ c ∈ (word ++ '$' :: more ++ rest).head?, isBlank c = false := by
    intro c first
    rw [List.head?_append_of_ne_nil _ (by simp)] at first
    exact isBlank_of_isIdentifierPart (isPart c (List.mem_of_head? first))
  have stop : ∀ c ∈ ('$' :: more ++ rest).head?, isWordChar c = false := by
    rintro c ⟨⟩
    decide
  obtain ⟨taken, dropped⟩ := span_append isWord stop
  rw [split?_eq, trimStart_of_head solid, List.append_assoc, taken, dropped, List.cons_append,
    cut?_dollar, ite_self]

end Declaration

namespace Field

theorem ofParts_eq_ok_iff {record name type : String} {field : Field} :
    ofParts record name type = .ok field ↔
      field.name = name ∧ TypeExpr.parse type = .ok field.type := by
  rw [ofParts]
  split
  · next valid =>
    cases read : TypeExpr.parse type with
    | error cause => simp
    | ok tree =>
      constructor
      · intro same
        cases same
        exact ⟨rfl, rfl⟩
      · rintro ⟨rfl, same⟩
        cases same
        rfl
  · next invalid =>
    constructor
    · intro impossible
      cases impossible
    · rintro ⟨rfl, -⟩
      exact absurd field.name_valid invalid

/-- A text that declares a field consists of a type text and its name. -/
theorem exists_of_ofDeclaration {record text : String} {index : Nat} {field : Field}
    (declared : ofDeclaration record index text = .ok field) :
    ∃ lead type gap trail, Blanks lead ∧ Declaration.Gap gap ∧ Blanks trail ∧
      Derives type field.type ∧
        text.toList = lead ++ type ++ gap ++ field.name.toList ++ trail := by
  rw [ofDeclaration] at declared
  split at declared
  · cases declared
  · next type name found =>
    obtain ⟨named, read⟩ := ofParts_eq_ok_iff.1 declared
    obtain ⟨-, -, lead, gap, trail, leadBlank, isGap, trailBlank, same⟩ :=
      Declaration.split?_eq_some_iff.1 found
    have derived := TypeExpr.parse_eq_ok_iff.1 read
    rw [String.toList_ofList] at derived
    refine ⟨lead, type, gap, trail, leadBlank, isGap, trailBlank, derived, ?_⟩
    rw [named, String.toList_ofList]
    exact same

theorem ofParts_render (record : String) {type : TypeExpr} {name : String}
    (formed : WellFormed type) (valid : isIdentifier name.toList = true) :
    ofParts record name type.render = .ok ⟨name, type, valid⟩ :=
  ofParts_eq_ok_iff.2 ⟨rfl, TypeExpr.parse_render formed⟩

/-- **The two ways to write a field agree on written types, dollar signs apart.** A written
type and an identifier, with a space between them, declare the field that they make apart,
unless the name at the root of the type has a dollar sign: then the declaration is refused as
one that cannot be cut. -/
theorem ofDeclaration_render (record : String) (index : Nat) {type : TypeExpr} {name : String}
    (formed : WellFormed type) (valid : isIdentifier name.toList = true) :
    ofParts record name type.render = .ok ⟨name, type, valid⟩ ∧
      ofDeclaration record index (type.render ++ " " ++ name) =
        if '$' ∈ type.name.toList then
          .error (.invalidField record index (type.render ++ " " ++ name))
        else ofParts record name type.render := by
  refine ⟨ofParts_render record formed valid, ?_⟩
  have text : (type.render ++ " " ++ name).toList =
      [] ++ type.render.toList ++ [' '] ++ name.toList ++ [] := by
    simp
  split
  · next dollar =>
    have written := TypeExpr.toList_render formed
    have uncut : Declaration.split? (type.render ++ " " ++ name).toList = none := by
      rw [text, written, List.nil_append, List.append_nil]
      simp only [List.append_assoc]
      exact Declaration.split?_eq_none_of_dollar _ formed.isIdentifier_name dollar
    rw [ofDeclaration, uncut]
  · next plain =>
    have gap : Declaration.Gap [' '] := ⟨by simp, by decide⟩
    have cut : Declaration.split? (type.render ++ " " ++ name).toList =
        some (type.render.toList, name.toList) :=
      Declaration.split?_eq_some_iff.2 ⟨Declaration.typeText_render formed plain,
        Declaration.run_of_isIdentifier valid, [], [' '], [], Blanks.nil, gap, Blanks.nil, text⟩
    rw [ofDeclaration, cut]
    simp only [String.ofList_toList]

/-- A nullable map whose values are lists of `My$Item`: dollar signs inside brackets. -/
theorem ofDeclaration_render_nested :
    ∃ field, Field.ofParts "Page" "items$" "Map<String, List<My$Item>>?" = .ok field ∧
      Field.ofDeclaration "Page" 3 "Map<String, List<My$Item>>? items$" = .ok field ∧
      field.name = "items$" ∧
      field.type =
        .map (.scalar "String" false) (.list (.scalar "My$Item" false) false) true := by
  have formed : WellFormed
      (.map (.scalar "String" false) (.list (.scalar "My$Item" false) false) true) :=
    .map (.scalar (by decide) (by decide) (by decide))
      (.list (.scalar (by decide) (by decide) (by decide)))
  have valid : isIdentifier "items$".toList = true := by decide
  obtain ⟨apart, together⟩ := ofDeclaration_render "Page" 3 formed valid
  rw [if_neg (by decide), apart] at together
  exact ⟨_, apart, together, rfl, rfl⟩

/-- A type that can be written apart, and not in a declaration. -/
theorem ofDeclaration_dollar_refused :
    WellFormed (.scalar "My$Item" false) ∧ isIdentifier "item".toList = true ∧
      (TypeExpr.scalar "My$Item" false).render ++ " " ++ "item" = "My$Item item" ∧
      (∃ field, ofParts "Page" "item" (TypeExpr.scalar "My$Item" false).render = .ok field) ∧
      ofDeclaration "Page" 0 "My$Item item" = .error (.invalidField "Page" 0 "My$Item item") := by
  have formed : WellFormed (.scalar "My$Item" false) := .scalar (by decide) (by decide) (by decide)
  have uncut : Declaration.split? "My$Item item".toList = none := by decide
  refine ⟨formed, by decide, by decide, ⟨_, ofParts_render "Page" formed (by decide)⟩, ?_⟩
  rw [ofDeclaration, uncut]

end Field

end Recordsmith
