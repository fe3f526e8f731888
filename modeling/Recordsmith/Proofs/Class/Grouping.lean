/-
# Recordsmith.Proofs.Class.Grouping — classes are read as they are built

No parentheses are put around operands when a class is written, and none are missing:
the operands in an assembled class have the rank that their places ask for. If the
types of the fields are well formed, all names and types in the class are words, so the
words of an expression in it can be read in one way only, and that is the expression.
-/
import Recordsmith.Proofs.Class.Anatomy
import Recordsmith.Proofs.Class.Members
import Recordsmith.Proofs.Dart.Reading

namespace Recordsmith

open Recordsmith.Dart
open Recordsmith.Dart.Expr (WellPlaced words)
open Recordsmith.Text (isIdentifierPart)
open Recordsmith.TypeExpr (WellFormed Whole)

set_option autoImplicit false

namespace Dart.Word

theorem of_identifier_append {text : String} {name rest : List Char}
    (valid : Text.isIdentifier name = true) (same : text.toList = name ++ rest)
    (whole : Whole text.toList) : Word text := by
  obtain ⟨c, others, rfl⟩ := List.exists_cons_of_ne_nil (Text.ne_nil_of_isIdentifier valid)
  refine ⟨?_, whole⟩
  rw [same, List.cons_append, List.head?_cons, Option.any_some]
  exact Text.isIdentifierPart_of_isIdentifier valid c List.mem_cons_self

theorem of_isIdentifier {name : String} (valid : Text.isIdentifier name.toList = true) :
    Word name :=
  of_identifier_append valid (List.append_nil _).symm (.of_isIdentifier valid)

theorem render {type : TypeExpr} (formed : WellFormed type) : Word type.render := by
  have spelled := TypeExpr.toList_render formed
  rw [List.append_assoc] at spelled
  exact of_identifier_append formed.isIdentifier_name spelled (TypeExpr.derives_render formed).whole

theorem factory {name member : String} (valid : Text.isIdentifier name.toList = true)
    (plain : Whole member.toList) : Word (name ++ member) := by
  apply of_identifier_append valid (String.toList_append ..)
  rw [String.toList_append]
  exact (Whole.of_isIdentifier valid).append plain

theorem fixed : ∀ text ∈ fixedTexts, Word text := by
  have heads : ∀ text ∈ fixedTexts, text.toList.head?.any isIdentifierPart = true := by decide
  have cases : ∀ text ∈ fixedTexts,
      text = (TypeExpr.list (.scalar "String" false) false).render ∨
      text = (TypeExpr.map (.scalar "String" false) (.scalar "dynamic" false) false).render ∨
      '<' ∉ text.toList ∧ '>' ∉ text.toList ∧ ',' ∉ text.toList := by
    decide
  have string : WellFormed (.scalar "String" false) := .scalar (by decide) (by decide) (by decide)
  have dynamic : WellFormed (.scalar "dynamic" false) :=
    .scalar (by decide) (by decide) (by decide)
  intro text member
  rcases cases text member with rfl | rfl | plain
  · exact render (.list string)
  · exact render (.map string dynamic)
  · exact ⟨heads text member, .of_not_mem plain.1 plain.2.1 plain.2.2⟩

theorem vocabulary : Vocabulary Word where
  fixed := fixed
  identifier := of_isIdentifier
  factory := fun valid =>
    ⟨factory valid (.of_not_mem (by decide) (by decide) (by decide)),
      factory valid (.of_not_mem (by decide) (by decide) (by decide))⟩
  type := render

end Dart.Word

namespace Class

theorem grammatical_ofRecord {record : Record}
    (formed : ∀ field ∈ record.fields, WellFormed field.type) (options : ClassOptions) :
    Everywhere Grammatical (ofRecord options record) :=
  (built_ofRecord Word.vocabulary
    (fun field member => Word.vocabulary.typeTexts (formed field member)) options).imp
      fun _ built => ⟨built.placed, built.composed, built.spelled⟩

/-- The operands in the class of a record with supported types have the rank that their
places ask for. If the types are well formed, what is written of an expression in the
class is read as this expression and no other. -/
theorem assembled_readAs_iff (options : ClassOptions) {record : Record}
    (supported : record.unsupported? = none) :
    ∃ decl, assemble options record = .ok decl ∧ Everywhere WellPlaced decl ∧
      ((∀ field ∈ record.fields, WellFormed field.type) →
        ∀ expr, Within expr decl → expr.isExpression = true →
          ∀ tree, ReadAs (words expr) tree ↔ tree = expr) := by
  refine ⟨ofRecord options record, ?_, wellPlaced_ofRecord options record, ?_⟩
  · rw [assemble_eq, supported, Option.elim_none]
  · intro formed expr within isExpression tree
    have own : ReadAs (words expr) expr :=
      ⟨isExpression, (grammatical_ofRecord formed options).of_within within, rfl⟩
    constructor
    · exact own.unique
    · rintro rfl
      exact own

/-- `Map<String, List<DateTime>?>? sightings` -/
def sightings : Field :=
  ⟨"sightings", .map (.scalar "String" false) (.list (.scalar "DateTime" false) true) true,
    by decide⟩

/-- `Map<String, List<DateTime>?>? sightings`, `List<Sundial> shadows` -/
def sundial : Record :=
  ⟨"Sundial", [sightings, ⟨"shadows", .list (.scalar "Sundial" false) false, by decide⟩],
    by decide, by decide, by decide⟩

theorem assembled_readAs_iff_sundial :
    sundial.unsupported? = none ∧ (∀ field ∈ sundial.fields, WellFormed field.type) ∧
    ∃ decl, assemble {} sundial = .ok decl ∧ Everywhere WellPlaced decl ∧
      Within (Member.fromMapExpr sightings) decl ∧
      (Member.fromMapExpr sightings).isExpression = true ∧
      ∀ tree, ReadAs (words (Member.fromMapExpr sightings)) tree ↔
        tree = Member.fromMapExpr sightings := by
  have supported : sundial.unsupported? = none := rfl
  have formed : ∀ field ∈ sundial.fields, WellFormed field.type := by
    have scalar : ∀ name ∈ ["String", "DateTime", "Sundial"], WellFormed (.scalar name false) := by
      simp only [List.forall_mem_cons]
      refine ⟨?_, ?_, ?_, by simp⟩ <;> exact .scalar (by decide) (by decide) (by decide)
    simp only [sundial, sightings, List.forall_mem_cons]
    exact ⟨.map (scalar _ (by decide)) (.list (scalar _ (by decide))),
      .list (scalar _ (by decide)), by simp⟩
  obtain ⟨decl, assembles, placed, unique⟩ := assembled_readAs_iff {} supported
  have within : Within (Member.fromMapExpr sightings) decl := by
    obtain ⟨-, rfl⟩ := ofRecord_of_assemble assembles
    have inCall : Member.fromMapExpr sightings ∈ parts
        ((Expr.ident sundial.name).invoke (sundial.fields.map Member.fromMapExpr)) := by
      simp [Expr.invoke, sundial]
    have inFactory : (Expr.ident sundial.name).invoke (sundial.fields.map Member.fromMapExpr) ∈
        parts (fromMap sundial) := by
      simp [fromMap, fromMapWith]
    have inClass : fromMap sundial ∈ parts (ofRecord {} sundial) := by
      simp [ofRecord, members, coreMembers]
    exact .part inClass (.part inFactory (.part inCall (.self _)))
  have isExpression : (Member.fromMapExpr sightings).isExpression = true := rfl
  exact ⟨supported, formed, decl, assembles, placed, within, isExpression,
    unique formed _ within isExpression⟩

end Class

end Recordsmith
