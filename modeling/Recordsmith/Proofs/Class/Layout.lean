/-
# Recordsmith.Proofs.Class.Layout — the lines of a class

All strings in the class of a record with well-formed types are single lines
(`singleLines_ofRecord`): names are identifiers, types are written canonically, and the
rest is fixed. So the class is laid out as it should be (`laid_ofRecord`): no line is
empty or has a line feed, the headline and the closing brace are not indented, and
all between them is.
-/
import Recordsmith.Proofs.Class.Anatomy
import Recordsmith.Proofs.Dart.Rendered
import Recordsmith.Proofs.Generator.Regrouping
import Recordsmith.Proofs.TypeExpr.Written

namespace Recordsmith

open Recordsmith.Dart
open Recordsmith.TypeExpr (WellFormed)

set_option autoImplicit false

/-- A text on one line that is not empty. -/
def OneLine (text : String) : Prop :=
  text ≠ "" ∧ '\n' ∉ text.toList

instance (text : String) : Decidable (OneLine text) :=
  inferInstanceAs (Decidable (_ ∧ _))

namespace OneLine

theorem append {front back : String} (first : OneLine front) (noBreak : '\n' ∉ back.toList) :
    OneLine (front ++ back) := by
  refine ⟨fun empty => first.1 (String.append_eq_empty_iff.1 empty).1, ?_⟩
  rw [String.toList_append, List.mem_append, not_or]
  exact ⟨first.2, noBreak⟩

theorem of_isIdentifier {name : String} (valid : Text.isIdentifier name.toList = true) :
    OneLine name :=
  ⟨fun empty => Text.ne_nil_of_isIdentifier valid (String.toList_eq_nil_iff.2 empty),
    Text.not_mem_of_isIdentifier valid (by decide)⟩

theorem render {type : TypeExpr} (formed : WellFormed type) : OneLine type.render :=
  ⟨TypeExpr.render_ne_empty formed, TypeExpr.newline_not_mem_render formed⟩

theorem quote (value : String) : OneLine (Dart.quote value) := by
  constructor
  · intro empty
    have nothing := congrArg String.toList empty
    simp [Dart.quote, quoteChars] at nothing
  · rw [Dart.quote, String.toList_ofList, quoteChars, List.mem_cons, List.mem_append,
      List.mem_flatMap]
    rintro (same | ⟨c, -, escaped⟩ | same)
    · exact absurd same (by decide)
    · revert escaped
      rw [escapeChar]
      split
      · next special =>
        rcases special with rfl | rfl | rfl <;> decide
      · split
        · decide
        · next ordinary =>
          rw [List.mem_singleton]
          exact fun same => ordinary same.symm
    · exact absurd same (by decide)

theorem typeArguments {types : List String} (each : ∀ type ∈ types, OneLine type) :
    OneLine (Expr.typeArguments types) := by
  have opened : OneLine "<" := by decide
  rw [Expr.typeArguments, String.append_assoc]
  apply opened.append
  rw [String.toList_append, List.mem_append, not_or]
  refine ⟨fun member => ?_, by decide⟩
  rw [String.toList_intercalate] at member
  rcases TypeExpr.mem_intercalate member with between | ⟨piece, among, inside⟩
  · exact absurd between (by decide)
  · obtain ⟨type, listed, rfl⟩ := List.mem_map.1 among
    exact (each type listed).2 inside

theorem textClass : TextClass OneLine where
  symbol := by decide
  quoted := quote
  typeArguments := fun _ => typeArguments
  label := fun label single => (show OneLine "@" by decide).append single.2

theorem vocabulary : Vocabulary OneLine where
  fixed := by decide
  identifier := of_isIdentifier
  factory := fun valid =>
    ⟨(of_isIdentifier valid).append (by decide), (of_isIdentifier valid).append (by decide)⟩
  type := render

end OneLine

namespace Class

/-- The strings stored in a construct are single lines. -/
abbrev SingleLines (expr : Expr) : Prop :=
  Everywhere (Expr.OwnStrings OneLine) expr

variable {record : Record} (formed : ∀ field ∈ record.fields, WellFormed field.type)

include formed

/-- The strings in the class of a record with well-formed types are single lines. -/
theorem singleLines_ofRecord (options : ClassOptions) : SingleLines (ofRecord options record) :=
  (built_ofRecord OneLine.vocabulary
    (fun field member => OneLine.vocabulary.typeTexts (formed field member)) options).imp
      fun _ built => built.spelled

/-! ## Lines -/

/-- The lines of a class: the headline, lines one level deep at least, and the closing brace. -/
structure Laid (indent : Indent) (name : String) (lines : List String) : Prop where
  single : ∀ line ∈ lines, OneLine line
  shape : ∃ body, lines = headline name :: (body ++ ["\x7d"]) ∧
    ∀ line ∈ body, ∃ rest, rest ≠ "" ∧ line = indent.unit ++ rest

omit formed in
theorem writeLine_of_one_le {indent : Indent} {depth : Nat} {text : String} (deep : 1 ≤ depth)
    (filled : text ≠ "") :
    ∃ rest, rest ≠ "" ∧ Layout.writeLine indent depth text = indent.unit ++ rest := by
  obtain ⟨above, rfl⟩ := Nat.exists_eq_add_of_le' deep
  refine ⟨indent.ofDepth above ++ text, ?_, ?_⟩
  · intro empty
    exact filled (String.append_eq_empty_iff.1 empty).2
  · rw [Layout.writeLine, if_neg filled, Indent.ofDepth, List.replicate_succ, String.join_cons,
      String.append_assoc]
    rfl

omit formed in
theorem tokensOfEach_members_ne_nil (options : ClassOptions) (record : Record) :
    Expr.tokensOfEach (members options record) ≠ [] := by
  obtain ⟨first, others, declared⟩ : ∃ first others, members options record = first :: others :=
    List.exists_cons_of_ne_nil (by simp [members, coreMembers])
  rw [declared, Expr.tokensOfEach]
  exact List.cons_ne_nil _ _

/-- What stands in front of the members of a class. -/
def opening (name : String) : List Token :=
  [.text "class", .text name, .text "implements", .text "JsonBase", .text "\x7b"]

omit formed in
theorem tokens_ofRecord (options : ClassOptions) (record : Record) :
    Expr.tokens (ofRecord options record) =
      opening record.name ++ [.indent] ++
        Expr.statements (Expr.tokensOfEach (members options record)) ++
        [.dedent, .text "\x7d", .noStatementEnd] := by
  simp [ofRecord, Expr.implementing, Expr.tokens, Expr.braced, Expr.commaSeparated, Token.join,
    tokensOfEach_members_ne_nil, opening]

/-- A class has no empty line and no line feed in a line; its headline and closing brace
stand at the margin, all else is indented. -/
theorem laid_ofRecord (options : ClassOptions) (indent : Indent) :
    Laid indent record.name (Expr.lines indent (ofRecord options record)) := by
  have strings := singleLines_ofRecord formed options
  have rendered := Expr.rendered_tokens OneLine.textClass _ strings
  have inner := Expr.rendered_statements (tokensOfEach_members_ne_nil options record)
    (Expr.rendered_tokensOfEach OneLine.textClass _ strings.2.2)
  have nonempty : ∀ text, OneLine text → text ≠ "" := fun _ single => single.1
  obtain ⟨first, body, placed, deep⟩ := Layout.placed_braces
    ⟨"class", _, by decide, (rfl : opening record.name = _)⟩ (by simp [opening, Token.startsLine])
    inner.level (inner.led nonempty)
  rw [← tokens_ofRecord] at placed
  have filled : ∀ line ∈ body, line.2 ≠ "" := by
    intro line member
    apply Layout.text_ne_empty_of_led (rendered.led nonempty)
    rw [placed]
    simp [member]
  have written : Expr.lines indent (ofRecord options record) =
      Layout.writeLine indent 0 first ::
        (body.map (fun line => Layout.writeLine indent line.1 line.2) ++ ["\x7d"]) := by
    rw [Expr.lines, Layout.format, placed, List.cons_append, List.map_cons, List.map_append]
    rfl
  constructor
  case single =>
    intro line member
    exact ⟨Layout.line_ne_empty_of_led (rendered.led nonempty) indent line member,
      Layout.newline_not_mem_format (fun _ text => (rendered.texts text).2) indent line member⟩
  case shape =>
    obtain ⟨rest, headed⟩ := lines_ofRecord options indent record
    have same : Layout.writeLine indent 0 first = headline record.name :=
      (List.cons.inj (written.symm.trans headed)).1
    refine ⟨_, by rw [written, same], ?_⟩
    rw [List.forall_mem_map]
    intro line member
    exact writeLine_of_one_le (deep line member) (filled line member)

end Class

end Recordsmith
