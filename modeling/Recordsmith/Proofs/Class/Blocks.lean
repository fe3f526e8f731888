/-
# Recordsmith.Proofs.Class.Blocks — a class, member by member

The lines of a class are its headline, the lines of its members one behind the other,
and the closing brace (`lines_ofRecord_eq`). The lines of a member do not depend on
what stands around it: each is laid out as a statement alone, one level deep
(`memberLines`). So to leave out a group of members is to leave out their lines
(`lines_without_group`).
-/
import Recordsmith.Proofs.Class.Layout
import Recordsmith.Proofs.Dart.Frame
import Recordsmith.Proofs.Layout.Composition

namespace Recordsmith

open Recordsmith.Dart
open Recordsmith.Layout
open Recordsmith.TypeExpr (WellFormed)

set_option autoImplicit false

/-- Statements are laid out one behind the other. -/
theorem Layout.format_statements (indent : Indent) {groups : List (List Token)}
    (level : ∀ group ∈ groups, Level group) (opens : ∀ group ∈ groups, Opens group) :
    format indent (Expr.statements groups) =
      groups.flatMap fun group => format indent (group ++ [.statementEnd]) := by
  rw [statements_eq]
  induction groups with
  | nil => rfl
  | cons group rest ih =>
    rw [List.forall_mem_cons] at level opens
    have ended : Level (group ++ [.statementEnd]) := level.1.append (.singleton fun _ => rfl)
    rw [List.flatMap_cons, ← ih level.2 opens.2]
    cases rest with
    | nil => simp [Token.join, format, placed, dropSuppressed, closeUp, splitLines, lineText,
        placeLines]
    | cons next others =>
      have first : Opens next := opens.2 next (by simp)
      have started : StartsWritten
          (Token.join [.endLine] [] ((next :: others).map (· ++ [.statementEnd]))) := by
        apply Opens.startsWritten
        cases others with
        | nil => exact (first.append _).append _
        | cons => exact ((first.append _).append _).append _
      rw [← format_append_endLine indent ended.balanced started]
      simp [Token.join]

namespace Class

/-- The lines of a member, one level deep in its class. -/
def memberLines (indent : Indent) (member : Expr) : List String :=
  (format indent (member.tokens ++ [.statementEnd])).map (deepen indent)

/-- The lines of members that stand together. -/
def block (indent : Indent) (members : List Expr) : List String :=
  members.flatMap (memberLines indent)

theorem format_opening (indent : Indent) (record : Record) :
    format indent (opening record.name) = [headline record.name] := by
  have named : record.name ≠ "" := (OneLine.of_isIdentifier record.name_valid).1
  have filled : headline record.name ≠ "" := by simp [headline]
  have text : lineText true (opening record.name) = headline record.name := by
    simp [opening, lineText, named, headline, ← String.append_assoc]
  have kept : closeUp (dropSuppressed false (opening record.name)) = opening record.name := rfl
  have oneLine : splitLines (opening record.name) = (opening record.name, []) := rfl
  simp only [format, placed, kept, oneLine, text]
  simp [filled, placeLines, writeLine, Indent.ofDepth]

/-- The lines of a class: the headline, the members, the closing brace. -/
theorem lines_ofRecord_eq {record : Record}
    (formed : ∀ field ∈ record.fields, WellFormed field.type) (options : ClassOptions)
    (indent : Indent) :
    Expr.lines indent (ofRecord options record) =
      headline record.name :: block indent (members options record) ++ ["\x7d"] := by
  have nonempty : ∀ text, OneLine text → text ≠ "" := fun _ single => single.1
  have each : ∀ group ∈ Expr.tokensOfEach (members options record), Rendered OneLine group :=
    Expr.rendered_tokensOfEach OneLine.textClass _ (singleLines_ofRecord formed options).2.2
  have inner := Expr.rendered_statements (tokensOfEach_members_ne_nil options record) each
  have levelHead : Layout.Level (opening record.name) :=
    (Expr.rendered_row ["class", record.name, "implements", "JsonBase"] "\x7b"
      (Q := fun _ => True) (by simp) trivial).level
  have closed := ((inner.led nonempty).dropSuppressed false).getLast?_ne_endLine
  rw [Expr.lines, tokens_ofRecord, format_braces indent levelHead inner.level closed,
    format_opening, format_statements indent (fun group member => (each group member).level)
      (fun group member => (each group member).opens nonempty),
    Expr.tokensOfEach_eq_map, List.flatMap_map, List.map_flatMap]
  rfl

/-- The lines of a class, group by group. -/
theorem lines_eq {record : Record} (supported : record.unsupported? = none)
    (formed : ∀ field ∈ record.fields, WellFormed field.type) (options : ClassOptions)
    (indent : Indent) :
    lines options indent record =
      .ok (headline record.name :: block indent (coreMembers record) ++
        (if options.accessors then block indent (accessors record) else []) ++
        (if options.valueSemantics then block indent (valueSemantics record) else []) ++
        ["\x7d"]) := by
  rw [lines, assemble_eq, supported, Option.elim_none]
  simp only [Except.map, lines_ofRecord_eq formed, members, block, List.flatMap_append]
  cases options.accessors <;> cases options.valueSemantics <;> simp

/-- **Options only leave out blocks of lines.** For a record that has a class, the lines
without the accessors are the lines with them, less the block of the lines of `fields`,
`getAttr` and `setAttr`; and the lines without the value semantics are the lines with them,
less the block of the lines of `==`, `hashCode` and `copy`. This is so whether or not the
other group is there. -/
theorem lines_without_group {record : Record} (supported : record.unsupported? = none)
    (formed : ∀ field ∈ record.fields, WellFormed field.type) (options : ClassOptions)
    (indent : Indent) :
    (∃ front back,
      lines { options with accessors := true } indent record =
        .ok (front ++ block indent [fieldNames record, getAttr record, setAttr record] ++ back) ∧
      lines { options with accessors := false } indent record = .ok (front ++ back)) ∧
    ∃ front back,
      lines { options with valueSemantics := true } indent record =
        .ok (front ++ block indent [equality record, hashCode record, copy record] ++ back) ∧
      lines { options with valueSemantics := false } indent record = .ok (front ++ back) := by
  constructor
  · refine ⟨headline record.name :: block indent (coreMembers record),
      (if options.valueSemantics then block indent (valueSemantics record) else []) ++ ["\x7d"],
      ?_, ?_⟩
    · rw [lines_eq supported formed, List.append_assoc]
      rfl
    · rw [lines_eq supported formed, List.append_assoc]
      simp
  · refine ⟨headline record.name :: block indent (coreMembers record) ++
        (if options.accessors then block indent (accessors record) else []), ["\x7d"], ?_, ?_⟩
    · rw [lines_eq supported formed]
      rfl
    · rw [lines_eq supported formed]
      simp

/-- `String name`, `Map<String, List<Card?>>? piles` -/
def deck : Record :=
  ⟨"Deck",
    [⟨"name", .scalar "String" false, by decide⟩,
      ⟨"piles", .map (.scalar "String" false) (.list (.scalar "Card" true) false) true,
        by decide⟩],
    by decide, by decide, by decide⟩

/-- The class of a deck without its value semantics, with and without the accessors. -/
theorem lines_without_group_deck :
    memberLines .tab (setAttr deck) =
      ["\tvoid setAttr(String name, dynamic value) \x7b", "\t\tswitch (name) \x7b",
        "\t\t\tcase \"name\":", "\t\t\t\tthis.name = value;", "\t\t\t\tbreak;",
        "\t\t\tcase \"piles\":", "\t\t\t\tpiles = value;", "\t\t\t\tbreak;",
        "\t\t\tdefault:",
        "\t\t\t\tthrow ArgumentError.value(name, \"name\", \"unknown field\");",
        "\t\t\x7d", "\t\x7d"] ∧
    ∃ front back,
      lines ⟨true, false⟩ .tab deck =
        .ok (front ++ block .tab [fieldNames deck, getAttr deck, setAttr deck] ++ back) ∧
      lines ⟨false, false⟩ .tab deck = .ok (front ++ back) := by
  have named : ∀ name nullable, Text.isIdentifier name.toList = true → name ≠ "List" →
      name ≠ "Map" → WellFormed (.scalar name nullable) :=
    fun _ _ valid notList notMap => .scalar valid notList notMap
  have text := named "String" false (by decide) (by decide) (by decide)
  have card := named "Card" true (by decide) (by decide) (by decide)
  have formed : ∀ field ∈ deck.fields, WellFormed field.type := by
    simpa [deck] using ⟨text, text.map card.list⟩
  exact ⟨by decide +kernel, (lines_without_group (by decide) formed ⟨true, false⟩ .tab).1⟩

end Class

end Recordsmith
