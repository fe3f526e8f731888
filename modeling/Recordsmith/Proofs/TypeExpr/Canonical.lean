/-
# Recordsmith.Proofs.TypeExpr.Canonical — one text for each type

Writing a type and reading it back gives the type. The types this holds for are
the `WellFormed` ones: their names are identifiers, only lists and maps have the
names of the containers, and no name is applied to nothing. Reading gives only
such types, so every text that can be read has one canonical form.

The text of a type is not read by a descent but cut at brackets and commas; that
the cuts never fall inside an argument is a fact about derivable texts
(`Derives.whole`). Here it is enough to derive the written text
(`derives_render`).
-/
import Recordsmith.Proofs.TypeExpr.Grammar
import Recordsmith.TypeExpr.Printer

namespace Recordsmith.TypeExpr

open Recordsmith.Text

set_option autoImplicit false

/-- The types that have a text. -/
inductive WellFormed : TypeExpr → Prop where
  | scalar {name : String} {nullable : Bool} (valid : isIdentifier name.toList = true)
      (notList : name ≠ Container.list.name) (notMap : name ≠ Container.map.name) :
      WellFormed (.scalar name nullable)
  | list {element : TypeExpr} {nullable : Bool} (inner : WellFormed element) :
      WellFormed (.list element nullable)
  | map {key value : TypeExpr} {nullable : Bool} (first : WellFormed key)
      (second : WellFormed value) : WellFormed (.map key value nullable)
  | generic {name : String} {args : List TypeExpr} {nullable : Bool}
      (valid : isIdentifier name.toList = true) (notList : name ≠ Container.list.name)
      (notMap : name ≠ Container.map.name) (nonempty : args ≠ [])
      (each : ∀ arg ∈ args, WellFormed arg) : WellFormed (.generic name args nullable)

/-! ## Reading gives well-formed types -/

theorem Derives.wellFormed {text : List Char} {tree : TypeExpr}
    (derivation : Derives text tree) : WellFormed tree := by
  induction derivation with
  | bare leadBlank valid gapBlank suffix notList notMap =>
    exact .scalar (by rw [String.toList_ofList]; exact valid) notList notMap
  | applied leadBlank valid spaceBlank nonempty each gapBlank suffix shape ih =>
    rename_i lead name space gap mark nullable args tree
    have formed : ∀ arg ∈ args.map Prod.snd, WellFormed arg := by
      intro arg member
      obtain ⟨pair, pairMember, rfl⟩ := List.mem_map.1 member
      exact ih pair pairMember
    generalize trees : args.map Prod.snd = children at shape formed
    generalize root : String.ofList name = label at shape
    cases shape with
    | list element => exact .list (formed element (by simp))
    | map key value => exact .map (formed key (by simp)) (formed value (by simp))
    | generic children notList notMap =>
      subst root trees
      refine .generic ?_ notList notMap (by simpa using nonempty) formed
      rw [String.toList_ofList]
      exact valid

/-! ## Written texts are derivable -/

theorem renderEach_eq_map (args : List TypeExpr) : renderEach args = args.map render := by
  induction args with
  | nil => rfl
  | cons arg rest ih => rw [renderEach, ih, List.map_cons]

theorem nullSuffix_nullMark (nullable : Bool) : NullSuffix nullable (nullMark nullable).toList := by
  cases nullable with
  | false => exact .absent
  | true => exact .present Blanks.nil

/-- Blanks in front of a type belong to it. -/
theorem Derives.indent {front text : List Char} {tree : TypeExpr} (blank : Blanks front)
    (derivation : Derives text tree) : Derives (front ++ text) tree := by
  cases derivation with
  | bare leadBlank valid gapBlank suffix notList notMap =>
    simpa only [List.append_assoc] using
      Derives.bare (blank.append leadBlank) valid gapBlank suffix notList notMap
  | applied leadBlank valid spaceBlank nonempty each gapBlank suffix shape =>
    simpa only [List.append_assoc] using
      Derives.applied (blank.append leadBlank) valid spaceBlank nonempty each gapBlank suffix shape

/-- The blank behind a comma can be counted to the argument behind it. -/
theorem intercalate_comma_blank (first : List Char) (rest : List (List Char)) :
    [',', ' '].intercalate (first :: rest) =
      [','].intercalate (first :: rest.map (' ' :: ·)) := by
  induction rest generalizing first with
  | nil => rfl
  | cons next rest ih =>
    rw [List.intercalate_cons_cons, List.map_cons, List.intercalate_cons_cons, ih]
    cases rest <;> simp

/-- A name with written arguments in brackets is derivable. -/
theorem derives_applied {name : String} {args : List TypeExpr} {nullable : Bool}
    {tree : TypeExpr} (valid : isIdentifier name.toList = true) (nonempty : args ≠ [])
    (each : ∀ arg ∈ args, Derives arg.render.toList arg)
    (shape : Applies nullable name args tree) :
    Derives
      (name ++ "<" ++ ", ".intercalate (renderEach args) ++ ">" ++ nullMark nullable).toList
      tree := by
  obtain ⟨first, rest, rfl⟩ := List.exists_cons_of_ne_nil nonempty
  obtain ⟨derivedFirst, derivedRest⟩ := List.forall_mem_cons.1 each
  -- Every argument but the first starts with the blank behind the comma.
  let spaced : TypeExpr → List Char × TypeExpr := fun arg => (' ' :: arg.render.toList, arg)
  have derived : ∀ arg ∈ (first.render.toList, first) :: rest.map spaced,
      Derives arg.1 arg.2 := by
    refine List.forall_mem_cons.2 ⟨derivedFirst, fun arg member => ?_⟩
    obtain ⟨source, sourceMember, rfl⟩ := List.mem_map.1 member
    have blank : Blanks [' '] := by decide
    exact (derivedRest source sourceMember).indent blank
  have root : Applies nullable (String.ofList name.toList)
      (((first.render.toList, first) :: rest.map spaced).map Prod.snd) tree := by
    simpa [spaced, Function.comp_def] using shape
  have derivation := Derives.applied Blanks.nil valid Blanks.nil (List.cons_ne_nil _ _) derived
    Blanks.nil (nullSuffix_nullMark nullable) root
  have separator : ", ".toList = [',', ' '] := rfl
  simpa [renderEach_eq_map, String.toList_intercalate, separator, intercalate_comma_blank, spaced,
    Function.comp_def] using derivation

theorem derives_render {type : TypeExpr} (formed : WellFormed type) :
    Derives type.render.toList type := by
  induction formed with
  | scalar valid notList notMap =>
    rename_i name nullable
    have derivation := Derives.bare Blanks.nil valid Blanks.nil (nullSuffix_nullMark nullable)
      (by rw [String.ofList_toList]; exact notList) (by rw [String.ofList_toList]; exact notMap)
    simpa [render] using derivation
  | list inner ih =>
    rename_i element nullable
    have derivation := derives_applied (by decide) (List.cons_ne_nil element [])
      (by simpa using ih) (@Applies.list nullable element)
    simpa [render, renderEach] using derivation
  | map first second ihKey ihValue =>
    rename_i key value nullable
    have derivation := derives_applied (by decide) (List.cons_ne_nil key [value])
      (by simpa using ⟨ihKey, ihValue⟩) (@Applies.map nullable key value)
    simpa [render, renderEach] using derivation
  | generic valid notList notMap nonempty each ih =>
    rename_i name args nullable
    have root : Applies nullable name args (.generic name args nullable) :=
      .generic args notList notMap
    have derivation := derives_applied valid nonempty ih root
    simpa [render] using derivation

/-- Reading undoes writing. -/
theorem parse_render {type : TypeExpr} (formed : WellFormed type) :
    parse type.render = .ok type :=
  parse_eq_ok_iff.2 (derives_render formed)

theorem wellFormed_of_parse {raw : String} {type : TypeExpr} (read : parse raw = .ok type) :
    WellFormed type :=
  (parse_eq_ok_iff.1 read).wellFormed

/-- **Every type has one canonical text.** Reading undoes writing for every well-formed type,
reading gives no others, and a text that was read and written once does not change when it is read
and written again. -/
theorem parse_render_canonical :
    (∀ type : TypeExpr, WellFormed type → parse type.render = .ok type) ∧
      (∀ (raw : String) (type : TypeExpr), parse raw = .ok type →
        WellFormed type ∧ parse type.render = .ok type) ∧
      ∀ raw text : String, (parse raw).map render = .ok text →
        (parse text).map render = .ok text := by
  refine ⟨fun type => parse_render, fun raw type read => ?_, fun raw text written => ?_⟩
  · exact ⟨wellFormed_of_parse read, parse_render (wellFormed_of_parse read)⟩
  · cases read : parse raw with
    | error cause => rw [read] at written; cases written
    | ok type =>
      rw [read] at written
      cases written
      rw [parse_render (wellFormed_of_parse read)]
      rfl

theorem parse_render_canonical_nested :
    parse "Map<String, List<Item?>>?" =
      .ok (.map (.scalar "String" false) (.list (.scalar "Item" true) false) true) := by
  have spelled : "Map<String, List<Item?>>?" =
      (TypeExpr.map (.scalar "String" false) (.list (.scalar "Item" true) false) true).render := by
    decide
  have formed :
      WellFormed (.map (.scalar "String" false) (.list (.scalar "Item" true) false) true) :=
    .map (.scalar (by decide) (by decide) (by decide))
      (.list (.scalar (by decide) (by decide) (by decide)))
  rw [spelled]
  exact parse_render_canonical.1 _ formed

end Recordsmith.TypeExpr
