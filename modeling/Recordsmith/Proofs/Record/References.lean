/-
# Recordsmith.Proofs.Record.References — the records a type refers to

A type has a name at every position: at its root, and at the roots of its arguments, at
any depth. `preorder` lists the positions in reading order. Three computations go over
them, each with a recursion of its own:

* `references` keeps the names of records, each where it is read first;
* `isExtension` stops at the first one;
* `render` writes the names, and nothing else that is an identifier
  (`identifiers_render`).

They are compared position by position, by induction over the arguments
(`induction_on_args`). A supported type has only scalars, lists and maps, so what stands
in its text is a builtin, a container or one of its references. The references of a
record are those of its fields, put together as they come (`Record.references_eq_merge`).
-/
import Recordsmith.Proofs.Generator.References
import Recordsmith.Proofs.Generator.Regrouping
import Recordsmith.Proofs.TypeExpr.Written

namespace Recordsmith

open Recordsmith.Text

set_option autoImplicit false

/-! ## Lists without repetition -/

/-- Lists put together one after the other, without what is there already. -/
def merge (lists : List (List String)) : List String :=
  lists.foldl (fun names more => names ++ more.filter (· ∉ names)) []

theorem distinct_append (front back : List String) :
    distinct (front ++ back) = distinct front ++ (distinct back).filter (· ∉ front) := by
  induction front with
  | nil => simp [distinct]
  | cons first rest ih =>
    rw [List.cons_append, distinct, distinct, ih, List.filter_append, List.filter_filter,
      List.cons_append]
    simp [not_or]

theorem distinct_of_nodup {names : List String} (unrepeated : names.Nodup) :
    distinct names = names := by
  induction names with
  | nil => rfl
  | cons first rest ih =>
    obtain ⟨fresh, unrepeated⟩ := List.nodup_cons.1 unrepeated
    rw [distinct, ih unrepeated, List.filter_eq_self.2]
    intro name member
    exact decide_eq_true fun same => fresh (same ▸ member)

/-- Merging lists without repetitions keeps the first occurrence of every name. -/
theorem merge_eq_distinct {lists : List (List String)} (unrepeated : ∀ names ∈ lists, names.Nodup) :
    merge lists = distinct lists.flatten := by
  -- What has been merged so far has the first occurrences of the lists in front.
  have fromAny : ∀ front, lists.foldl (fun names more => names ++ more.filter (· ∉ names))
      (distinct front) = distinct (front ++ lists.flatten) := by
    induction lists with
    | nil => simp
    | cons more rest ih =>
      intro front
      obtain ⟨first, later⟩ := List.forall_mem_cons.1 unrepeated
      have joined : distinct front ++ more.filter (· ∉ distinct front) =
          distinct (front ++ more) := by
        rw [distinct_append, distinct_of_nodup first]
        simp only [mem_distinct]
      rw [List.foldl_cons, joined, ih later, List.flatten_cons, List.append_assoc]
  exact fromAny []

namespace TypeExpr

/-! ## Positions -/

mutual

/-- The positions of a type, each in front of its arguments. -/
def preorder : TypeExpr → List TypeExpr
  | .scalar name nullable => [.scalar name nullable]
  | .list element nullable => .list element nullable :: preorder element
  | .map key value nullable => .map key value nullable :: (preorder key ++ preorder value)
  | .generic name args nullable => .generic name args nullable :: preorderOfAll args

def preorderOfAll : List TypeExpr → List TypeExpr
  | [] => []
  | arg :: rest => preorder arg ++ preorderOfAll rest

end

/-- The record that is named at the root of a type: a scalar that is no builtin. -/
def recordName? : TypeExpr → Option String
  | .scalar name _ => if (Builtin.ofName? name).isNone then some name else none
  | _ => none

/-- What a type inherits from its arguments holds of every type. -/
theorem induction_on_args {P : TypeExpr → Prop}
    (step : ∀ type : TypeExpr, (∀ arg ∈ type.args, P arg) → P type) : ∀ type, P type
  | .scalar name nullable => step _ (by simp [args])
  | .list element nullable => step _ (by simpa [args] using induction_on_args step element)
  | .map key value nullable =>
    step _ (by simpa [args] using ⟨induction_on_args step key, induction_on_args step value⟩)
  | .generic name args nullable => step _ fun arg (among : arg ∈ args) =>
    have smaller := List.sizeOf_lt_of_mem among
    induction_on_args step arg
termination_by type => sizeOf type

theorem preorder_eq_cons (type : TypeExpr) :
    type.preorder = type :: type.args.flatMap preorder := by
  have all : ∀ args, preorderOfAll args = args.flatMap preorder := by
    intro args
    induction args with
    | nil => rfl
    | cons arg rest ih => rw [preorderOfAll, ih, List.flatMap_cons]
  cases type with
  | scalar name nullable => rfl
  | list element nullable => simp [preorder, args]
  | map key value nullable => simp [preorder, args]
  | generic name args nullable => rw [preorder, all, TypeExpr.args]

theorem recordNames_eq_append (type : TypeExpr) :
    type.recordNames = type.recordName?.toList ++ type.args.flatMap recordNames := by
  cases type with
  | scalar name nullable =>
    rw [recordNames, recordName?, args]
    split <;> rfl
  | list element nullable => simp [recordNames, recordName?, args]
  | map key value nullable => simp [recordNames, recordName?, args]
  | generic name args nullable => exact recordNamesOfAll_eq args

theorem isExtension_eq_or (type : TypeExpr) :
    type.isExtension = (type.recordName?.isSome || type.args.any isExtension) := by
  have all : ∀ args, anyExtension args = args.any isExtension := by
    intro args
    induction args with
    | nil => rfl
    | cons arg rest ih => rw [anyExtension, ih, List.any_cons]
  cases type with
  | scalar name nullable =>
    cases found : Builtin.ofName? name <;> simp [isExtension, recordName?, args, found]
  | list element nullable => simp [isExtension, recordName?, args]
  | map key value nullable => simp [isExtension, recordName?, args]
  | generic name args nullable => exact all args

/-! ## References -/

/-- The names of records are collected in preorder. -/
theorem recordNames_eq_filterMap (type : TypeExpr) :
    type.recordNames = type.preorder.filterMap recordName? := by
  induction type using induction_on_args with
  | step type ih =>
    have inArgs : type.args.flatMap recordNames =
        (type.args.flatMap preorder).filterMap recordName? := by
      rw [List.filterMap_flatMap]
      exact List.flatMap_congr ih
    rw [recordNames_eq_append, preorder_eq_cons, List.filterMap_cons, inArgs]
    cases type.recordName? <;> rfl

theorem isExtension_iff (type : TypeExpr) : type.isExtension = true ↔ type.recordNames ≠ [] := by
  induction type using induction_on_args with
  | step type ih =>
    rw [isExtension_eq_or, recordNames_eq_append, Bool.or_eq_true, List.any_eq_true, ne_eq,
      List.append_eq_nil_iff, List.flatMap_eq_nil_iff, not_and_or, not_forall]
    refine or_congr (by cases type.recordName? <;> simp) (exists_congr fun arg => ?_)
    rw [Classical.not_imp]
    exact and_congr_right (ih arg)

/-! ## Identifiers in the text of a type -/

/-- The longest runs of characters of identifiers in a text. -/
def identifiers (text : List Char) : List (List Char) :=
  (text.splitOnP fun c => !isIdentifierPart c).filter (· ≠ [])

theorem identifiers_append_cons {c : Char} (foreign : isIdentifierPart c = false)
    (front back : List Char) :
    identifiers (front ++ c :: back) = identifiers front ++ identifiers back := by
  rw [identifiers, List.splitOnP_append_cons _ _ (by simp [foreign]), List.filter_append]
  rfl

theorem identifiers_cons {c : Char} (foreign : isIdentifierPart c = false) (text : List Char) :
    identifiers (c :: text) = identifiers text :=
  identifiers_append_cons foreign [] text

theorem identifiers_concat {c : Char} (foreign : isIdentifierPart c = false) (text : List Char) :
    identifiers (text ++ [c]) = identifiers text := by
  rw [identifiers_append_cons foreign]
  exact List.append_nil _

theorem identifiers_of_isIdentifier {name : List Char} (valid : isIdentifier name = true) :
    identifiers name = [name] := by
  have inside : ∀ c ∈ name, (!isIdentifierPart c) = false := fun c member => by
    rw [isIdentifierPart_of_isIdentifier valid c member, Bool.not_true]
  rw [identifiers, List.splitOnP_eq_singleton inside,
    List.filter_cons_of_pos (by simpa using ne_nil_of_isIdentifier valid), List.filter_nil]

theorem identifiers_intercalate (pieces : List (List Char)) :
    identifiers ([',', ' '].intercalate pieces) = pieces.flatMap identifiers := by
  induction pieces with
  | nil => rfl
  | cons piece rest ih =>
    cases rest with
    | nil => simp
    | cons next rest =>
      have comma : isIdentifierPart ',' = false := by decide
      have space : isIdentifierPart ' ' = false := by decide
      rw [List.intercalate_cons_cons, List.flatMap_cons, ← ih, List.append_assoc, List.cons_append,
        identifiers_append_cons comma, List.singleton_append, identifiers_cons space]

/-- The text of a type starts with the identifier at its root, and those of its arguments
follow. -/
theorem identifiers_render_eq_cons {type : TypeExpr} (formed : WellFormed type) :
    identifiers type.render.toList =
      type.name.toList :: type.args.flatMap fun arg => identifiers arg.render.toList := by
  have opening : isIdentifierPart '<' = false := by decide
  have closing : isIdentifierPart '>' = false := by decide
  have question : isIdentifierPart '?' = false := by decide
  have unmarked : identifiers type.render.toList =
      identifiers (type.name.toList ++ type.brackets) := by
    rw [toList_render formed]
    cases type.nullable with
    | false => exact congrArg identifiers (List.append_nil _)
    | true => exact identifiers_concat question _
  have root := identifiers_of_isIdentifier formed.isIdentifier_name
  rw [unmarked, brackets]
  split
  · next none => rw [List.append_nil, root, none, List.flatMap_nil]
  · rw [identifiers_append_cons opening, root, identifiers_concat closing, argumentList,
      identifiers_intercalate, List.flatMap_map]
    rfl

/-- The identifiers in the text of a type are the names at its positions. -/
theorem identifiers_render {type : TypeExpr} (formed : WellFormed type) :
    identifiers type.render.toList = type.preorder.map fun node => node.name.toList := by
  induction type using induction_on_args with
  | step type ih =>
    rw [identifiers_render_eq_cons formed, preorder_eq_cons, List.map_cons, List.map_flatMap]
    refine congrArg _ (List.flatMap_congr fun arg among => ?_)
    exact ih arg among (formed.of_mem_args arg among)

/-! ## Supported types -/

theorem fault?_of_mem_args {type arg : TypeExpr} (supported : type.fault? = none)
    (among : arg ∈ type.args) : arg.fault? = none := by
  cases type with
  | scalar name nullable => cases among
  | list element nullable =>
    obtain rfl := List.mem_singleton.1 among
    exact supported
  | map key value nullable =>
    rw [fault?] at supported
    split at supported
    · next isKey =>
      rcases List.mem_cons.1 among with rfl | among
      · rw [isKey_iff.1 isKey]
        rfl
      · obtain rfl := List.mem_singleton.1 among
        exact supported
    · cases supported
  | generic name args nullable => cases supported

/-- What is supported is supported at every position. -/
theorem fault?_of_mem_preorder {type node : TypeExpr} (supported : type.fault? = none)
    (position : node ∈ type.preorder) : node.fault? = none := by
  induction type using induction_on_args with
  | step type ih =>
    rw [preorder_eq_cons, List.mem_cons, List.mem_flatMap] at position
    rcases position with rfl | ⟨arg, among, inside⟩
    · exact supported
    · exact ih arg among (fault?_of_mem_args supported among) inside

theorem mem_recordNames_of_preorder {type : TypeExpr} {name : String} {nullable : Bool}
    (position : .scalar name nullable ∈ type.preorder)
    (custom : ∀ builtin : Builtin, builtin.name ≠ name) : name ∈ type.recordNames := by
  rw [recordNames_eq_filterMap, List.mem_filterMap]
  exact ⟨_, position, by simp [recordName?, Builtin.ofName?_eq_none_iff.2 custom]⟩

/-- At every position of a supported type stands a builtin, a container or a record. -/
theorem name_of_mem_preorder {type node : TypeExpr} (supported : type.fault? = none)
    (position : node ∈ type.preorder) :
    (∃ builtin : Builtin, builtin.name = node.name) ∨
      (∃ container : Container, container.name = node.name) ∨ node.name ∈ type.recordNames := by
  cases node with
  | scalar name nullable =>
    by_cases known : ∃ builtin : Builtin, builtin.name = name
    · exact .inl known
    · exact .inr (.inr (mem_recordNames_of_preorder position (not_exists.1 known)))
  | list element nullable => exact .inr (.inl ⟨.list, rfl⟩)
  | map key value nullable => exact .inr (.inl ⟨.map, rfl⟩)
  | generic name args nullable => cases fault?_of_mem_preorder supported position

/-- The references are the scalars that are no builtins. -/
theorem mem_references_iff {type : TypeExpr} {name : String} :
    name ∈ type.references ↔
      (∃ nullable, .scalar name nullable ∈ type.preorder) ∧
        ∀ builtin : Builtin, builtin.name ≠ name := by
  rw [references, mem_distinct]
  constructor
  · rw [recordNames_eq_filterMap, List.mem_filterMap]
    rintro ⟨node, position, named⟩
    cases node with
    | scalar other nullable =>
      rw [recordName?] at named
      split at named
      · next custom =>
        cases named
        exact ⟨⟨nullable, position⟩,
          Builtin.ofName?_eq_none_iff.1 (Option.isNone_iff_eq_none.1 custom)⟩
      · cases named
    | list element nullable => cases named
    | map key value nullable => cases named
    | generic other args nullable => cases named
  · rintro ⟨⟨nullable, position⟩, custom⟩
    exact mem_recordNames_of_preorder position custom

theorem references_ne_nil_iff {type : TypeExpr} :
    type.references ≠ [] ↔ type.isExtension = true := by
  rw [isExtension_iff, references, not_iff_not, List.eq_nil_iff_forall_not_mem,
    List.eq_nil_iff_forall_not_mem]
  simp only [mem_distinct]

end TypeExpr

theorem Record.references_eq_merge (record : Record) :
    record.references = merge (record.fields.map fun field => field.type.references) := by
  have unrepeated : ∀ names ∈ record.fields.map fun field => field.type.references,
      names.Nodup := by
    intro names member
    obtain ⟨field, -, rfl⟩ := List.mem_map.1 member
    exact nodup_distinct _
  rw [merge_eq_distinct unrepeated, references, List.flatMap_def]

/-- **References are complete and in order.** The references of a type are the scalars in it that
are no builtins, each once, in the order in which they are first read; there are some exactly if
the type is an extension type; the text of a supported type has no identifiers but builtins,
containers and references; and the references of a record are those of its fields, merged. -/
theorem references_complete :
    (∀ type : TypeExpr,
      type.references.Nodup ∧
      (∀ name, name ∈ type.references ↔
        (∃ nullable, .scalar name nullable ∈ type.preorder) ∧
          ∀ builtin : Builtin, builtin.name ≠ name) ∧
      FirstAppearances (type.preorder.filterMap TypeExpr.recordName?) type.references ∧
      (type.isExtension = true ↔ type.references ≠ []) ∧
      (type.WellFormed → type.Supported →
        ∀ word ∈ TypeExpr.identifiers type.render.toList,
          (∃ builtin : Builtin, builtin.name = String.ofList word) ∨
          (∃ container : Container, container.name = String.ofList word) ∨
          String.ofList word ∈ type.references)) ∧
    ∀ record : Record,
      record.references = merge (record.fields.map fun field => field.type.references) := by
  refine ⟨fun type => ⟨nodup_distinct _, fun name => TypeExpr.mem_references_iff, ?_,
    TypeExpr.references_ne_nil_iff.symm, ?_⟩, Record.references_eq_merge⟩
  · rw [← TypeExpr.recordNames_eq_filterMap]
    exact firstAppearances_distinct _
  · intro formed supported word member
    rw [TypeExpr.identifiers_render formed] at member
    obtain ⟨node, position, rfl⟩ := List.mem_map.1 member
    rw [String.ofList_toList, TypeExpr.references, mem_distinct]
    exact TypeExpr.name_of_mem_preorder (TypeExpr.fault?_eq_none_iff.2 supported) position

/-- A map of lists, written with four identifiers, one of which is a reference. -/
theorem references_complete_lanterns :
    TypeExpr.identifiers "Map<String, List<Lantern?>>".toList =
      ["Map".toList, "String".toList, "List".toList, "Lantern".toList] ∧
    ∀ word ∈ TypeExpr.identifiers "Map<String, List<Lantern?>>".toList,
      (∃ builtin : Builtin, builtin.name = String.ofList word) ∨
      (∃ container : Container, container.name = String.ofList word) ∨
      String.ofList word ∈ ["Lantern"] := by
  have formed : TypeExpr.WellFormed
      (.map (.scalar "String" false) (.list (.scalar "Lantern" true) false) false) :=
    .map (.scalar (by decide) (by decide) (by decide))
      (.list (.scalar (by decide) (by decide) (by decide)))
  have supported : TypeExpr.Supported
      (.map (.scalar "String" false) (.list (.scalar "Lantern" true) false) false) :=
    TypeExpr.fault?_eq_none_iff.1 rfl
  have spelled : "Map<String, List<Lantern?>>" = TypeExpr.render
      (.map (.scalar "String" false) (.list (.scalar "Lantern" true) false) false) := by
    decide
  obtain ⟨-, -, -, -, words⟩ := references_complete.1
    (.map (.scalar "String" false) (.list (.scalar "Lantern" true) false) false)
  rw [spelled]
  exact ⟨TypeExpr.identifiers_render formed, words formed supported⟩

end Recordsmith
