/-
# Recordsmith.Proofs.Class.Acceptance — which records have a class

Whether there is code for a field is decided by its type. The *spine* of a type
is the type itself, followed through the elements of lists and the values of
maps. A type is *supported* if nothing on its spine is refused: scalars and lists
never are, maps are if their key is anything but the plain `String`, and other
containers always are. A type that is not supported has one *outermost fault*,
that of the first refused type on its spine.

* `TypeExpr.fault?_eq_none_iff` and `TypeExpr.fault?_eq_some_iff` say that the
  search for a fault follows the spine;
* `Record.unsupported?_eq_some_iff` does the same for the fields of a record;
* `accepted_iff_supported` puts them together: the five expressions of a field
  and the class of a record, with any options, are refused by the same rule and
  for the same reason.
-/
import Recordsmith.Proofs.Class.Synthesis

namespace Recordsmith

open Recordsmith.Dart

set_option autoImplicit false

namespace TypeExpr

/-- The types met from the root on, through the elements of lists and the values of maps. -/
def spine : TypeExpr → List TypeExpr
  | .scalar name nullable => [.scalar name nullable]
  | .list element nullable => .list element nullable :: spine element
  | .map key value nullable => .map key value nullable :: spine value
  | .generic name args nullable => [.generic name args nullable]

/-- A type that is refused for what it is itself, and the fault it is refused for. -/
inductive Refused : TypeExpr → TypeFault → Prop
  | key {key value : TypeExpr} {nullable : Bool} (other : key ≠ .scalar "String" false) :
      Refused (.map key value nullable) (.nonStringKey key.render)
  | container {name : String} {args : List TypeExpr} {nullable : Bool} :
      Refused (.generic name args nullable) (.unknownContainer name)

/-- Nothing on the spine is refused. -/
def Supported (type : TypeExpr) : Prop :=
  ∀ node ∈ type.spine, ∀ fault, ¬ Refused node fault

/-- The fault of the first type on the spine that is refused. -/
def OutermostFault (type : TypeExpr) (fault : TypeFault) : Prop :=
  ∃ outer node inner, type.spine = outer ++ node :: inner ∧
    (∀ earlier ∈ outer, ∀ other, ¬ Refused earlier other) ∧ Refused node fault

/-! ## The search for a fault -/

theorem isKey_iff {key : TypeExpr} : key.isKey = true ↔ key = .scalar "String" false := by
  constructor
  · intro plainString
    cases key with
    | scalar name nullable =>
      simp only [isKey, builtin?, Bool.and_eq_true, Bool.not_eq_true'] at plainString
      obtain ⟨found, notNull⟩ := plainString
      have spelled : Builtin.string.name = name := by
        simpa using List.find?_some (of_decide_eq_true found)
      rw [← spelled, show nullable = false from notNull]
      rfl
    | list element nullable => simp [isKey, builtin?] at plainString
    | map key value nullable => simp [isKey, builtin?] at plainString
    | generic name args nullable => simp [isKey, builtin?] at plainString
  · rintro rfl
    rfl

/-- The fault of a type by itself. -/
def ownFault? : TypeExpr → Option TypeFault
  | .map key _ _ => if key.isKey then none else some (.nonStringKey key.render)
  | .generic name _ _ => some (.unknownContainer name)
  | _ => none

theorem ownFault?_eq_some_iff {node : TypeExpr} {fault : TypeFault} :
    node.ownFault? = some fault ↔ Refused node fault := by
  constructor
  · intro faulty
    cases node with
    | scalar name nullable => cases faulty
    | list element nullable => cases faulty
    | map key value nullable =>
      rw [ownFault?] at faulty
      split at faulty
      · cases faulty
      · next notKey =>
        cases faulty
        exact .key (fun same => notKey (isKey_iff.2 same))
    | generic name args nullable =>
      cases faulty
      exact .container
  · intro refused
    cases refused with
    | key other => rw [ownFault?, if_neg (fun isKey => other (isKey_iff.1 isKey))]
    | container => rfl

theorem ownFault?_eq_none_iff {node : TypeExpr} :
    node.ownFault? = none ↔ ∀ fault, ¬ Refused node fault := by
  simp only [← ownFault?_eq_some_iff, Option.eq_none_iff_forall_ne_some, ne_eq]

theorem fault?_eq_findSome? (type : TypeExpr) :
    type.fault? = type.spine.findSome? ownFault? := by
  fun_induction fault? type with
  | case1 name nullable => rfl
  | case2 element nullable ih => rw [ih, spine, List.findSome?_cons_of_isNone rfl]
  | case3 key value nullable isKey ih =>
    rw [ih, spine, List.findSome?_cons_of_isNone (by simp [ownFault?, isKey])]
  | case4 key value nullable notKey => simp [spine, ownFault?, notKey]
  | case5 name args nullable => rfl

theorem fault?_eq_none_iff {type : TypeExpr} : type.fault? = none ↔ type.Supported := by
  simp only [fault?_eq_findSome?, List.findSome?_eq_none_iff, ownFault?_eq_none_iff, Supported]

theorem fault?_eq_some_iff {type : TypeExpr} {fault : TypeFault} :
    type.fault? = some fault ↔ type.OutermostFault fault := by
  rw [fault?_eq_findSome?, List.findSome?_eq_some_iff]
  simp only [ownFault?_eq_some_iff, ownFault?_eq_none_iff, OutermostFault]
  constructor
  · rintro ⟨outer, node, inner, path, refused, accepted⟩
    exact ⟨outer, node, inner, path, accepted, refused⟩
  · rintro ⟨outer, node, inner, path, accepted, refused⟩
    exact ⟨outer, node, inner, path, refused, accepted⟩

end TypeExpr

/-! ## Fields and records -/

theorem Field.unsupported?_eq_none_iff {record : Record} {field : Field} :
    field.unsupported? record = none ↔ field.type.Supported := by
  rw [Field.unsupported?, Option.map_eq_none_iff, TypeExpr.fault?_eq_none_iff]

theorem Field.unsupported?_eq_some_iff {record : Record} {field : Field}
    {unsupported : Unsupported} :
    field.unsupported? record = some unsupported ↔
      ∃ fault, field.type.OutermostFault fault ∧
        unsupported = ⟨fault, record.name, field.name⟩ := by
  rw [Field.unsupported?, Option.map_eq_some_iff]
  simp only [TypeExpr.fault?_eq_some_iff, @eq_comm _ unsupported]

theorem Record.unsupported?_eq_none_iff {record : Record} :
    record.unsupported? = none ↔ ∀ field ∈ record.fields, field.type.Supported := by
  simp only [Record.unsupported?, List.findSome?_eq_none_iff, Field.unsupported?_eq_none_iff]

/-- What is reported of a record is the outermost fault of its first unsupported field. -/
theorem Record.unsupported?_eq_some_iff {record : Record} {unsupported : Unsupported} :
    record.unsupported? = some unsupported ↔
      ∃ before field after fault, record.fields = before ++ field :: after ∧
        (∀ earlier ∈ before, earlier.type.Supported) ∧ field.type.OutermostFault fault ∧
        unsupported = ⟨fault, record.name, field.name⟩ := by
  rw [Record.unsupported?, List.findSome?_eq_some_iff]
  simp only [Field.unsupported?_eq_some_iff, Field.unsupported?_eq_none_iff]
  constructor
  · rintro ⟨before, field, after, order, ⟨fault, outermost, rfl⟩, accepted⟩
    exact ⟨before, field, after, fault, order, accepted, outermost, rfl⟩
  · rintro ⟨before, field, after, fault, order, accepted, outermost, rfl⟩
    exact ⟨before, field, after, order, ⟨fault, outermost, rfl⟩, accepted⟩

namespace Member

/-- The five expressions of a field. -/
def outcomes (record : Record) (field : Field) : List (Except Unsupported Expr) :=
  [fromMap record field, toMap record field, equality record field, hash record field,
    copy record field]

/-- What is written for a field of a supported type is not refused. -/
theorem refusal_of_supported (record : Record) {field : Field} (supported : field.type.Supported)
    {α : Type} (written : α) :
    (field.unsupported? record).elim (.ok written) .error =
      (.ok written : Except Unsupported α) := by
  rw [Field.unsupported?_eq_none_iff.2 supported, Option.elim_none]

theorem outcomes_of_supported {record : Record} {field : Field}
    (supported : field.unsupported? record = none) :
    outcomes record field =
      [.ok (fromMapExpr field), .ok (toMapExpr field), .ok (equalityExpr field),
        .ok (hashExpr field), .ok (copyExpr field)] := by
  simp [outcomes, fromMap_eq, toMap_eq, equality_eq, hash_eq, copy_eq, supported]

theorem outcomes_of_unsupported {record : Record} {field : Field} {unsupported : Unsupported}
    (refused : field.unsupported? record = some unsupported) :
    ∀ outcome ∈ outcomes record field, outcome = .error unsupported := by
  simp [outcomes, fromMap_eq, toMap_eq, equality_eq, hash_eq, copy_eq, refused]

end Member

namespace Class

theorem assemble_eq_ok_iff {options : ClassOptions} {record : Record} :
    (∃ decl, assemble options record = .ok decl) ↔
      ∀ field ∈ record.fields, field.type.Supported := by
  rw [← Record.unsupported?_eq_none_iff, assemble_eq]
  cases record.unsupported? with
  | none => simp
  | some unsupported => simp

/-- **One criterion for all generated code.** The five expressions of a field are there if
its type is supported; otherwise all five fail alike, with the outermost fault of the
type and the names of record and field. A class is assembled, with any options, if all
fields are supported; otherwise the first that is not is reported, for all options. -/
theorem accepted_iff_supported (record : Record) :
    (∀ field : Field,
      (field.type.Supported →
        Member.outcomes record field =
          [.ok (Member.fromMapExpr field), .ok (Member.toMapExpr field),
            .ok (Member.equalityExpr field), .ok (Member.hashExpr field),
            .ok (Member.copyExpr field)]) ∧
      (¬ field.type.Supported →
        ∃ fault, field.type.OutermostFault fault ∧
          ∀ outcome ∈ Member.outcomes record field,
            outcome = .error ⟨fault, record.name, field.name⟩)) ∧
    (∀ options, (∃ decl, assemble options record = .ok decl) ↔
      ∀ field ∈ record.fields, field.type.Supported) ∧
    ((∃ field ∈ record.fields, ¬ field.type.Supported) →
      ∃ before field after fault, record.fields = before ++ field :: after ∧
        (∀ earlier ∈ before, earlier.type.Supported) ∧ field.type.OutermostFault fault ∧
        ∀ options, assemble options record = .error ⟨fault, record.name, field.name⟩) := by
  refine ⟨fun field => ⟨?_, ?_⟩, fun options => assemble_eq_ok_iff, ?_⟩
  · intro supported
    exact Member.outcomes_of_supported (Field.unsupported?_eq_none_iff.2 supported)
  · intro unsupported
    rw [← @Field.unsupported?_eq_none_iff record, ← ne_eq,
      Option.ne_none_iff_exists'] at unsupported
    obtain ⟨_, refused⟩ := unsupported
    obtain ⟨fault, outermost, rfl⟩ := Field.unsupported?_eq_some_iff.1 refused
    exact ⟨fault, outermost, Member.outcomes_of_unsupported refused⟩
  · rintro ⟨field, member, unsupported⟩
    have refused : record.unsupported? ≠ none := by
      rw [ne_eq, Record.unsupported?_eq_none_iff]
      exact fun all => unsupported (all field member)
    obtain ⟨_, found⟩ := Option.ne_none_iff_exists'.1 refused
    obtain ⟨before, field, after, fault, order, accepted, outermost, rfl⟩ :=
      Record.unsupported?_eq_some_iff.1 found
    refine ⟨before, field, after, fault, order, accepted, outermost, fun options => ?_⟩
    rw [assemble_eq, found]
    rfl

/-- `List<Map<String, Item?>> items` -/
def shelfItems : Field :=
  ⟨"items", .list (.map (.scalar "String" false) (.scalar "Item" true) false) false, by decide⟩

/-- `Map<String, List<Map<int, Set<int>>>> rooms` -/
def shelfRooms : Field :=
  ⟨"rooms", .map (.scalar "String" false) (.list (.map (.scalar "int" false)
    (.generic "Set" [.scalar "int" false] false) false) false) false, by decide⟩

/-- `Set<int> codes` -/
def shelfCodes : Field :=
  ⟨"codes", .generic "Set" [.scalar "int" false] false, by decide⟩

def shelf : Record :=
  ⟨"Shelf", [shelfItems, shelfRooms, shelfCodes], by decide, by decide, by decide⟩

/-- Of the two faults of `rooms` the key is further outside, and `rooms` comes before `codes`. -/
theorem accepted_iff_supported_shelf :
    Member.outcomes shelf shelfItems =
      [.ok (Member.fromMapExpr shelfItems), .ok (Member.toMapExpr shelfItems),
        .ok (Member.equalityExpr shelfItems), .ok (Member.hashExpr shelfItems),
        .ok (Member.copyExpr shelfItems)] ∧
    (∀ outcome ∈ Member.outcomes shelf shelfRooms,
      outcome = .error ⟨.nonStringKey "int", "Shelf", "rooms"⟩) ∧
    ∀ options, assemble options shelf = .error ⟨.nonStringKey "int", "Shelf", "rooms"⟩ := by
  obtain ⟨fields, -, refusal⟩ := accepted_iff_supported shelf
  have supported : shelfItems.type.Supported := TypeExpr.fault?_eq_none_iff.1 rfl
  have unsupported : ¬ shelfRooms.type.Supported := by
    rw [← TypeExpr.fault?_eq_none_iff]
    exact nofun
  refine ⟨(fields shelfItems).1 supported, ?_, ?_⟩
  · obtain ⟨fault, outermost, alike⟩ := (fields shelfRooms).2 unsupported
    have same : some (.nonStringKey "int") = some fault := TypeExpr.fault?_eq_some_iff.2 outermost
    cases same
    exact alike
  · obtain ⟨before, field, after, fault, -, -, -, refused⟩ :=
      refusal ⟨shelfRooms, by simp [shelf], unsupported⟩
    have first : Except.error ⟨.nonStringKey "int", "Shelf", "rooms"⟩ = assemble {} shelf := rfl
    rw [refused] at first
    rw [first]
    exact refused

end Class

end Recordsmith
