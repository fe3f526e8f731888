/-
# Recordsmith.Proofs.Class.HashCode — equal objects have equal hash codes

`hashCode` of an assembled class is made in three ways: of one field alone, of up to
twenty fields by `Object.hash`, and of more by `Object.hashAll` over a list. In each
of them a list counts by its elements in order, a map by its entries in any order, and
a null container as zero. `recordCode` says this without the generated code, and
`method_hashCode_eq` that the code computes it.

What is left is a fact about values: if two fields agree, they count the same. For
maps this needs an argument. `mapEquals` only compares lengths and looks up every key
of the one map in the other; that the entries are then the same up to order follows
from the keys of a map being distinct (`perm_of_lookup`).
-/
import Mathlib.Data.List.Nodup
import Mathlib.Data.List.Perm.Subperm
import Recordsmith.Proofs.Class.Anatomy
import Recordsmith.Proofs.Class.Equality

namespace Recordsmith.Class

open Recordsmith.Dart

set_option autoImplicit false

variable {Date : Type}

/-- A library in which equal objects have equal hash codes. -/
structure Lawful (rt : Runtime Date) : Prop where
  hashCode_of_same : ∀ left right, rt.same left right = true →
    rt.hashCode left = rt.hashCode right
  eq_of_identical : ∀ left right, rt.identical left right = true → left = right

/-! ## What a field counts for -/

/-- The hash code of an entry of a map. -/
def entryCode (rt : Runtime Date) (key : String) (code : Int) : Int :=
  rt.hashCode (.int (rt.hash [rt.hashCode (.str key), code]))

/-- The hash code of a container; a null counts as zero. -/
def containerCode (rt : Runtime Date) : Value Date → Int
  | .list items => rt.hashAll (items.map rt.hashCode)
  | .map entries =>
      rt.hashAllUnordered ↑(entries.map fun entry => entryCode rt entry.1 (rt.hashCode entry.2))
  | _ => 0

/-- What a slot adds to the hash code of its instance. -/
def slotTerm (rt : Runtime Date) (slot : Slot Date) : Value Date :=
  if slot.field.type.container?.isSome then .int (containerCode rt slot.value) else slot.value

/-- The hash code of the instance with these slots. -/
def recordCode (rt : Runtime Date) : List (Slot Date) → Int
  | [slot] =>
      if slot.field.type.container?.isSome then containerCode rt slot.value
      else rt.hashCode slot.value
  | slots =>
      let codes := slots.map fun slot => rt.hashCode (slotTerm rt slot)
      if slots.length ≤ maxHashArgs then rt.hash codes else rt.hashAll codes

/-- The containers of a kind; no key of a map occurs twice. -/
def Filled : Container → Value Date → Prop
  | .list, value => ∃ items, value = .list items
  | .map, value => ∃ entries, value = .map entries ∧ (entries.map Prod.fst).Nodup

/-- A container field holds such a container, or null if it may; a scalar field anything. -/
def Holds (slot : Slot Date) : Prop :=
  ∀ container, slot.field.type.container? = some container →
    (slot.field.type.nullable = true ∧ slot.value = .null) ∨ Filled container slot.value

/-! ## Values that agree count the same -/

section Values

variable {rt : Runtime Date}

theorem Lawful.hashCode_eq_of_equal (lawful : Lawful rt) {left right : Value Date}
    (equal : rt.equal left right = true) : rt.hashCode left = rt.hashCode right := by
  unfold Runtime.equal at equal
  split at equal
  · rw [Value.isNull_eq_true.1 equal]
  · rw [Value.isNull_eq_true.1 equal]
  · exact lawful.hashCode_of_same left right equal

theorem Lawful.eq_of_isIdentical (lawful : Lawful rt) {left right : Value Date}
    (identical : rt.isIdentical left right = true) : left = right := by
  unfold Runtime.isIdentical at identical
  split at identical
  · exact (Value.isNull_eq_true.1 identical).symm
  · exact Value.isNull_eq_true.1 identical
  · exact lawful.eq_of_identical left right identical

theorem map_eq_of_zip {α β γ : Type} {f : α → γ} {g : β → γ} {xs : List α} {ys : List β}
    (sameLength : xs.length = ys.length) (each : ∀ pair ∈ xs.zip ys, f pair.1 = g pair.2) :
    xs.map f = ys.map g := by
  induction xs generalizing ys with
  | nil =>
    have empty : ys = [] := List.length_eq_zero_iff.1 sameLength.symm
    rw [empty]
    rfl
  | cons x rest ih =>
    cases ys with
    | nil => cases sameLength
    | cons y others =>
      rw [List.zip_cons_cons, List.forall_mem_cons] at each
      rw [List.map_cons, List.map_cons, each.1, ih (Nat.succ.inj sameLength) each.2]

/-- Two maps of one length, one of which has all keys of the other with values of the
same code, have the same entries up to order. -/
theorem perm_of_lookup {code : Value Date → Int} {xs ys : List (String × Value Date)}
    (distinct : (xs.map Prod.fst).Nodup) (sameLength : xs.length = ys.length)
    (each : ∀ entry ∈ xs, ∃ value, ys.lookup entry.1 = some value ∧ code entry.2 = code value) :
    (xs.map fun entry => (entry.1, code entry.2)).Perm
      (ys.map fun entry => (entry.1, code entry.2)) := by
  have keysDistinct : (xs.map fun entry => (entry.1, code entry.2)).Nodup := by
    apply List.Nodup.of_map Prod.fst
    rw [List.map_map]
    exact distinct
  have included : (xs.map fun entry => (entry.1, code entry.2)) ⊆
      ys.map fun entry => (entry.1, code entry.2) := by
    intro pair member
    obtain ⟨entry, inside, rfl⟩ := List.mem_map.1 member
    obtain ⟨value, found, same⟩ := each entry inside
    obtain ⟨front, back, rfl, -⟩ := List.lookup_eq_some_iff.1 found
    exact List.mem_map.2 ⟨(entry.1, value), by simp, by rw [same]⟩
  apply (keysDistinct.subperm included).perm_of_length_le
  simp [sameLength]

theorem Lawful.containerCode_of_listEquals (lawful : Lawful rt) {left right : Value Date}
    (equal : listEquals rt left right = .ok (.bool true)) :
    containerCode rt left = containerCode rt right := by
  unfold listEquals at equal
  split at equal
  · next identical => rw [lawful.eq_of_isIdentical identical]
  · split at equal
    · next xs ys _ =>
      simp only [Except.ok.injEq, Value.bool.injEq, Bool.and_eq_true, beq_iff_eq,
        List.all_eq_true] at equal
      have codes : xs.map rt.hashCode = ys.map rt.hashCode :=
        map_eq_of_zip equal.1 fun pair member => lawful.hashCode_eq_of_equal (equal.2 pair member)
      rw [containerCode, containerCode, codes]
    · cases equal
    · cases equal
    · cases equal

theorem Lawful.containerCode_of_mapEquals (lawful : Lawful rt) {left right : Value Date}
    (equal : mapEquals rt left right = .ok (.bool true))
    (distinct : ∀ entries, left = .map entries → (entries.map Prod.fst).Nodup) :
    containerCode rt left = containerCode rt right := by
  unfold mapEquals at equal
  split at equal
  · next identical => rw [lawful.eq_of_isIdentical identical]
  · split at equal
    · next xs ys _ =>
      simp only [Except.ok.injEq, Value.bool.injEq, Bool.and_eq_true, beq_iff_eq,
        List.all_eq_true] at equal
      have found : ∀ entry ∈ xs, ∃ value, ys.lookup entry.1 = some value ∧
          rt.hashCode entry.2 = rt.hashCode value := by
        intro entry member
        have same := equal.2 entry member
        split at same
        · next value known => exact ⟨value, known, lawful.hashCode_eq_of_equal same⟩
        · cases same
      have entries := perm_of_lookup (distinct xs rfl) equal.1 found
      have codes := entries.map fun pair => entryCode rt pair.1 pair.2
      rw [List.map_map, List.map_map] at codes
      rw [containerCode, containerCode]
      exact congrArg rt.hashAllUnordered (Multiset.coe_eq_coe.2 codes)
    · cases equal
    · cases equal
    · cases equal

end Values

/-! ## What the generated code computes -/

section Code

variable {rt : Runtime Date} {calls : Callees Date} {scope : Scope Date}

/-- A call of one of the functions that make hash codes. -/
theorem eval_objectHash {function : String} {exprs : List Expr} {values : List (Value Date)}
    (isHash : function ∈ Scope.hashFunctions)
    (argsEq : (runArgs rt calls scope exprs).bind plainArgs = .ok values) :
    eval rt calls scope ((Expr.ident "Object").method function exprs) =
      callObject rt function values := by
  have visible : scope.class? (.ident "Object") function = some "Object" := by
    simp [Scope.class?, isHash]
  rw [Expr.method, Expr.dot, Expr.invoke, eval_static visible argsEq]
  rfl

/-- The hash of an entry in the lambda over the entries of a map. -/
theorem eval_entryHash (key : String) (value : Value Date) :
    eval rt calls (scope.enter ["kv"] [.entry key value])
      ((Expr.ident "Object").method "hash"
        [(Expr.ident "kv").dot "key", (Expr.ident "kv").dot "value"]) =
      .ok (.int (rt.hash [rt.hashCode (.str key), rt.hashCode value])) := by
  have reads : Reads rt calls (scope.enter ["kv"] [.entry key value]) (.ident "kv")
      (.entry key value) :=
    Reads.ident (by simp [Scope.lookup?, Scope.enter]) (by decide)
  have keyEq : eval rt calls (scope.enter ["kv"] [.entry key value])
      ((Expr.ident "kv").dot "key") = .ok (.str key) := by
    rw [eval, Expr.dot, run_member, if_neg (by decide), reads.run_eq]
    rfl
  have valueEq : eval rt calls (scope.enter ["kv"] [.entry key value])
      ((Expr.ident "kv").dot "value") = .ok value := by
    rw [eval, Expr.dot, run_member, if_neg (by decide), reads.run_eq]
    rfl
  rw [eval_objectHash (by decide) (plainArgs_runArgs_two keyEq valueEq)]
  rfl

theorem eval_containerHash_list {target : Expr} {items : List (Value Date)}
    (targetEq : eval rt calls scope target = .ok (.list items)) :
    eval rt calls scope (Member.containerHash .list target) =
      .ok (.int (containerCode rt (.list items))) := by
  rw [Member.containerHash, eval_objectHash (by decide) (plainArgs_runArgs_one targetEq)]
  rfl

theorem eval_containerHash_map {target : Expr} {entries : List (String × Value Date)}
    (targetEq : run rt calls scope target = .ok (some (.map entries)))
    (notOwn : scope.ownField? target "entries" = none) :
    eval rt calls scope (Member.containerHash .map target) =
      .ok (.int (containerCode rt (.map entries))) := by
  have pairs : run rt calls scope (target.dot "entries") =
      .ok (some (.iterable (entries.map fun entry => .entry entry.1 entry.2))) := by
    rw [Expr.dot, run_member, if_neg (by decide), notOwn, targetEq]
    rfl
  have mapped : (entries.map fun entry => Value.entry entry.1 entry.2).mapM (m := Except Failure)
      (fun item => eval rt calls (scope.enter ["kv"] [item])
        ((Expr.ident "Object").method "hash"
          [(Expr.ident "kv").dot "key", (Expr.ident "kv").dot "value"])) =
        .ok (entries.map fun entry =>
          .int (rt.hash [rt.hashCode (.str entry.1), rt.hashCode entry.2])) :=
    mapM_map_eq_ok entries fun entry _ => eval_entryHash entry.1 entry.2
  have hashes : eval rt calls scope ((target.dot "entries").method "map"
      [.lambda ["kv"] ((Expr.ident "Object").method "hash"
        [(Expr.ident "kv").dot "key", (Expr.ident "kv").dot "value"])]) =
      .ok (.iterable (entries.map fun entry =>
        .int (rt.hash [rt.hashCode (.str entry.1), rt.hashCode entry.2]))) := by
    have reads : Reads rt calls scope (target.dot "entries")
        (.iterable (entries.map fun entry => .entry entry.1 entry.2)) := ⟨pairs, fun _ _ => rfl⟩
    rw [Expr.method, Expr.dot, Expr.invoke,
      reads.eval_method rfl (by decide) (runArgs_lambda _ _), callMethod_map_iterable]
    simp only [List.length_cons, List.length_nil, if_true, mapped]
    rfl
  rw [Member.containerHash, eval_objectHash (by decide) (plainArgs_runArgs_one hashes)]
  simp [callObject, containerCode, entryCode, Function.comp_def]

theorem eval_containerHash {container : Container} {target : Expr} {value : Value Date}
    (targetEq : run rt calls scope target = .ok (some value))
    (notOwn : scope.ownField? target "entries" = none) (filled : Filled container value) :
    eval rt calls scope (Member.containerHash container target) =
      .ok (.int (containerCode rt value)) := by
  cases container with
  | list =>
    obtain ⟨items, rfl⟩ := filled
    exact eval_containerHash_list (eval_of_run targetEq)
  | map =>
    obtain ⟨entries, rfl, -⟩ := filled
    exact eval_containerHash_map targetEq notOwn

theorem ownField?_field {name : String} {fields : List (String × Value Date)}
    (free : name ∉ Lint.reservedWords) (member : String) :
    (⟨[], fields⟩ : Scope Date).ownField? (.ident name) member = none := by
  have notThis : name ≠ "this" := by
    rintro rfl
    exact free (by decide)
  simp [Scope.ownField?]

/-- The term of a field in `hashCode`. -/
theorem eval_hashExpr {slot : Slot Date} {fields : List (String × Value Date)}
    (found : fields.lookup slot.field.name = some slot.value)
    (free : slot.field.name ∉ Lint.reservedWords) (noZero : fields.lookup "0" = none)
    (holds : Holds slot) :
    eval rt calls ⟨[], fields⟩ (Member.hashExpr slot.field) = .ok (slotTerm rt slot) := by
  have reads : Reads rt calls ⟨[], fields⟩ (.ident slot.field.name) slot.value :=
    reads_field found free
  rw [Member.hashExpr, slotTerm]
  cases kind : slot.field.type.container? with
  | none => exact reads.eval_eq
  | some container =>
    simp only [Option.isSome_some, if_true]
    cases nullable : slot.field.type.nullable with
    | false =>
      rcases holds container kind with ⟨isNullable, -⟩ | filled
      · rw [nullable] at isNullable
        cases isNullable
      · exact eval_containerHash reads.run_eq (ownField?_field free _) filled
    | true =>
      simp only [if_true]
      rw [eval_conditional (eval_isNull reads.eval_eq)]
      rcases holds container kind with ⟨-, isNull⟩ | filled
      · have zero : eval rt calls ⟨[], fields⟩ (.ident "0") = .ok (.int 0) := by
          rw [eval, run_ident, Scope.read, if_neg (by decide), Scope.lookup?, noZero]
          rfl
        rw [isNull]
        exact zero
      · have present : slot.value.isNull = false := by
          cases container with
          | list => obtain ⟨items, same⟩ := filled; rw [same]; rfl
          | map => obtain ⟨entries, same, -⟩ := filled; rw [same]; rfl
        have banged : run rt calls ⟨[], fields⟩ (.bang (.ident slot.field.name)) =
            .ok (some slot.value) := by
          rw [run_bang, reads.run_eq]
          simp [link, present, Except.map]
        rw [present]
        exact eval_containerHash banged rfl filled

/-- No field is called like the literal. -/
theorem lookup_zero (slots : List (Slot Date)) :
    (slots.map Slot.binding).lookup "0" = none := by
  rw [List.lookup_eq_none_iff]
  intro binding member
  obtain ⟨slot, -, rfl⟩ := List.mem_map.1 member
  rw [bne_iff_ne]
  intro same
  have valid := slot.field.name_valid
  rw [show slot.field.name = "0" from same.symm] at valid
  exact absurd valid (by decide)

/-- One field alone. -/
theorem eval_hash_one {slot : Slot Date} {fields : List (String × Value Date)}
    (found : fields.lookup slot.field.name = some slot.value)
    (free : slot.field.name ∉ Lint.reservedWords)
    (term : eval rt calls ⟨[], fields⟩ (Member.hashExpr slot.field) = .ok (slotTerm rt slot)) :
    eval rt calls ⟨[], fields⟩
      (if slot.field.type.container?.isNone then (Member.hashExpr slot.field).dot "hashCode"
       else Member.hashExpr slot.field) = .ok (.int (recordCode rt [slot])) := by
  cases kind : slot.field.type.container? with
  | none =>
    have direct : Member.hashExpr slot.field = .ident slot.field.name := by
      rw [Member.hashExpr, kind]
    have reads : Reads rt calls ⟨[], fields⟩ (.ident slot.field.name) slot.value :=
      reads_field found free
    rw [if_pos Option.isNone_none, direct, eval, Expr.dot, run_member, if_neg (by decide),
      ownField?_field free, reads.run_eq, recordCode, kind]
    rfl
  | some container =>
    rw [if_neg (by simp), term]
    simp [slotTerm, recordCode, kind]

/-- Several fields, within the bounds of `Object.hash` or beyond. -/
theorem eval_hash_several {slots : List (Slot Date)}
    (terms : ∀ slot ∈ slots, eval rt calls scope (Member.hashExpr slot.field) =
      .ok (slotTerm rt slot)) (several : 2 ≤ slots.length) :
    eval rt calls scope
      (if (slots.map fun slot => Member.hashExpr slot.field).length ≤ maxHashArgs then
        (Expr.ident "Object").method "hash" (slots.map fun slot => Member.hashExpr slot.field)
       else
        (Expr.ident "Object").method "hashAll"
          [.listLit none (slots.map fun slot => Member.hashExpr slot.field)]) =
      .ok (.int
        (if slots.length ≤ maxHashArgs then
          rt.hash (slots.map fun slot => rt.hashCode (slotTerm rt slot))
         else rt.hashAll (slots.map fun slot => rt.hashCode (slotTerm rt slot)))) := by
  rw [List.length_map]
  by_cases few : slots.length ≤ maxHashArgs
  · have arity : 2 ≤ (slots.map (slotTerm rt)).length ∧ (slots.map (slotTerm rt)).length ≤ 20 := by
      rw [List.length_map]
      exact ⟨several, few⟩
    rw [if_pos few, if_pos few, eval_objectHash (by decide) (plainArgs_runArgs_map slots terms)]
    simp only [callObject, if_pos arity, List.map_map]
    rfl
  · have items : eval rt calls scope
        (.listLit none (slots.map fun slot => Member.hashExpr slot.field)) =
          .ok (.list (slots.map (slotTerm rt))) := by
      rw [eval, run_listLit, runItems_map slots terms]
      rfl
    rw [if_neg few, if_neg few, eval_objectHash (by decide) (plainArgs_runArgs_one items)]
    simp only [callObject, List.map_map]
    rfl

/-- The hash code that an assembled class computes. -/
theorem method_hashCode_eq {program : Program} {options : ClassOptions} {record : Record}
    (assembled : program record.name = some (ofRecord options record))
    (wanted : options.valueSemantics = true) {slots : List (Slot Date)}
    (fields : slots.map Slot.field = record.fields)
    (free : ∀ slot ∈ slots, slot.field.name ∉ Lint.reservedWords)
    (holds : ∀ slot ∈ slots, Holds slot) :
    program.method rt calls "hashCode" (withSlots record slots) [] =
      .ok (.int (recordCode rt slots)) := by
  have terms : ∀ slot ∈ slots, eval rt calls ⟨[], slots.map Slot.binding⟩
      (Member.hashExpr slot.field) = .ok (slotTerm rt slot) := by
    intro slot member
    exact eval_hashExpr (lookup_slot fields member) (free slot member) (lookup_zero slots)
      (holds slot member)
  rw [withSlots, method_hashCode assembled wanted, hashExpr, ← fields]
  cases slots with
  | nil => exact absurd fields.symm record.fields_ne_nil
  | cons slot others =>
    cases others with
    | nil =>
      exact eval_hash_one (lookup_slot fields (by simp)) (free slot (by simp))
        (terms slot (by simp))
    | cons second rest =>
      have several : 2 ≤ (slot :: second :: rest).length := by simp
      have combined := eval_hash_several terms several
      rw [recordCode]
      · simpa only [combinedHash, List.map_cons, List.map_map, Function.comp_def] using combined
      · simp

end Code

/-! ## Agreement -/

section Agreement

variable {rt : Runtime Date}

theorem Lawful.containerCode_of_agree (lawful : Lawful rt) {left right : Slot Date}
    (isContainer : left.field.type.container?.isSome = true) (holds : Holds left)
    (agree : Agree rt left.field.type left.value right.value) :
    containerCode rt left.value = containerCode rt right.value := by
  obtain ⟨container, kind⟩ := Option.isSome_iff_exists.1 isContainer
  rw [Agree, kind] at agree
  cases container with
  | list => exact lawful.containerCode_of_listEquals agree
  | map =>
    apply lawful.containerCode_of_mapEquals agree
    intro entries same
    rcases holds .map kind with ⟨-, isNull⟩ | ⟨other, filled, distinct⟩
    · rw [same] at isNull
      cases isNull
    · rw [same] at filled
      cases filled
      exact distinct

theorem Lawful.hashCode_slotTerm (lawful : Lawful rt) {left right : Slot Date}
    (sameField : right.field = left.field) (holds : Holds left)
    (agree : Agree rt left.field.type left.value right.value) :
    rt.hashCode (slotTerm rt left) = rt.hashCode (slotTerm rt right) := by
  rw [slotTerm, slotTerm, sameField]
  split
  · next isContainer => rw [lawful.containerCode_of_agree isContainer holds agree]
  · next isScalar =>
    have scalar : left.field.type.container? = none := by simpa using isScalar
    rw [Agree, scalar] at agree
    exact lawful.hashCode_eq_of_equal agree

/-- Instances whose slots agree have one hash code. -/
theorem Lawful.recordCode_eq (lawful : Lawful rt) {left right : List (Slot Date)}
    (sameFields : left.map Slot.field = right.map Slot.field)
    (holds : ∀ slot ∈ left, Holds slot)
    (agree : ∀ pair ∈ left.zip right, Agree rt pair.1.field.type pair.1.value pair.2.value) :
    recordCode rt left = recordCode rt right := by
  have sameLength : left.length = right.length := by
    simpa using congrArg List.length sameFields
  have codes : (left.map fun slot => rt.hashCode (slotTerm rt slot)) =
      right.map fun slot => rt.hashCode (slotTerm rt slot) := by
    apply map_eq_of_zip sameLength
    rintro ⟨mine, other⟩ member
    exact lawful.hashCode_slotTerm (field_eq_of_mem_zip sameFields _ member)
      (holds mine (List.of_mem_zip member).1) (agree _ member)
  match left, right with
  | [], [] => rfl
  | [mine], [other] =>
    have sameField : other.field = mine.field := by simpa using sameFields.symm
    have agreed := agree (mine, other) (by simp)
    simp only [recordCode, sameField]
    split
    · next isContainer =>
      exact lawful.containerCode_of_agree isContainer (holds mine (by simp)) agreed
    · next isScalar => simpa [slotTerm, sameField, isScalar] using codes
  | mine :: second :: rest, other :: third :: others =>
    simp only [recordCode, codes, sameLength]

end Agreement

/-- **Equal objects have equal hash codes.** Of two instances of an assembled class for
which `==` gives `true`, `hashCode` gives the same number, for any library whose hash
codes agree with its equality; and each call of `Object.hash` has two to twenty
arguments. -/
theorem hashCode_of_equal {options : ClassOptions} {record : Record} {decl : Expr}
    (assembles : assemble options record = .ok decl) :
    (∀ {Date : Type} (rt : Runtime Date) (calls : Callees Date) (program : Program)
        (left right : List (Slot Date)), Lawful rt → program record.name = some decl →
      left.map Slot.field = record.fields → right.map Slot.field = record.fields →
      (∀ slot ∈ left, Holds slot) → (∀ slot ∈ right, Holds slot) →
      program.method rt calls "operator ==" (withSlots record left) [withSlots record right] =
        .ok (.bool true) →
      ∃ code,
        program.method rt calls "hashCode" (withSlots record left) [] = .ok (.int code) ∧
        program.method rt calls "hashCode" (withSlots record right) [] = .ok (.int code)) ∧
    Everywhere HashArity decl := by
  obtain ⟨-, rfl⟩ := ofRecord_of_assemble assembles
  refine ⟨?_, hashArity_ofRecord options record⟩
  intro Date rt calls program left right lawful assembled leftFields rightFields leftHolds
    rightHolds equal
  have wanted : options.valueSemantics = true := by
    by_contra unwanted
    simp [Program.method, withSlots, assembled,
      findMember?_equality_eq_none (Bool.not_eq_true _ ▸ unwanted)] at equal
  have agree := (method_equality_iff assembled wanted leftFields rightFields).1 equal
  have free : ∀ field ∈ record.fields, field.name ∉ Lint.reservedWords := by
    rw [fields_eq_zip leftFields rightFields, List.forall_mem_map]
    intro pair member
    exact (agree pair member).1
  have leftFree : ∀ slot ∈ left, slot.field.name ∉ Lint.reservedWords := by
    intro slot member
    exact free _ (field_mem leftFields member)
  have rightFree : ∀ slot ∈ right, slot.field.name ∉ Lint.reservedWords := by
    intro slot member
    exact free _ (field_mem rightFields member)
  have sameCode : recordCode rt left = recordCode rt right :=
    lawful.recordCode_eq (leftFields.trans rightFields.symm) leftHolds
      fun pair member => (agree pair member).2
  refine ⟨recordCode rt left, ?_, ?_⟩
  · exact method_hashCode_eq assembled wanted leftFields leftFree leftHolds
  · rw [sameCode]
    exact method_hashCode_eq assembled wanted rightFields rightFree rightHolds

/-! Two tallies whose maps list their entries in different orders. -/

/-- `Map<String, int> counts`, `List<String>? tags` -/
def tally : Record :=
  ⟨"Tally",
    [⟨"counts", .map (.scalar "String" false) (.scalar "int" false) false, by decide⟩,
      ⟨"tags", .list (.scalar "String" false) true, by decide⟩],
    Eq.refl true, by decide, by decide⟩

def tallySlots (counts : List (String × Value Unit)) : List (Slot Unit) :=
  [⟨⟨"counts", .map (.scalar "String" false) (.scalar "int" false) false, by decide⟩,
      .map counts⟩,
    ⟨⟨"tags", .list (.scalar "String" false) true, by decide⟩, .null⟩]

/-- A library that compares numbers only. -/
def numbers : Runtime Unit where
  same left right :=
    match left, right with
    | .int a, .int b => a == b
    | _, _ => false
  identical _ _ := false
  hashCode
    | .int number => number
    | .str text => text.length
    | _ => 0
  hash codes := codes.foldl (fun sum code => 31 * sum + code) 1
  hashAll codes := codes.foldl (fun sum code => 31 * sum + code) 2
  hashAllUnordered codes := codes.card
  iso _ := ""
  parseDate _ := none

theorem lawful_numbers : Lawful numbers where
  hashCode_of_same left right same := by
    simp only [numbers] at same
    split at same
    · next a b =>
      rw [beq_iff_eq.1 same]
    · cases same
  eq_of_identical left right identical := by cases identical

theorem holds_tallySlots {counts : List (String × Value Unit)}
    (distinct : (counts.map Prod.fst).Nodup) : ∀ slot ∈ tallySlots counts, Holds slot := by
  rw [tallySlots, List.forall_mem_cons, List.forall_mem_singleton]
  constructor
  · intro container kind
    cases kind
    exact .inr ⟨counts, rfl, distinct⟩
  · intro container kind
    exact .inl ⟨rfl, rfl⟩

/-- The program of this one class. -/
def tallies : Program := fun _ => some (ofRecord {} tally)

theorem hashCode_of_equal_tally :
    (tallies.method numbers (tallies.callees numbers 0) "operator =="
        (withSlots tally (tallySlots [("a", .int 1), ("b", .int 2)]))
        [withSlots tally (tallySlots [("b", .int 2), ("a", .int 1)])] = .ok (.bool true) ∧
      ∃ code,
        tallies.method numbers (tallies.callees numbers 0) "hashCode"
          (withSlots tally (tallySlots [("a", .int 1), ("b", .int 2)])) [] = .ok (.int code) ∧
        tallies.method numbers (tallies.callees numbers 0) "hashCode"
          (withSlots tally (tallySlots [("b", .int 2), ("a", .int 1)])) [] = .ok (.int code)) ∧
    Everywhere HashArity (ofRecord {} tally) := by
  have assembles : assemble {} tally = .ok (ofRecord {} tally) := rfl
  have assembled : tallies tally.name = some (ofRecord {} tally) := rfl
  have equal : tallies.method numbers (tallies.callees numbers 0) "operator =="
      (withSlots tally (tallySlots [("a", .int 1), ("b", .int 2)]))
      [withSlots tally (tallySlots [("b", .int 2), ("a", .int 1)])] = .ok (.bool true) := by
    rw [method_equality_iff assembled rfl rfl rfl]
    simp only [tallySlots, List.zip_cons_cons, List.zip_nil_right, List.forall_mem_cons]
    exact ⟨⟨by decide, rfl⟩, ⟨by decide, rfl⟩, by simp⟩
  obtain ⟨consistent, arity⟩ := hashCode_of_equal assembles
  exact ⟨⟨equal, consistent numbers _ tallies _ _ lawful_numbers assembled rfl rfl
    (holds_tallySlots (by decide)) (holds_tallySlots (by decide)) equal⟩, arity⟩

end Recordsmith.Class
