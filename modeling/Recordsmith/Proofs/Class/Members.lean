/-
# Recordsmith.Proofs.Class.Members — the members of an assembled class

An assembled class is a list of constructs. Here its members are found in that list,
by name, and each is said to evaluate to what its body evaluates to. Proofs about the
behaviour of a class use these equations and never look at the order of the members.

The instances of a class are given by slots, one for each field of its record in
order: the field and the value it holds.
-/
import Recordsmith.Proofs.Class.JsonForm
import Recordsmith.Proofs.Dart.Program

namespace Recordsmith.Class

open Recordsmith.Dart

set_option autoImplicit false

variable {Date : Type}

/-! ## Finding members -/

theorem ofRecord_of_assemble {options : ClassOptions} {record : Record} {decl : Expr}
    (assembles : assemble options record = .ok decl) :
    record.unsupported? = none ∧ decl = ofRecord options record := by
  rw [assemble_eq] at assembles
  cases supported : record.unsupported? with
  | some unsupported => rw [supported] at assembles; cases assembles
  | none =>
    rw [supported] at assembles
    cases assembles
    exact ⟨rfl, rfl⟩

theorem filterMap_declarations (record : Record) :
    (declarations record).filterMap Expr.member? = [] := by
  rw [declarations, List.filterMap_map]
  induction record.fields with
  | nil => rfl
  | cons field rest ih => rw [List.filterMap_cons]; exact ih

/-- The members that are written with `=>`. -/
def methods (options : ClassOptions) (record : Record) : List Method :=
  [⟨["factory"], record.name ++ ".fromMap", [typed mapType "raw"],
      (Expr.ident record.name).invoke (record.fields.map Member.fromMapExpr)⟩,
    ⟨["factory"], record.name ++ ".fromJson", [typed "String" "json"],
      (Expr.ident record.name).method "fromMap"
        [(Expr.ident "jsonDecode").invoke [.ident "json"]]⟩,
    ⟨[], "toMap", [], .mapLit none (record.fields.map fun field =>
      .entry (.str field.name) (Member.toMapExpr field))⟩] ++
  if options.valueSemantics then
    [⟨[], "operator ==", [typed "Object" "other"],
        record.fields.foldl
          (fun term field => .binary .conjunction term (Member.equalityExpr field))
          (.binary .isType (.ident "other") (.ident record.name))⟩,
      ⟨[], "hashCode", [], hashExpr record⟩,
      ⟨[], "copy", [], (Expr.ident record.name).invoke (record.fields.map Member.copyExpr)⟩]
  else []

theorem filterMap_members (options : ClassOptions) (record : Record) :
    (ofRecord options record).members.filterMap Expr.member? = methods options record := by
  have core : (coreMembers record).filterMap Expr.member? =
      (methods { options with valueSemantics := false } record) := by
    rw [coreMembers, List.filterMap_append, filterMap_declarations]
    rfl
  have others : (if options.accessors then accessors record else []).filterMap Expr.member? =
      [] := by
    split <;> rfl
  rw [ofRecord, Expr.members, members, List.filterMap_append, List.filterMap_append, core, others]
  cases wanted : options.valueSemantics <;> simp only [methods, wanted] <;> rfl

theorem findMember?_fromMap (options : ClassOptions) (record : Record) :
    (ofRecord options record).findMember? ["factory"] (record.name ++ ".fromMap") =
      some ⟨["factory"], record.name ++ ".fromMap", [typed mapType "raw"],
        (Expr.ident record.name).invoke (record.fields.map Member.fromMapExpr)⟩ := by
  rw [Expr.findMember?, filterMap_members, methods]
  simp

theorem findMember?_toMap (options : ClassOptions) (record : Record) :
    (ofRecord options record).findMember? [] "toMap" =
      some ⟨[], "toMap", [], .mapLit none (record.fields.map fun field =>
        .entry (.str field.name) (Member.toMapExpr field))⟩ := by
  rw [Expr.findMember?, filterMap_members, methods]
  simp

theorem findMember?_equality {options : ClassOptions} (wanted : options.valueSemantics = true)
    (record : Record) :
    (ofRecord options record).findMember? [] "operator ==" =
      some ⟨[], "operator ==", [typed "Object" "other"],
        record.fields.foldl
          (fun term field => .binary .conjunction term (Member.equalityExpr field))
          (.binary .isType (.ident "other") (.ident record.name))⟩ := by
  rw [Expr.findMember?, filterMap_members, methods, wanted]
  simp

theorem findMember?_equality_eq_none {options : ClassOptions}
    (unwanted : options.valueSemantics = false) (record : Record) :
    (ofRecord options record).findMember? [] "operator ==" = none := by
  rw [Expr.findMember?, filterMap_members, methods, unwanted]
  simp

theorem findMember?_hashCode {options : ClassOptions} (wanted : options.valueSemantics = true)
    (record : Record) :
    (ofRecord options record).findMember? [] "hashCode" =
      some ⟨[], "hashCode", [], hashExpr record⟩ := by
  rw [Expr.findMember?, filterMap_members, methods, wanted]
  simp

theorem constructorParams?_ofRecord (options : ClassOptions) (record : Record) :
    (ofRecord options record).constructorParams? record.name =
      some (record.fields.map fun field => (Expr.ident "this").dot field.name) := by
  have skipped : (declarations record).findSome? (Expr.paramsOf? record.name) = none := by
    rw [List.findSome?_eq_none_iff]
    intro decl member
    obtain ⟨field, -, rfl⟩ := List.mem_map.1 member
    rfl
  rw [Expr.constructorParams?, ofRecord, Expr.members, members, coreMembers, List.append_assoc,
    List.append_assoc, List.findSome?_append, skipped, List.cons_append, List.findSome?_cons,
    constructor, method, Expr.paramsOf?, if_pos rfl]
  rfl

theorem findSome?_typeOf? {fields : List Field} {field : Field}
    (distinct : (fields.map Field.name).Nodup) (member : field ∈ fields) :
    (fields.map fun field => typed field.type.render field.name).findSome?
      (Expr.typeOf? field.name) = some field.type.render := by
  induction fields with
  | nil => cases member
  | cons first rest ih =>
    obtain ⟨fresh, restDistinct⟩ := List.nodup_cons.1 distinct
    rw [List.map_cons, List.findSome?_cons, typed, Expr.typeOf?]
    rcases List.mem_cons.1 member with rfl | later
    · rw [if_pos rfl]
    · have other : first.name ≠ field.name := by
        intro same
        exact fresh (same ▸ List.mem_map_of_mem later)
      rw [if_neg other]
      exact ih restDistinct later

theorem fieldType?_ofRecord (options : ClassOptions) {record : Record} {field : Field}
    (member : field ∈ record.fields) :
    (ofRecord options record).fieldType? field.name = some field.type.render := by
  rw [Expr.fieldType?, ofRecord, Expr.members, members, coreMembers, List.append_assoc,
    List.append_assoc, List.findSome?_append, declarations,
    findSome?_typeOf? record.names_nodup member]
  rfl

/-! ## Instances -/

/-- A field and the value that an instance holds in it. -/
structure Slot (Date : Type) where
  field : Field
  value : Value Date

/-- The field of an object. -/
def Slot.binding (slot : Slot Date) : String × Value Date :=
  (slot.field.name, slot.value)

/-- The instance of the class of a record that has these slots. -/
def withSlots (record : Record) (slots : List (Slot Date)) : Value Date :=
  .object record.name (slots.map Slot.binding)

theorem field_mem {record : Record} {slots : List (Slot Date)} {slot : Slot Date}
    (fields : slots.map Slot.field = record.fields) (inside : slot ∈ slots) :
    slot.field ∈ record.fields := by
  rw [← fields]
  exact List.mem_map_of_mem inside

/-- No two slots of an instance have one name. -/
theorem nodup_names {record : Record} {slots : List (Slot Date)}
    (fields : slots.map Slot.field = record.fields) :
    (slots.map fun slot => slot.field.name).Nodup := by
  have distinct := record.names_nodup
  rw [← fields, List.map_map] at distinct
  exact distinct

theorem nodup_bindings {record : Record} {slots : List (Slot Date)}
    (fields : slots.map Slot.field = record.fields) :
    ((slots.map Slot.binding).map Prod.fst).Nodup := by
  rw [List.map_map]
  exact nodup_names fields

theorem lookup_slot {record : Record} {slots : List (Slot Date)} {slot : Slot Date}
    (fields : slots.map Slot.field = record.fields) (member : slot ∈ slots) :
    (slots.map Slot.binding).lookup slot.field.name = some slot.value :=
  lookup_of_mem (nodup_bindings fields) (List.mem_map_of_mem member)

theorem map_fields_eq {β : Type} {record : Record} {slots : List (Slot Date)}
    (fields : slots.map Slot.field = record.fields) (f : Field → β) :
    record.fields.map f = slots.map fun slot => f slot.field := by
  rw [← fields, List.map_map]
  rfl

/-- A name that no field has stands for no field of an instance. -/
theorem lookup?_bindings_eq_none {record : Record} {slots : List (Slot Date)} {name : String}
    (fields : slots.map Slot.field = record.fields)
    (free : ∀ field ∈ record.fields, field.name ≠ name) :
    (⟨[], slots.map Slot.binding⟩ : Scope Date).lookup? name = none := by
  rw [Scope.lookup?, List.lookup_nil, Option.none_or, lookup_eq_none_iff_not_mem, List.map_map,
    List.mem_map]
  rintro ⟨slot, inside, same⟩
  exact free slot.field (field_mem fields inside) same

theorem lookup_eq_none_of_covered {params : List (String × Value Date)} {hidden : List String}
    {name : String} (covered : ∀ param ∈ params, param.1 ∈ hidden) (visible : name ∉ hidden) :
    params.lookup name = none := by
  rw [lookup_eq_none_iff_not_mem, List.mem_map]
  rintro ⟨param, inside, rfl⟩
  exact visible (covered param inside)

/-- A reference reads the field, also where a parameter has its name: `hidden` are the
names that a member has parameters of. -/
theorem eval_reference_of_hidden {rt : Runtime Date} {calls : Callees Date}
    {params fields : List (String × Value Date)} {hidden : List String} {name : String}
    {value : Value Date} (covered : ∀ param ∈ params, param.1 ∈ hidden)
    (free : name ∈ hidden → name ∉ Lint.reservedWords) (notNull : name ≠ "null")
    (found : fields.lookup name = some value) :
    eval rt calls ⟨params, fields⟩ (Member.reference hidden name) = .ok value := by
  rw [Member.reference]
  split
  · next isHidden =>
    rw [eval, Expr.dot, run_member, if_neg (free isHidden)]
    simp only [Scope.ownField?, found]
    rfl
  · next visible =>
    apply Reads.eval_eq
    apply Reads.ident _ notNull
    rw [Scope.lookup?, lookup_eq_none_of_covered covered visible]
    exact found

/-- Where only fields are in scope, the name of a field is the field. -/
theorem reads_field {rt : Runtime Date} {calls : Callees Date} {name : String}
    {value : Value Date} {fields : List (String × Value Date)}
    (found : fields.lookup name = some value) (free : name ∉ Lint.reservedWords) :
    Reads rt calls ⟨[], fields⟩ (.ident name) value := by
  have visible : (⟨[], fields⟩ : Scope Date).lookup? name = some value := found
  apply Reads.ident visible
  rintro rfl
  exact free (by decide)

/-! ## Running members -/

section Running

variable {rt : Runtime Date} {calls : Callees Date} {program : Program}
  {options : ClassOptions} {record : Record}

/-- The constructor of a class takes the values of its fields. -/
theorem construct_eq (assembled : program record.name = some (ofRecord options record))
    {slots : List (Slot Date)} (fields : slots.map Slot.field = record.fields)
    (each : ∀ slot ∈ slots, slot.value.isOf slot.field.type.render = true) :
    program.construct record.name (slots.map Slot.value) = .ok (withSlots record slots) := by
  -- The parameters are bound one by one, so the induction is on a part of the slots.
  have bound : ∀ part : List (Slot Date), (∀ slot ∈ part, slot ∈ slots) →
      bindFields (ofRecord options record)
        ((part.map Slot.field).map fun field => (Expr.ident "this").dot field.name)
        (part.map Slot.value) = .ok (part.map Slot.binding) := by
    intro part
    induction part with
    | nil => intro _; rfl
    | cons slot rest ih =>
      intro inside
      have slotMember := inside slot (by simp)
      have fieldMember := field_mem fields slotMember
      have others := ih fun later member => inside later (by simp [member])
      simp only [Expr.dot] at others
      simp only [List.map_cons, Expr.dot, bindFields, fieldType?_ofRecord options fieldMember,
        each slot slotMember, if_true, others]
      rfl
  rw [Program.construct, assembled]
  simp only [constructorParams?_ofRecord]
  rw [← fields, bound slots fun slot member => member]
  rfl

theorem method_toMap (assembled : program record.name = some (ofRecord options record))
    (fields : List (String × Value Date)) :
    program.method rt calls "toMap" (.object record.name fields) [] =
      eval rt calls ⟨[], fields⟩ (.mapLit none (record.fields.map fun field =>
        .entry (.str field.name) (Member.toMapExpr field))) := by
  simp [Program.method, assembled, findMember?_toMap, bindParams, Except.bind]

theorem factory_fromMap (assembled : program record.name = some (ofRecord options record))
    (entries : List (String × Value Date)) :
    program.factory rt calls record.name "fromMap" (.map entries) =
      eval rt calls ⟨[("raw", .map entries)], []⟩
        ((Expr.ident record.name).invoke (record.fields.map Member.fromMapExpr)) := by
  have named : record.name ++ "." ++ "fromMap" = record.name ++ ".fromMap" := by
    rw [String.append_assoc]
    rfl
  have typeChecked : (Value.map entries).isOf mapType = true := isOf_mapType entries
  simp [Program.factory, assembled, named, findMember?_fromMap, typed, bindParams, typeChecked,
    Except.bind, Except.map]

theorem method_hashCode (assembled : program record.name = some (ofRecord options record))
    (wanted : options.valueSemantics = true) (fields : List (String × Value Date)) :
    program.method rt calls "hashCode" (.object record.name fields) [] =
      eval rt calls ⟨[], fields⟩ (hashExpr record) := by
  simp [Program.method, assembled, findMember?_hashCode wanted, bindParams, Except.bind]

end Running

end Recordsmith.Class
