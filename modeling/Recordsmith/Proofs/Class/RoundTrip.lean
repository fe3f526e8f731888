/-
# Recordsmith.Proofs.Class.RoundTrip — objects survive their JSON form

For the classes of a catalog, `fromMap` undoes `toMap`: an instance whose fields
hold values of the declared types is written as a map, and the map is read back as
the same instance. The types may nest lists, maps, dates and records in any way, and
records may refer to each other and to themselves.

The argument has two halves. For one record, `method_toMap_eq` and
`factory_fromMap_eq` run the two members, if every slot has a JSON form.
`exists_jsonForm` then gives every value of a type a form, by induction on why it is
one; a record is one call deeper than its slots.
-/
import Recordsmith.Proofs.Catalog.Contents
import Recordsmith.Proofs.Class.Members

namespace Recordsmith.Class

open Recordsmith.Dart

set_option autoImplicit false

variable {Date : Type}

/-! ## One record -/

/-- What the class of a record takes for granted about names: no field hides what the
bodies of its members use, and every type it spells can be read. -/
structure Regular (record : Record) : Prop where
  upper : startsUpper record.name = true
  notEntry : record.name ≠ "MapEntry"
  nameFree : ∀ field ∈ record.fields, field.name ≠ "null" ∧ field.name ≠ "MapEntry"
  formed : ∀ field ∈ record.fields, field.type.WellFormed
  referencesUpper : ∀ field ∈ record.fields, ∀ name ∈ field.type.recordNames,
    startsUpper name = true

section OneRecord

variable {rt : Runtime Date} {calls : Callees Date} {program : Program}
  {options : ClassOptions} {record : Record}

/-- `toMap` writes the form of each slot under its name. -/
theorem method_toMap_eq (assembled : program record.name = some (ofRecord options record))
    {slots : List (Slot Date × Value Date)}
    (fields : (slots.map Prod.fst).map Slot.field = record.fields)
    (regular : Regular record)
    (each : ∀ slot ∈ slots, JsonForm rt calls slot.1.field.type slot.1.value slot.2) :
    program.method rt calls "toMap" (withSlots record (slots.map Prod.fst)) [] =
      .ok (.map (slots.map fun slot => (slot.1.field.name, slot.2))) := by
  have distinct := nodup_bindings fields
  have member : ∀ slot ∈ slots, slot.1.field ∈ record.fields := fun slot inside =>
    field_mem fields (List.mem_map_of_mem inside)
  have free : (⟨[], (slots.map Prod.fst).map Slot.binding⟩ : Scope Date).lookup? "MapEntry" =
      none :=
    lookup?_bindings_eq_none fields fun field member => (regular.nameFree field member).2
  have written : ∀ slot ∈ slots,
      eval rt calls ⟨[], (slots.map Prod.fst).map Slot.binding⟩ (Member.toMapExpr slot.1.field) =
        .ok slot.2 := by
    intro slot inside
    apply eval_encoded (each slot inside) 0 free
    apply Reads.ident
    · rw [Scope.lookup?, List.lookup_nil, Option.none_or]
      apply lookup_of_mem distinct
      exact List.mem_map.2 ⟨slot.1, List.mem_map_of_mem inside, rfl⟩
    · exact (regular.nameFree _ (member slot inside)).1
  have keys : ((slots.map fun slot => (slot.1.field.name, slot.2)).map Prod.fst).Nodup := by
    simpa [Function.comp_def, Slot.binding] using distinct
  have exprs : (record.fields.map fun field =>
      Expr.entry (.str field.name) (Member.toMapExpr field)) =
        slots.map fun slot => .entry (.str slot.1.field.name) (Member.toMapExpr slot.1.field) := by
    rw [← fields, List.map_map, List.map_map]
    rfl
  rw [withSlots, method_toMap assembled, exprs, eval, run_mapLit,
    runEntries_map slots written]
  simp [checkEntries, Except.bind, Except.map, settle, mapOf_of_nodup keys]

/-- `fromMap` reads the slots back and constructs the instance. -/
theorem factory_fromMap_eq (inverse : ∀ moment, rt.parseDate (rt.iso moment) = some moment)
    (assembled : program record.name = some (ofRecord options record))
    (constructs : calls.construct = program.construct) (regular : Regular record)
    {slots : List (Slot Date × Value Date)}
    (fields : (slots.map Prod.fst).map Slot.field = record.fields)
    (each : ∀ slot ∈ slots, JsonForm rt calls slot.1.field.type slot.1.value slot.2)
    (present : ∀ slot ∈ slots, slot.1.value = .null → slot.1.field.type.nullable = true) :
    program.factory rt calls record.name "fromMap"
        (.map (slots.map fun slot => (slot.1.field.name, slot.2))) =
      .ok (withSlots record (slots.map Prod.fst)) := by
  have member : ∀ slot ∈ slots, slot.1.field ∈ record.fields := fun slot inside =>
    field_mem fields (List.mem_map_of_mem inside)
  generalize forms : (slots.map fun slot => (slot.1.field.name, slot.2)) = entries
  have keys : (entries.map Prod.fst).Nodup := by
    rw [← forms, List.map_map]
    simpa [Function.comp_def] using nodup_names fields
  have free : ∀ name, startsUpper name = true →
      (⟨[("raw", .map entries)], []⟩ : Scope Date).lookup? name = none := by
    intro name nameUpper
    have differ : (name == "raw") = false := by
      apply beq_false_of_ne
      rintro rfl
      exact absurd nameUpper (by decide)
    simp [Scope.lookup?, List.lookup_cons, differ]
  have raw : Reads rt calls ⟨[("raw", .map entries)], []⟩ (.ident "raw") (.map entries) :=
    Reads.ident (by simp [Scope.lookup?]) (by decide)
  have read : ∀ slot ∈ slots,
      eval rt calls ⟨[("raw", .map entries)], []⟩ (Member.fromMapExpr slot.1.field) =
        .ok slot.1.value := by
    intro slot inside
    have found : (entries.lookup slot.1.field.name).getD .null = slot.2 := by
      rw [lookup_of_mem keys (forms ▸ List.mem_map.2 ⟨slot, inside, rfl⟩)]
      rfl
    have indexed := raw.index slot.1.field.name
    rw [found] at indexed
    exact eval_decoded inverse (each slot inside) 0 (regular.formed _ (member slot inside))
      (regular.referencesUpper _ (member slot inside)) free indexed (present slot inside)
  have exprs : record.fields.map Member.fromMapExpr =
      slots.map fun slot => Member.fromMapExpr slot.1.field := by
    rw [← fields, List.map_map, List.map_map]
    rfl
  have fitting : ∀ slot ∈ slots.map Prod.fst, slot.value.isOf slot.field.type.render = true := by
    intro slot inside
    obtain ⟨pair, pairInside, rfl⟩ := List.mem_map.1 inside
    rw [Value.isOf_render (regular.formed _ (member pair pairInside))]
    exact (each pair pairInside).fits
  have built := construct_eq assembled fields fitting
  rw [List.map_map] at built
  rw [factory_fromMap assembled, exprs, Expr.invoke,
    eval_function (plainArgs_runArgs_map slots read),
    callFunction_construct (free _ regular.upper) regular.upper regular.notEntry, constructs]
  exact built

end OneRecord

/-! ## Catalogs -/

/-- The catalogs whose classes can be used together: every record assembles and every
record referred to is there, and the names are what the naming rules ask for. -/
structure Coherent (options : ClassOptions) (catalog : Catalog) : Prop where
  assembles : ∀ record ∈ catalog.records, ∃ decl, assemble options record = .ok decl
  complete : ∀ record ∈ catalog.records, ∀ name ∈ record.references, catalog.contains name = true
  recordNames : ∀ record ∈ catalog.records, startsUpper record.name = true ∧
    Builtin.ofName? record.name = none ∧
    record.name ∉ [Container.list.name, Container.map.name, "MapEntry"]
  fieldNames : Lint.fieldNaming.check catalog.records = []
  noEntryField : ∀ record ∈ catalog.records, ∀ field ∈ record.fields, field.name ≠ "MapEntry"

theorem fault?_of_unsupported? {record : Record} {field : Field}
    (supported : record.unsupported? = none) (member : field ∈ record.fields) :
    field.type.fault? = none := by
  rw [Record.unsupported?, List.findSome?_eq_none_iff] at supported
  have unfaulted := supported field member
  rw [Field.unsupported?, Option.map_eq_none_iff] at unfaulted
  exact unfaulted

/-- Supported types are well formed if the names of records in them are. -/
theorem wellFormed_of_fault? {type : TypeExpr} (supported : type.fault? = none)
    (names : ∀ name ∈ type.recordNames, Text.isIdentifier name.toList = true ∧
      name ≠ Container.list.name ∧ name ≠ Container.map.name) : type.WellFormed := by
  have scalar : ∀ (name : String) (nullable : Bool),
      (∀ record ∈ (TypeExpr.scalar name nullable).recordNames,
        Text.isIdentifier record.toList = true ∧
          record ≠ Container.list.name ∧ record ≠ Container.map.name) →
      (TypeExpr.scalar name nullable).WellFormed := by
    intro name nullable valid
    cases named : Builtin.ofName? name with
    | none =>
      obtain ⟨identifier, notList, notMap⟩ := valid name (by simp [TypeExpr.recordNames, named])
      exact .scalar identifier notList notMap
    | some builtin =>
      obtain rfl : builtin.name = name := by simpa using List.find?_some named
      exact .scalar (by cases builtin <;> decide) (by cases builtin <;> decide)
        (by cases builtin <;> decide)
  fun_induction TypeExpr.fault? type with
  | case1 name nullable => exact scalar name nullable names
  | case2 element nullable ih => exact .list (ih supported names)
  | case3 key value nullable isKey ih =>
    rw [TypeExpr.recordNames] at names
    refine .map ?_ (ih supported fun name member => names name (by simp [member]))
    cases key with
    | scalar name nullable =>
      exact scalar name nullable fun record member => names record (by simp [member])
    | list element nullable => simp [TypeExpr.isKey, TypeExpr.builtin?] at isKey
    | map key value nullable => simp [TypeExpr.isKey, TypeExpr.builtin?] at isKey
    | generic name args nullable => simp [TypeExpr.isKey, TypeExpr.builtin?] at isKey
  | case4 key value nullable notKey => cases supported
  | case5 name args nullable => cases supported

namespace Coherent

variable {options : ClassOptions} {catalog : Catalog} {record : Record}

theorem program_eq (coherent : Coherent options catalog) (member : record ∈ catalog.records) :
    catalog.program options record.name = some (ofRecord options record) := by
  obtain ⟨entry, entryMember, rfl⟩ := List.mem_map.1 member
  obtain ⟨decl, assembles⟩ := coherent.assembles entry.record member
  obtain ⟨-, rfl⟩ := ofRecord_of_assemble assembles
  rw [Catalog.program, Catalog.get?_of_mem entryMember]
  simp only [Option.bind_some, assembles]
  rfl

theorem supported (coherent : Coherent options catalog) (member : record ∈ catalog.records)
    {field : Field} (fieldMember : field ∈ record.fields) : field.type.fault? = none := by
  obtain ⟨decl, assembles⟩ := coherent.assembles record member
  exact fault?_of_unsupported? (ofRecord_of_assemble assembles).1 fieldMember

/-- A record that a field refers to is one of the catalog. -/
theorem exists_referenced (coherent : Coherent options catalog)
    (member : record ∈ catalog.records) {field : Field} (fieldMember : field ∈ record.fields)
    {name : String} (referenced : name ∈ field.type.recordNames) :
    ∃ target ∈ catalog.records, target.name = name := by
  have listed : name ∈ record.references := by
    rw [Record.references, mem_distinct, List.mem_flatMap]
    exact ⟨field, fieldMember, mem_distinct.2 referenced⟩
  have present := coherent.complete record member name listed
  rw [Catalog.contains, Option.isSome_iff_exists] at present
  obtain ⟨entry, found⟩ := present
  rw [Catalog.get?] at found
  exact ⟨entry.record, List.mem_map_of_mem (List.mem_of_find?_eq_some found),
    by simpa using List.find?_some found⟩

theorem not_reserved (coherent : Coherent options catalog) (member : record ∈ catalog.records)
    {field : Field} (fieldMember : field ∈ record.fields) :
    field.name ∉ Lint.reservedWords := by
  have clean := coherent.fieldNames
  simp only [Lint.check, Lint.checkName, List.nil_append, List.flatMap_eq_nil_iff] at clean
  have passed := clean record member field fieldMember
  intro reserved
  simp [Lint.checkField, Lint.namingFault?, reserved] at passed

theorem regular (coherent : Coherent options catalog) (member : record ∈ catalog.records) :
    Regular record where
  upper := (coherent.recordNames record member).1
  notEntry same := (coherent.recordNames record member).2.2 (by simp [same])
  nameFree field fieldMember := by
    refine ⟨?_, coherent.noEntryField record member field fieldMember⟩
    intro same
    exact coherent.not_reserved member fieldMember (same ▸ by decide)
  formed field fieldMember := by
    apply wellFormed_of_fault? (coherent.supported member fieldMember)
    intro name referenced
    obtain ⟨target, targetMember, rfl⟩ :=
      coherent.exists_referenced member fieldMember referenced
    have named := (coherent.recordNames target targetMember).2.2
    simp only [List.mem_cons, List.not_mem_nil, or_false, not_or] at named
    exact ⟨target.name_valid, named.1, named.2.1⟩
  referencesUpper field fieldMember name referenced := by
    obtain ⟨target, targetMember, rfl⟩ :=
      coherent.exists_referenced member fieldMember referenced
    exact (coherent.recordNames target targetMember).1

end Coherent

/-! ## Every value of a type has a form -/

/-- The values of a type. A null stands only where the type says so, but `dynamic` has
all values, so within a container it may be null; a field is never null like this. -/
inductive Inhabits (catalog : Catalog) : TypeExpr → Value Date → Prop where
  | null {type : TypeExpr} (nullable : type.nullable = true) : Inhabits catalog type .null
  | builtin {name : String} {nullable : Bool} {builtin : Builtin} {value : Value Date}
      (named : Builtin.ofName? name = some builtin) (ofType : value.ofBuiltin builtin = true) :
      Inhabits catalog (.scalar name nullable) value
  | list {element : TypeExpr} {nullable : Bool} {items : List (Value Date)}
      (each : ∀ item ∈ items, Inhabits catalog element item) :
      Inhabits catalog (.list element nullable) (.list items)
  | map {key inner : TypeExpr} {nullable : Bool} {entries : List (String × Value Date)}
      (distinct : (entries.map Prod.fst).Nodup)
      (each : ∀ entry ∈ entries, Inhabits catalog inner entry.2) :
      Inhabits catalog (.map key inner nullable) (.map entries)
  | record {record : Record} {nullable : Bool} {slots : List (Slot Date)}
      (member : record ∈ catalog.records) (fields : slots.map Slot.field = record.fields)
      (each : ∀ slot ∈ slots, Inhabits catalog slot.field.type slot.value)
      (present : ∀ slot ∈ slots, slot.value = .null → slot.field.type.nullable = true) :
      Inhabits catalog (.scalar record.name nullable) (withSlots record slots)

/-- Results that are each there from some depth on are all there from one depth on. -/
theorem exists_common_depth {α β : Type} {P : Nat → α → β → Prop} (items : List α)
    (each : ∀ item ∈ items, ∃ result depth, ∀ n, depth ≤ n → P n item result) :
    ∃ (pairs : List (α × β)) (depth : Nat), pairs.map Prod.fst = items ∧
      ∀ n, depth ≤ n → ∀ pair ∈ pairs, P n pair.1 pair.2 := by
  induction items with
  | nil => exact ⟨[], 0, rfl, by simp⟩
  | cons item rest ih =>
    obtain ⟨result, depth, holds⟩ := each item (by simp)
    obtain ⟨pairs, others, rfl, restHold⟩ := ih fun later member => each later (by simp [member])
    refine ⟨(item, result) :: pairs, max depth others, rfl, ?_⟩
    intro n deep pair member
    rcases List.mem_cons.1 member with rfl | later
    · exact holds n (by omega)
    · exact restHold n (by omega) pair later

theorem callees_construct (program : Program) (rt : Runtime Date) (depth : Nat) :
    (program.callees rt depth).construct = program.construct := by
  cases depth <;> rfl

section Catalogs

variable {rt : Runtime Date} {options : ClassOptions} {catalog : Catalog}

/-- An instance is written and read one call deeper than its slots. -/
theorem toMap_and_fromMap_eq (inverse : ∀ moment, rt.parseDate (rt.iso moment) = some moment)
    (coherent : Coherent options catalog) {record : Record} (member : record ∈ catalog.records)
    {slots : List (Slot Date × Value Date)}
    (fields : (slots.map Prod.fst).map Slot.field = record.fields)
    (present : ∀ slot ∈ slots, slot.1.value = .null → slot.1.field.type.nullable = true)
    {depth : Nat}
    (each : ∀ slot ∈ slots, JsonForm rt ((catalog.program options).callees rt depth)
      slot.1.field.type slot.1.value slot.2) :
    ((catalog.program options).callees rt (depth + 1)).method "toMap"
        (withSlots record (slots.map Prod.fst)) =
          .ok (.map (slots.map fun slot => (slot.1.field.name, slot.2))) ∧
      ((catalog.program options).callees rt (depth + 1)).factory record.name "fromMap"
        (.map (slots.map fun slot => (slot.1.field.name, slot.2))) =
          .ok (withSlots record (slots.map Prod.fst)) := by
  have assembled := coherent.program_eq member
  have regular := coherent.regular member
  constructor
  · exact method_toMap_eq assembled fields regular each
  · exact factory_fromMap_eq inverse assembled (callees_construct _ rt depth) regular fields each
      present

theorem exists_jsonForm (inverse : ∀ moment, rt.parseDate (rt.iso moment) = some moment)
    (coherent : Coherent options catalog) {type : TypeExpr} {value : Value Date}
    (inhabits : Inhabits catalog type value) (supported : type.fault? = none) :
    ∃ form depth, ∀ n, depth ≤ n →
      JsonForm rt ((catalog.program options).callees rt n) type value form := by
  induction inhabits with
  | null nullable => exact ⟨.null, 0, fun n _ => .null nullable⟩
  | @builtin name nullable builtin value named ofType =>
    cases converted : builtin.needsConversion with
    | false => exact ⟨value, 0, fun n _ => .plain named converted ofType⟩
    | true =>
      obtain rfl : builtin = .dateTime := by cases builtin <;> first | rfl | cases converted
      cases value with
      | date moment => exact ⟨.str (rt.iso moment), 0, fun n _ => .date named⟩
      | _ => cases ofType
  | @list element nullable items each ih =>
    obtain ⟨pairs, depth, rfl, related⟩ :=
      exists_common_depth items fun item member => ih item member supported
    exact ⟨.list (pairs.map fun pair => pair.2), depth, fun n deep => .list pairs (related n deep)⟩
  | @map key inner nullable entries distinct each ih =>
    rw [TypeExpr.fault?] at supported
    split at supported
    · next isKey =>
      obtain ⟨pairs, depth, rfl, related⟩ :=
        exists_common_depth entries fun entry member => ih entry member supported
      refine ⟨.map (pairs.map fun pair => (pair.1.1, pair.2)), depth, fun n deep => ?_⟩
      have inner : ∀ entry ∈ pairs.map fun pair => (pair.1.1, pair.1.2, pair.2),
          JsonForm rt ((catalog.program options).callees rt n) inner entry.2.1 entry.2.2 := by
        intro entry member
        obtain ⟨pair, pairMember, rfl⟩ := List.mem_map.1 member
        exact related n deep pair pairMember
      have whole : JsonForm rt _ (.map key _ nullable) _ _ :=
        .map _ isKey (by simpa [Function.comp_def] using distinct) inner
      simpa [Function.comp_def] using whole
    · cases supported
  | @record record nullable slots member fields each present ih =>
    obtain ⟨pairs, depth, rfl, related⟩ := exists_common_depth slots fun slot slotMember =>
      ih slot slotMember (coherent.supported member (field_mem fields slotMember))
    refine ⟨.map (pairs.map fun pair => (pair.1.field.name, pair.2)), depth + 1, ?_⟩
    intro n deep
    obtain ⟨below, rfl⟩ : ∃ below, n = below + 1 := ⟨n - 1, by omega⟩
    obtain ⟨written, read⟩ := toMap_and_fromMap_eq inverse coherent member fields
      (fun pair pairMember => present pair.1 (List.mem_map_of_mem pairMember))
      (related below (by omega))
    exact .record (coherent.recordNames record member).2.1 written read

/-- **What a generated class writes, it reads back.** In a coherent catalog, `toMap` of
an instance whose fields hold values of their types gives a map, and `fromMap` of this
map gives the instance, from some depth of calls on. -/
theorem fromMap_toMap (inverse : ∀ moment, rt.parseDate (rt.iso moment) = some moment)
    (coherent : Coherent options catalog) {record : Record} (member : record ∈ catalog.records)
    {slots : List (Slot Date)} (fields : slots.map Slot.field = record.fields)
    (inhabits : ∀ slot ∈ slots, Inhabits catalog slot.field.type slot.value)
    (present : ∀ slot ∈ slots, slot.value = .null → slot.field.type.nullable = true) :
    ∃ raw depth, ∀ n, depth ≤ n →
      ((catalog.program options).callees rt n).method "toMap" (withSlots record slots) =
          .ok (.map raw) ∧
        ((catalog.program options).callees rt n).factory record.name "fromMap" (.map raw) =
          .ok (withSlots record slots) := by
  obtain ⟨pairs, depth, rfl, related⟩ := exists_common_depth slots fun slot slotMember =>
    exists_jsonForm inverse coherent (inhabits slot slotMember)
      (coherent.supported member (field_mem fields slotMember))
  refine ⟨pairs.map fun pair => (pair.1.field.name, pair.2), depth + 1, fun n deep => ?_⟩
  obtain ⟨below, rfl⟩ : ∃ below, n = below + 1 := ⟨n - 1, by omega⟩
  exact toMap_and_fromMap_eq inverse coherent member fields
    (fun pair pairMember => present pair.1 (List.mem_map_of_mem pairMember))
    (related below (by omega))

end Catalogs

/-! A schema in which records, dates, containers and nulls meet: the rows of a grid hold
items, which hold items again. -/

/-- `Item next?`, `int count` -/
def item : Record :=
  ⟨"Item", [⟨"next", .scalar "Item" true, Eq.refl true⟩,
    ⟨"count", .scalar "int" false, Eq.refl true⟩], Eq.refl true, by decide, by decide⟩

/-- `Map<String, List<Item?>>? rows`, `List<Map<String, DateTime>> stamps`,
`List<dynamic> extras` -/
def grid : Record :=
  ⟨"Grid",
    [⟨"rows", .map (.scalar "String" false) (.list (.scalar "Item" true) false) true, by decide⟩,
      ⟨"stamps", .list (.map (.scalar "String" false) (.scalar "DateTime" false) false) false,
        by decide⟩,
      ⟨"extras", .list (.scalar "dynamic" false) false, by decide⟩],
    by decide, by decide, by decide⟩

def itemsAndGrids : Catalog :=
  ⟨[⟨"grids", "grids.toml", item⟩, ⟨"grids", "grids.toml", grid⟩], by decide⟩

theorem coherent_itemsAndGrids : Coherent {} itemsAndGrids where
  assembles := by
    intro record member
    simp only [itemsAndGrids, Catalog.records, List.map_cons, List.map_nil, List.mem_cons,
      List.not_mem_nil, or_false] at member
    rcases member with rfl | rfl
    · exact ⟨_, rfl⟩
    · exact ⟨_, rfl⟩
  complete := by decide
  recordNames := by decide
  fieldNames := by decide
  noEntryField := by decide

/-- A library that knows two dates. -/
def twoDates : Runtime Bool where
  same _ _ := false
  identical _ _ := false
  hashCode _ := 0
  hash _ := 0
  hashAll _ := 0
  hashAllUnordered _ := 0
  iso late := if late then "2000-01-01T00:00:00.000Z" else "1970-01-01T00:00:00.000Z"
  parseDate text :=
    if text = "2000-01-01T00:00:00.000Z" then some true
    else if text = "1970-01-01T00:00:00.000Z" then some false
    else none

/-- The slots of an item with this item behind it. -/
def itemSlots (next : Value Bool) (count : Int) : List (Slot Bool) :=
  [⟨⟨"next", .scalar "Item" true, Eq.refl true⟩, next⟩,
    ⟨⟨"count", .scalar "int" false, Eq.refl true⟩, .int count⟩]

theorem inhabits_item {next : Value Bool} (count : Int) {nullable : Bool}
    (inhabits : Inhabits itemsAndGrids (.scalar "Item" true) next) :
    Inhabits itemsAndGrids (.scalar "Item" nullable) (withSlots item (itemSlots next count)) := by
  have member : item ∈ itemsAndGrids.records := by simp [itemsAndGrids, Catalog.records]
  refine .record member rfl ?_ (by simp [itemSlots, TypeExpr.nullable])
  rw [itemSlots, List.forall_mem_cons, List.forall_mem_singleton]
  exact ⟨inhabits, .builtin rfl rfl⟩

/-- The slots of a grid with one row of a null and two chained items, one date and two
values of any type. -/
def gridSlots : List (Slot Bool) :=
  [⟨⟨"rows", .map (.scalar "String" false) (.list (.scalar "Item" true) false) true, by decide⟩,
      .map [("first", .list [.null,
        withSlots item (itemSlots (withSlots item (itemSlots .null 2)) 1)]), ("empty", .list [])]⟩,
    ⟨⟨"stamps", .list (.map (.scalar "String" false) (.scalar "DateTime" false) false) false,
      by decide⟩, .list [.map [("opened", .date true)]]⟩,
    ⟨⟨"extras", .list (.scalar "dynamic" false) false, by decide⟩,
      .list [.null, .double 4607182418800017408]⟩]

theorem fromMap_toMap_grid :
    ∃ raw depth, ∀ n, depth ≤ n →
      ((itemsAndGrids.program {}).callees twoDates n).method "toMap" (withSlots grid gridSlots) =
          .ok (.map raw) ∧
        ((itemsAndGrids.program {}).callees twoDates n).factory "Grid" "fromMap" (.map raw) =
          .ok (withSlots grid gridSlots) := by
  have member : grid ∈ itemsAndGrids.records := by simp [itemsAndGrids, Catalog.records]
  refine fromMap_toMap (by decide) coherent_itemsAndGrids member rfl ?_ (by simp [gridSlots])
  rw [gridSlots, List.forall_mem_cons, List.forall_mem_cons, List.forall_mem_singleton]
  refine ⟨.map (by decide) ?_, .list ?_, .list ?_⟩
  · rw [List.forall_mem_cons, List.forall_mem_singleton]
    refine ⟨.list ?_, .list (by simp)⟩
    rw [List.forall_mem_cons, List.forall_mem_singleton]
    exact ⟨.null rfl, inhabits_item 1 (inhabits_item 2 (.null rfl))⟩
  · rw [List.forall_mem_singleton]
    refine .map (by decide) ?_
    rw [List.forall_mem_singleton]
    exact .builtin rfl rfl
  · rw [List.forall_mem_cons, List.forall_mem_singleton]
    exact ⟨.builtin rfl rfl, .builtin rfl rfl⟩

end Recordsmith.Class
