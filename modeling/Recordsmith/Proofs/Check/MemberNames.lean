/-
# Recordsmith.Proofs.Check.MemberNames — the naming rule keeps members apart

A class has a member for each field of its record, and members that do not come from
fields (`Class.fixedNames`). Which of these there are depends on the options, while the
rule on field names has one list for all options. The list covers every member that an
identifier could clash with (`mem_memberNames`); what it leaves out is `operator ==`,
which is no identifier.

So a record with no finding of the rule has a class whose members have distinct names,
and the rule reports no other fields than those of the three kinds that it looks for,
each of them once (`fieldNaming_apart`).
-/
import Recordsmith.Proofs.Check.ClassNames
import Recordsmith.Proofs.Class.Members

namespace Recordsmith

set_option autoImplicit false

namespace Lint

/-- What the rule on field names looks for. -/
def Misnamed (record : Record) (field : Field) : Prop :=
  field.name ∈ reservedWords ∨ field.name ∈ memberNames ∨ field.name = record.name

instance (record : Record) (field : Field) : Decidable (Misnamed record field) :=
  inferInstanceAs (Decidable (_ ∨ _ ∨ _))

/-! ## The findings -/

theorem isSome_namingFault? (record : Record) (field : Field) :
    (namingFault? record field).isSome = decide (Misnamed record field) := by
  rw [Bool.eq_iff_iff, decide_eq_true_eq, Option.isSome_iff_ne_none, ne_eq,
    namingFault?_eq_none_iff]
  simp only [Misnamed, not_and_or, not_not]

/-- A misnamed field has one finding, at its place. -/
theorem locations_checkField (known : List String) (record : Record) (field : Field) :
    (checkField known record field .fieldNaming).map Diagnostic.location =
      if Misnamed record field then [some (place record field)] else [] := by
  have found := isSome_namingFault? record field
  rw [checkField]
  cases fault : namingFault? record field with
  | none =>
    rw [fault, Option.isSome_none, eq_comm, decide_eq_false_iff_not] at found
    rw [if_neg found]
    rfl
  | some message =>
    rw [fault, Option.isSome_some, eq_comm, decide_eq_true_eq] at found
    rw [if_pos found]
    rfl

theorem locations_fieldNaming (records : List Record) :
    (fieldNaming.check records).map Diagnostic.location =
      records.flatMap fun record =>
        (record.fields.filter (Misnamed record ·)).map fun field => some (place record field) := by
  have each : ∀ (known : List String) (record : Record) (fields : List Field),
      (fields.flatMap fun field => checkField known record field .fieldNaming).map
          Diagnostic.location =
        (fields.filter (Misnamed record ·)).map fun field => some (place record field) := by
    intro known record fields
    induction fields with
    | nil => rfl
    | cons field rest ih =>
      rw [List.flatMap_cons, List.map_append, locations_checkField, ih, List.filter_cons]
      by_cases misnamed : Misnamed record field <;> simp [misnamed]
  rw [check, List.map_flatMap]
  congr 1
  funext record
  exact each _ record record.fields

/-- A record with no finding has no misnamed field. -/
theorem not_misnamed_of_unreported {records : List Record} {record : Record}
    (member : record ∈ records)
    (unreported : ∀ finding ∈ fieldNaming.check records, finding.concerns record = false) :
    ∀ field ∈ record.fields, ¬ Misnamed record field := by
  intro field fieldMember misnamed
  have located : some (place record field) ∈
      (fieldNaming.check records).map Diagnostic.location := by
    rw [locations_fieldNaming, List.mem_flatMap]
    refine ⟨record, member, List.mem_map.2 ⟨field, ?_, rfl⟩⟩
    exact List.mem_filter.2 ⟨fieldMember, decide_eq_true misnamed⟩
  obtain ⟨finding, found, same⟩ := List.mem_map.1 located
  have silent := List.any_eq_false.1 (unreported finding found) field fieldMember
  exact silent (beq_iff_eq.2 same)

/-! ## The members -/

/-- The list of the rule covers the members of every class that an identifier can clash with. -/
theorem mem_memberNames {options : ClassOptions} {name : String}
    (valid : Text.isIdentifier name.toList = true) (fixed : name ∈ Class.fixedNames options) :
    name ∈ memberNames := by
  have covered : ∀ word ∈ Class.fixedNames options,
      word ∈ memberNames ∨ Text.isIdentifier word.toList = false := by
    obtain ⟨accessors, valueSemantics⟩ := options
    cases accessors <;> cases valueSemantics <;> decide
  rcases covered name fixed with listed | invalid
  · exact listed
  · rw [valid] at invalid
    cases invalid

theorem nodup_fixedNames (options : ClassOptions) : (Class.fixedNames options).Nodup := by
  obtain ⟨accessors, valueSemantics⟩ := options
  cases accessors <;> cases valueSemantics <;> decide

theorem nodup_members {record : Record} (named : ∀ field ∈ record.fields, ¬ Misnamed record field)
    (options : ClassOptions) :
    (record.fields.map Field.name ++ Class.fixedNames options).Nodup := by
  refine record.names_nodup.append (nodup_fixedNames options) ?_
  rintro name declared fixed
  obtain ⟨field, member, rfl⟩ := List.mem_map.1 declared
  exact named field member (.inr (.inl (mem_memberNames field.name_valid fixed)))

/-- **The naming rule keeps members apart.** Its findings are errors at the misnamed fields, one
for each of them, in the order of the records and their fields. If there is none about a record,
then under all options its class declares a member for each field and the fixed ones, all of
distinct names, and no field has a reserved word or the name of the class for its name. -/
theorem fieldNaming_apart (records : List Record) :
    ((fieldNaming.check records).map Diagnostic.location =
        records.flatMap fun record =>
          (record.fields.filter (Misnamed record ·)).map fun field =>
            some (place record field)) ∧
    (∀ finding ∈ fieldNaming.check records,
      finding.lint = "field-naming" ∧ finding.isError = true) ∧
    ∀ record ∈ records,
      (∀ finding ∈ fieldNaming.check records, finding.concerns record = false) →
      ∀ options decl, Class.assemble options record = .ok decl →
        decl.declaredNames = record.fields.map Field.name ++ Class.fixedNames options ∧
        decl.declaredNames.Nodup ∧
        ∀ field ∈ record.fields, field.name ∉ reservedWords ∧ field.name ≠ record.name := by
  refine ⟨locations_fieldNaming records, fun finding found => of_mem_check found, ?_⟩
  intro record member unreported options decl assembled
  have named := not_misnamed_of_unreported member unreported
  obtain ⟨-, rfl⟩ := Class.ofRecord_of_assemble assembled
  rw [Class.declaredNames_ofRecord]
  refine ⟨rfl, nodup_members named options, fun field fieldMember => ?_⟩
  exact ⟨fun reserved => named field fieldMember (.inl reserved),
    fun same => named field fieldMember (.inr (.inr same))⟩

/-- `int berth`, `List<String>? copies` -/
def harbor : Record :=
  ⟨"Harbor", [⟨"berth", .scalar "int" false, by decide⟩,
    ⟨"copies", .list (.scalar "String" false) true, by decide⟩], by decide, by decide, by decide⟩

/-- `int copy`, `int Pier`, `int berth` -/
def pier : Record :=
  ⟨"Pier", [⟨"copy", .scalar "int" false, Eq.refl true⟩,
    ⟨"Pier", .scalar "int" false, by decide⟩, ⟨"berth", .scalar "int" false, by decide⟩],
    by decide, by decide, by decide⟩

/-- The findings about the second record do not concern the first one. -/
theorem fieldNaming_apart_harbor :
    (fieldNaming.check [harbor, pier]).map Diagnostic.location =
        [some "Pier.copy", some "Pier.Pier"] ∧
    (∀ finding ∈ fieldNaming.check [harbor, pier], finding.concerns harbor = false) ∧
    ∃ decl, Class.assemble ⟨true, true⟩ harbor = .ok decl ∧ decl.declaredNames.Nodup ∧
      "copies" ∈ decl.declaredNames ∧ "copy" ∈ decl.declaredNames := by
  obtain ⟨located, -, apart⟩ := fieldNaming_apart [harbor, pier]
  have unreported : ∀ finding ∈ fieldNaming.check [harbor, pier],
      finding.concerns harbor = false := by decide
  obtain ⟨names, nodup, -⟩ := apart harbor List.mem_cons_self unreported ⟨true, true⟩ _ rfl
  refine ⟨located, unreported, _, rfl, nodup, ?_, ?_⟩
  · rw [names]
    decide
  · rw [names]
    decide

end Lint

end Recordsmith
