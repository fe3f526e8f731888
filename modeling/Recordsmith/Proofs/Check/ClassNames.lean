/-
# Recordsmith.Proofs.Check.ClassNames — record names that make no good class

A record's name becomes the name of a class and is written in types to refer to
the record. Three kinds of names do not do for both: reserved words, names of
members that the class declares (`Expr.declaredNames`), and the words that types
already use, the builtins and containers (`TypeWord`). A record with none of them
is *usable*.

A check holds names of fields to such rules, and reports an error, but not those
of records: that a record is not in UpperCamelCase is only worth a warning. So a
valid catalog may have records that are not usable (`valid_misnamed`). What a
check does say of them is in `name_of_valid`: no field has the name of its record,
and a name without a warning can only be one of five words of types. The name is
read as a reference to the record unless it is such a word
(`TypeExpr.refersTo_self_iff`).
-/
import Recordsmith.Proofs.Dart.Program
import Recordsmith.Proofs.Generator.References
import Recordsmith.Proofs.TypeExpr.Canonical

namespace Recordsmith

open Recordsmith.Dart

set_option autoImplicit false

namespace Dart.Expr

/-- The name of a field, getter or method. Constructors and factories have no result type and
declare no member. -/
def declaredName? : Expr → Option String
  | .declaration _ _ name | .initialised _ _ name _ | .getter _ _ name => some name
  | .signature _ (some _) name _ => some name
  | .arrow head _ | .block head _ | .annotated _ head => declaredName? head
  | _ => none

/-- The names of the members that a class declares. -/
def declaredNames (type : Expr) : List String :=
  type.members.filterMap declaredName?

end Dart.Expr

/-- A name that types use for something else than records. -/
def TypeWord (name : String) : Prop :=
  (∃ builtin : Builtin, builtin.name = name) ∨ ∃ container : Container, container.name = name

/-- The text of a type is read as a reference to one record. -/
def TypeExpr.RefersTo (text name : String) : Prop :=
  ∃ type, parse text = .ok type ∧ type.isExtension = true ∧ type.references = [name]

/-- The name of a record does as the name of its class and in types. -/
structure Record.Usable (record : Record) : Prop where
  unreserved : record.name ∉ Lint.reservedWords
  undeclared : ∀ options decl, Class.assemble options record = .ok decl →
    record.name ∉ decl.declaredNames
  noTypeWord : ¬ TypeWord record.name
  reference : TypeExpr.RefersTo record.name record.name

/-! ## Names in types -/

namespace TypeExpr

/-- Well-formed types mention no words of types. -/
theorem Mentions.not_typeWord {name : String} {type : TypeExpr} (mentions : Mentions name type)
    (formed : WellFormed type) : ¬ TypeWord name := by
  induction mentions with
  | scalar custom =>
    cases formed with
    | scalar valid notList notMap =>
      rintro (⟨builtin, same⟩ | ⟨container, same⟩)
      · exact custom builtin same
      · cases container with
        | list => exact notList same.symm
        | map => exact notMap same.symm
  | within among inner ih =>
    apply ih
    cases formed with
    | scalar => cases among
    | list element =>
      rw [List.mem_singleton.1 among]
      exact element
    | map key value =>
      simp only [args, List.mem_cons, List.not_mem_nil, or_false] at among
      rcases among with rfl | rfl
      · exact key
      · exact value
    | generic valid notList notMap nonempty each => exact each _ among

/-- An identifier is read as a reference to the record of this name unless it is a word of types. -/
theorem refersTo_self_iff {name : String} (valid : Text.isIdentifier name.toList = true) :
    RefersTo name name ↔ ¬ TypeWord name := by
  constructor
  · rintro ⟨type, read, -, refers⟩
    have mentions : Mentions name type := by
      rw [← mem_recordNames_iff, ← mem_distinct, ← references, refers]
      exact List.mem_singleton_self name
    exact mentions.not_typeWord (wellFormed_of_parse read)
  · intro free
    have custom : Builtin.ofName? name = none :=
      Builtin.ofName?_eq_none_iff.2 fun builtin same => free (.inl ⟨builtin, same⟩)
    have formed : WellFormed (.scalar name false) :=
      .scalar valid (fun same => free (.inr ⟨.list, same.symm⟩))
        fun same => free (.inr ⟨.map, same.symm⟩)
    have read : parse name = .ok (.scalar name false) := by
      have written := parse_render formed
      rwa [render, nullMark, if_neg (by decide), String.append_empty] at written
    refine ⟨_, read, ?_, ?_⟩
    · simp [isExtension, custom]
    · simp [references, recordNames, custom, distinct]

end TypeExpr

/-! ## Names of members -/

namespace Class

/-- The names of members that do not come from fields. -/
def fixedNames (options : ClassOptions) : List String :=
  ["toMap"] ++ (if options.accessors then ["fields", "getAttr", "setAttr"] else []) ++
    if options.valueSemantics then ["operator ==", "hashCode", "copy"] else []

theorem declaredNames_ofRecord (options : ClassOptions) (record : Record) :
    (ofRecord options record).declaredNames =
      record.fields.map Field.name ++ fixedNames options := by
  have fields : (declarations record).filterMap Expr.declaredName? =
      record.fields.map Field.name := by
    rw [declarations, List.filterMap_map]
    exact congrFun (List.filterMap_eq_map (f := Field.name)) record.fields
  have core : (coreMembers record).filterMap Expr.declaredName? =
      record.fields.map Field.name ++ ["toMap"] := by
    rw [coreMembers, List.filterMap_append, fields]
    rfl
  rw [Expr.declaredNames, ofRecord, Expr.members, members, List.filterMap_append,
    List.filterMap_append, core, fixedNames]
  cases options.accessors <;> cases options.valueSemantics <;> simp <;> rfl

end Class

/-! ## Names in UpperCamelCase -/

namespace Lint

theorem not_mem_reservedWords {name : String} (camel : isUpperCamelCase name.toList = true) :
    name ∉ reservedWords := by
  have none : ∀ word ∈ reservedWords, isUpperCamelCase word.toList = false := by decide
  intro reserved
  rw [none name reserved] at camel
  cases camel

theorem not_mem_fixedNames {name : String} (camel : isUpperCamelCase name.toList = true)
    (options : ClassOptions) : name ∉ Class.fixedNames options := by
  have none : ∀ word ∈ Class.fixedNames options, isUpperCamelCase word.toList = false := by
    obtain ⟨accessors, valueSemantics⟩ := options
    cases accessors <;> cases valueSemantics <;> decide
  intro fixed
  rw [none name fixed] at camel
  cases camel

theorem mem_of_typeWord {name : String} (camel : isUpperCamelCase name.toList = true)
    (word : TypeWord name) : name ∈ ["String", "DateTime", "Object", "List", "Map"] := by
  rcases word with ⟨builtin, rfl⟩ | ⟨container, rfl⟩
  · cases builtin with
    | string | dateTime | object => decide
    | int | double | num | bool | dynamic => cases camel
  · cases container <;> decide

end Lint

namespace Catalog

variable {catalog : Catalog} {record : Record}

/-- Whether a check warns of the name of a record. -/
def warnsOfName (catalog : Catalog) (record : Record) : Bool :=
  catalog.check.diagnostics.any fun diagnostic =>
    diagnostic.lint == Lint.recordNaming.name && diagnostic.location == some record.name

theorem isUpperCamelCase_of_unwarned (member : record ∈ catalog.records)
    (unwarned : catalog.warnsOfName record = false) :
    Lint.isUpperCamelCase record.name.toList = true := by
  by_contra other
  rw [Bool.not_eq_true] at other
  obtain ⟨warning, found, located⟩ : ∃ warning ∈ Lint.checkName record .recordNaming,
      warning.location = some record.name := by
    rw [Lint.checkName, other]
    exact ⟨_, List.mem_singleton_self _, rfl⟩
  have reported : warning ∈ Lint.recordNaming.check catalog.records :=
    List.mem_flatMap.2 ⟨record, member, List.mem_append_left _ found⟩
  have among : warning ∈ catalog.check.diagnostics :=
    List.mem_append_left _ (List.mem_flatMap.2 ⟨.recordNaming, by decide, reported⟩)
  have silent := List.any_eq_false.1 unwarned warning among
  simp [(Lint.of_mem_check reported).1, located] at silent

/-- What a check without errors says about the name of a record. No field of the record has it. If
the check does not warn of it, it is no reserved word and no member that the class declares, and
of the words of types it can only be one of five. It is read as a reference to the record unless it
is a word of types. -/
theorem name_of_valid (valid : catalog.check.isValid = true) (member : record ∈ catalog.records) :
    (∀ field ∈ record.fields, field.name ≠ record.name) ∧
    (catalog.warnsOfName record = false →
      record.name ∉ Lint.reservedWords ∧
      (∀ options, ∃ decl, Class.assemble options record = .ok decl ∧
        record.name ∉ decl.declaredNames) ∧
      (TypeWord record.name → record.name ∈ ["String", "DateTime", "Object", "List", "Map"])) ∧
    (TypeExpr.RefersTo record.name record.name ↔ ¬ TypeWord record.name) := by
  obtain ⟨named, supported⟩ := isValid_check_iff.1 valid
  have apart : ∀ field ∈ record.fields, field.name ≠ record.name := fun field fieldMember =>
    (Lint.namingFault?_eq_none_iff.1
      (Lint.fieldNaming_check_eq_nil_iff.1 named record member field fieldMember)).2.2
  refine ⟨apart, fun unwarned => ?_, TypeExpr.refersTo_self_iff record.name_valid⟩
  have camel := isUpperCamelCase_of_unwarned member unwarned
  refine ⟨Lint.not_mem_reservedWords camel, fun options => ?_, Lint.mem_of_typeWord camel⟩
  have fit : record.unsupported? = none :=
    Option.isNone_iff_eq_none.1 (codegen_check_eq_nil_iff.1 supported record member)
  refine ⟨Class.ofRecord options record, by rw [Class.assemble_eq, fit, Option.elim_none], ?_⟩
  rw [Class.declaredNames_ofRecord, List.mem_append, List.mem_map]
  rintro (⟨field, fieldMember, same⟩ | fixed)
  · exact apart field fieldMember same
  · exact Lint.not_mem_fixedNames camel options fixed

/-- `int stand` -/
def kiosk : Record :=
  ⟨"Kiosk", [⟨"stand", .scalar "int" false, by decide⟩], by decide, by decide, by decide⟩

def kiosks : Catalog :=
  ⟨[⟨"kiosks", "kiosks.json", kiosk⟩], by decide⟩

theorem name_of_valid_kiosk :
    kiosks.check.isValid = true ∧ kiosks.warnsOfName kiosk = false ∧
    (∀ field ∈ kiosk.fields, field.name ≠ "Kiosk") ∧
    (∃ decl, Class.assemble ⟨true, true⟩ kiosk = .ok decl ∧ "Kiosk" ∉ decl.declaredNames) ∧
    (TypeExpr.RefersTo "Kiosk" "Kiosk" ↔ ¬ TypeWord "Kiosk") := by
  have valid : kiosks.check.isValid = true := by decide
  have unwarned : kiosks.warnsOfName kiosk = false := by decide
  obtain ⟨apart, fit, refers⟩ := name_of_valid valid (List.mem_singleton_self kiosk)
  exact ⟨valid, unwarned, apart, (fit unwarned).2.1 ⟨true, true⟩, refers⟩

/-- A record of this name with the field `int wingspan`. -/
def winged (name : String) (valid : Text.isIdentifier name.toList = true) : Record :=
  ⟨name, [⟨"wingspan", .scalar "int" false, by decide⟩], valid, List.cons_ne_nil _ _,
    List.nodup_singleton _⟩

/-- A reserved word, a member and two words of types, one of them in UpperCamelCase. -/
def misnamed : Catalog :=
  ⟨[⟨"odd", "odd.json", winged "class" (by decide)⟩,
    ⟨"odd", "odd.json", winged "copy" (by decide)⟩,
    ⟨"odd", "odd.json", winged "int" (by decide)⟩,
    ⟨"odd", "odd.json", winged "String" (by decide)⟩], by decide⟩

/-- A check without errors does not make records usable. -/
theorem valid_misnamed :
    misnamed.check.isValid = true ∧ ∀ record ∈ misnamed.records, ¬ record.Usable := by
  refine ⟨by decide, ?_⟩
  intro record member usable
  simp only [misnamed, records, List.map_cons, List.map_nil, List.mem_cons, List.not_mem_nil,
    or_false] at member
  rcases member with rfl | rfl | rfl | rfl
  · exact usable.unreserved (by decide)
  · exact usable.undeclared ⟨true, true⟩ _ rfl (by decide)
  · exact usable.noTypeWord (.inl ⟨.int, rfl⟩)
  · exact usable.noTypeWord (.inl ⟨.string, rfl⟩)

end Catalog

end Recordsmith
