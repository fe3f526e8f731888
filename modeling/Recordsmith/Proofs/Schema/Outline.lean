/-
# Recordsmith.Proofs.Schema.Outline — from outlines to records

The records of an outline are built one by one, and so are the fields of a record;
what is built is told by `Forall₂`, and the first that cannot be built gives the
fault. With `Makes` for one record and `Fault` for the reason that there is none:

* `toRecord_eq_ok_iff` and `toRecord_eq_error_iff` for a record: exactly one of
  them applies, and the constructors of `Fault` are in the order of the checks;
* `toRecords_eq_ok_iff` and `toRecords_eq_error_iff` for an outline;
* `toRecords_written`: records written with their types apart are built again.
-/
import Mathlib.Data.List.Forall2
import Recordsmith.Proofs.Record.Field
import Recordsmith.Schema.File

namespace Recordsmith

open Recordsmith.Text
open Recordsmith.TypeExpr (WellFormed Derives)

set_option autoImplicit false

/-! ## One by one -/

theorem exists_of_forall₂ {α β : Type} {R : α → β → Prop} {items : List α} {results : List β}
    (each : List.Forall₂ R items results) : ∀ item ∈ items, ∃ result, R item result := by
  induction each with
  | nil => simp
  | cons first _ ih =>
    rw [List.forall_mem_cons]
    exact ⟨⟨_, first⟩, ih⟩

section

variable {ε α β : Type} {f : α → Except ε β} {items : List α}

theorem mapM_cons_of_ok {item : α} {result : β} (made : f item = .ok result) (rest : List α) :
    (item :: rest).mapM f = (rest.mapM f).map (result :: ·) := by
  rw [List.mapM_cons, made]
  cases rest.mapM f with
  | error cause => rfl
  | ok results => rfl

theorem mapM_cons_of_error {item : α} {cause : ε} (fails : f item = .error cause)
    (rest : List α) : (item :: rest).mapM f = .error cause := by
  rw [List.mapM_cons, fails]
  rfl

theorem mapM_eq_ok_iff {results : List β} :
    items.mapM f = .ok results ↔
      List.Forall₂ (fun item result => f item = .ok result) items results := by
  induction items generalizing results with
  | nil =>
    rw [List.mapM_nil, List.forall₂_nil_left_iff]
    exact ⟨fun same => (Except.ok.inj same).symm, fun none => congrArg _ none.symm⟩
  | cons item rest ih =>
    cases made : f item with
    | error cause =>
      rw [mapM_cons_of_error made, List.forall₂_cons_left_iff]
      simp [made]
    | ok result =>
      rw [mapM_cons_of_ok made, List.forall₂_cons_left_iff]
      simp only [made, Except.ok.injEq, ← ih]
      cases rest.mapM f with
      | error cause => simp [Except.map]
      | ok others => simp [Except.map, eq_comm]

theorem mapM_eq_error_iff {cause : ε} :
    items.mapM f = .error cause ↔
      ∃ front item back, items = front ++ item :: back ∧
        (∀ earlier ∈ front, ∃ result, f earlier = .ok result) ∧ f item = .error cause := by
  induction items with
  | nil =>
    constructor
    · intro impossible
      cases impossible
    · rintro ⟨front, item, back, split, -⟩
      simp at split
  | cons item rest ih =>
    cases made : f item with
    | error other =>
      rw [mapM_cons_of_error made]
      constructor
      · intro same
        cases same
        exact ⟨[], item, rest, rfl, by simp, made⟩
      · rintro ⟨front, failing, back, split, earlier, fails⟩
        cases front with
        | nil =>
          cases split
          cases made.symm.trans fails
          rfl
        | cons first front =>
          cases split
          obtain ⟨result, fine⟩ := earlier item List.mem_cons_self
          cases made.symm.trans fine
    | ok result =>
      rw [mapM_cons_of_ok made]
      have later : (rest.mapM f).map (result :: ·) = .error cause ↔ rest.mapM f = .error cause := by
        cases rest.mapM f with
        | error other => simp [Except.map]
        | ok others => simp [Except.map]
      rw [later, ih]
      constructor
      · rintro ⟨front, failing, back, rfl, earlier, fails⟩
        refine ⟨item :: front, failing, back, rfl, ?_, fails⟩
        rw [List.forall_mem_cons]
        exact ⟨⟨result, made⟩, earlier⟩
      · rintro ⟨front, failing, back, split, earlier, fails⟩
        cases front with
        | nil =>
          cases split
          cases made.symm.trans fails
        | cons first front =>
          cases split
          exact ⟨front, failing, back, rfl,
            fun other member => earlier other (List.mem_cons_of_mem _ member), fails⟩

theorem exists_mapM_eq_ok (each : ∀ item ∈ items, ∃ result, f item = .ok result) :
    ∃ results, items.mapM f = .ok results := by
  cases made : items.mapM f with
  | ok results => exact ⟨results, rfl⟩
  | error cause =>
    obtain ⟨front, item, back, rfl, -, fails⟩ := mapM_eq_error_iff.1 made
    obtain ⟨result, fine⟩ := each item (by simp)
    cases fine.symm.trans fails

end

theorem mapM_map_eq_some {α β γ : Type} {f : β → Option γ} {g : α → β} {h : α → γ}
    (each : ∀ item, f (g item) = some (h item)) (items : List α) :
    (items.map g).mapM f = some (items.map h) := by
  induction items with
  | nil => rfl
  | cons item rest ih =>
    rw [List.map_cons, List.mapM_cons, each, ih]
    rfl

/-! ## Fields -/

namespace FieldEntry

/-- What an entry says about a field: name and type text apart, or in one text with
blanks around and between them. -/
def Declares : FieldEntry → Field → Prop
  | .typed type name, field => field.name = name ∧ Derives type.toList field.type
  | .declared text, field =>
      ∃ lead type gap trail, Blanks lead ∧ Declaration.Gap gap ∧ Blanks trail ∧
        Derives type field.type ∧
        text.toList = lead ++ type ++ gap ++ field.name.toList ++ trail

/-- The field that an entry makes at its place. -/
def toFieldAt (record : String) (entry : FieldEntry × Nat) : Except SchemaError Field :=
  entry.1.toField record entry.2

/-- The entry at each place makes the field at that place. -/
def MakeFields (record : String) (entries : List FieldEntry) (fields : List Field) : Prop :=
  List.Forall₂ (fun entry field => toFieldAt record entry = .ok field) entries.zipIdx fields

theorem declares_of_toField {record : String} {index : Nat} {entry : FieldEntry} {field : Field}
    (made : entry.toField record index = .ok field) : entry.Declares field := by
  cases entry with
  | declared text => exact Field.exists_of_ofDeclaration made
  | typed type name =>
    obtain ⟨named, read⟩ := Field.ofParts_eq_ok_iff.1 made
    exact ⟨named, TypeExpr.parse_eq_ok_iff.1 read⟩

theorem Declares.wellFormed {entry : FieldEntry} {field : Field}
    (declares : entry.Declares field) : WellFormed field.type := by
  cases entry with
  | declared text =>
    obtain ⟨lead, type, gap, trail, -, -, -, derived, -⟩ := declares
    exact derived.wellFormed
  | typed type name => exact declares.2.wellFormed

theorem toFields_eq_mapM (record : String) (index : Nat) (entries : List FieldEntry) :
    toFields record index entries = (entries.zipIdx index).mapM (toFieldAt record) := by
  induction entries generalizing index with
  | nil => rfl
  | cons entry rest ih =>
    rw [toFields, List.zipIdx_cons, ih]
    cases made : entry.toField record index with
    | error cause =>
      have fails : toFieldAt record (entry, index) = .error cause := made
      rw [mapM_cons_of_error fails]
    | ok field =>
      have makes : toFieldAt record (entry, index) = .ok field := made
      rw [mapM_cons_of_ok makes]
      cases (rest.zipIdx (index + 1)).mapM (toFieldAt record) with
      | error cause => rfl
      | ok fields => rfl

theorem toFields_eq_ok_iff {record : String} {entries : List FieldEntry} {fields : List Field} :
    toFields record 0 entries = .ok fields ↔ MakeFields record entries fields := by
  rw [toFields_eq_mapM, mapM_eq_ok_iff]
  rfl

/-- The first entry that makes no field gives the fault. -/
theorem toFields_eq_error_iff {record : String} {entries : List FieldEntry}
    {cause : SchemaError} :
    toFields record 0 entries = .error cause ↔
      ∃ front entry back fields, entries = front ++ entry :: back ∧
        MakeFields record front fields ∧ entry.toField record front.length = .error cause := by
  rw [toFields_eq_mapM, mapM_eq_error_iff]
  constructor
  · rintro ⟨_, _, _, split, earlier, fails⟩
    obtain ⟨front, behind, rfl, rfl, same⟩ := List.zipIdx_eq_append_iff.1 split
    obtain ⟨entry, back, rfl, rfl, -⟩ := List.zipIdx_eq_cons_iff.1 same.symm
    obtain ⟨fields, made⟩ := exists_mapM_eq_ok earlier
    refine ⟨front, entry, back, fields, rfl, mapM_eq_ok_iff.1 made, ?_⟩
    rwa [toFieldAt, Nat.zero_add] at fails
  · rintro ⟨front, entry, back, fields, rfl, make, fails⟩
    refine ⟨front.zipIdx, (entry, front.length), back.zipIdx (front.length + 1), ?_, ?_, fails⟩
    · rw [List.zipIdx_append, Nat.zero_add, List.zipIdx_cons]
    · exact exists_of_forall₂ make

theorem MakeFields.declares {record : String} {entries : List FieldEntry} {fields : List Field}
    (make : MakeFields record entries fields) : List.Forall₂ Declares entries fields := by
  have each : List.Forall₂ (fun entry field => entry.1.Declares field) entries.zipIdx fields :=
    make.imp fun entry field => declares_of_toField
  rw [← List.forall₂_map_left_iff, List.zipIdx_map_fst] at each
  exact each

end FieldEntry

/-! ## Records -/

namespace Outline

open Recordsmith.FieldEntry

/-- What an accepted record and the entries that it is made from have in common. -/
structure Makes (name : String) (entries : List FieldEntry) (record : Record) : Prop where
  name_eq : record.name = name
  not_reserved : record.name ≠ reservedName
  name_valid : isIdentifier record.name.toList = true
  fields_ne_nil : record.fields ≠ []
  names_valid : ∀ field ∈ record.fields, isIdentifier field.name.toList = true
  names_nodup : (record.fields.map Field.name).Nodup
  makeFields : MakeFields name entries record.fields

/-- Why no record is made from entries; the earlier of two reasons is given. -/
inductive Fault (name : String) (entries : List FieldEntry) : SchemaError → Prop where
  | reserved (isReserved : name = reservedName) : Fault name entries (.reservedName name)
  | field {front back : List FieldEntry} {entry : FieldEntry} {fields : List Field}
      {cause : SchemaError} (notReserved : name ≠ reservedName)
      (split : entries = front ++ entry :: back) (earlier : MakeFields name front fields)
      (fails : entry.toField name front.length = .error cause) : Fault name entries cause
  | invalidName {fields : List Field} (notReserved : name ≠ reservedName)
      (make : MakeFields name entries fields) (invalid : isIdentifier name.toList = false) :
      Fault name entries (.invalidName name name)
  | empty (notReserved : name ≠ reservedName) (valid : isIdentifier name.toList = true)
      (none : entries = []) : Fault name entries (.emptyRecord name)
  | repeated {fields front back : List Field} {again : Field}
      (notReserved : name ≠ reservedName) (valid : isIdentifier name.toList = true)
      (make : MakeFields name entries fields) (split : fields = front ++ again :: back)
      (fresh : (front.map Field.name).Nodup) (taken : again.name ∈ front.map Field.name) :
      Fault name entries (.duplicateField name again.name)

end Outline

namespace Record

theorem ofFields_eq_ok_iff {name : String} {fields : List Field} {record : Record} :
    ofFields name fields = .ok record ↔ record.name = name ∧ record.fields = fields := by
  rw [ofFields]
  constructor
  · intro made
    split at made
    · split at made
      · split at made
        · cases made
        · cases made
          exact ⟨rfl, rfl⟩
      · cases made
    · cases made
  · rintro ⟨rfl, rfl⟩
    rw [dif_pos record.name_valid, dif_pos record.fields_ne_nil]
    split
    · next repeated found =>
      rw [firstRepeat?_eq_none.2 record.names_nodup] at found
      cases found
    · rfl

theorem ofFields_of_invalid {name : String} (invalid : isIdentifier name.toList = false)
    (fields : List Field) : ofFields name fields = .error (.invalidName name name) := by
  rw [ofFields, dif_neg (by rw [invalid]; decide)]

theorem ofFields_nil {name : String} (valid : isIdentifier name.toList = true) :
    ofFields name [] = .error (.emptyRecord name) := by
  rw [ofFields, dif_pos valid, dif_neg (by simp)]

theorem ofFields_of_repeated {name : String} (valid : isIdentifier name.toList = true)
    {front back : List Field} {again : Field} (fresh : (front.map Field.name).Nodup)
    (taken : again.name ∈ front.map Field.name) :
    ofFields name (front ++ again :: back) = .error (.duplicateField name again.name) := by
  have found : firstRepeat? ((front ++ again :: back).map Field.name) = some again.name := by
    refine firstRepeat?_eq_some.2 ⟨_, back.map Field.name, ?_, fresh, taken⟩
    rw [List.map_append, List.map_cons]
  rw [ofFields, dif_pos valid, dif_pos (by simp)]
  split
  · next repeated alsoFound =>
    cases found.symm.trans alsoFound
    rfl
  · next unfound => cases found.symm.trans unfound

end Record

namespace Outline

open Recordsmith.FieldEntry

variable {name : String} {entries : List FieldEntry}

theorem toRecord_of_makes {record : Record} (makes : Makes name entries record) :
    toRecord name entries = .ok record := by
  have notReserved : name ≠ reservedName := makes.name_eq ▸ makes.not_reserved
  rw [toRecord, if_neg notReserved, toFields_eq_ok_iff.2 makes.makeFields]
  exact Record.ofFields_eq_ok_iff.2 ⟨makes.name_eq, rfl⟩

theorem toRecord_of_fault {cause : SchemaError} (fault : Fault name entries cause) :
    toRecord name entries = .error cause := by
  rw [toRecord]
  cases fault with
  | reserved isReserved => rw [if_pos isReserved]
  | field notReserved split earlier fails =>
    rw [if_neg notReserved, toFields_eq_error_iff.2 ⟨_, _, _, _, split, earlier, fails⟩]
  | invalidName notReserved make invalid =>
    rw [if_neg notReserved, toFields_eq_ok_iff.2 make]
    exact Record.ofFields_of_invalid invalid _
  | empty notReserved valid none =>
    subst none
    rw [if_neg notReserved]
    exact Record.ofFields_nil valid
  | repeated notReserved valid make split fresh taken =>
    subst split
    rw [if_neg notReserved, toFields_eq_ok_iff.2 make]
    exact Record.ofFields_of_repeated valid fresh taken

theorem exists_fault_of_not_nodup {fields : List Field} (notReserved : name ≠ reservedName)
    (valid : isIdentifier name.toList = true) (make : MakeFields name entries fields)
    (repeats : ¬(fields.map Field.name).Nodup) : ∃ cause, Fault name entries cause := by
  rw [← firstRepeat?_eq_none] at repeats
  obtain ⟨again, found⟩ := Option.ne_none_iff_exists'.1 repeats
  obtain ⟨early, late, split, fresh, taken⟩ := firstRepeat?_eq_some.1 found
  obtain ⟨front, behind, rfl, rfl, same⟩ := List.map_eq_append_iff.1 split
  obtain ⟨field, back, rfl, rfl, rfl⟩ := List.map_eq_cons_iff.1 same
  exact ⟨_, .repeated notReserved valid make rfl fresh taken⟩

/-- Entries make a record, or there is a reason why not. -/
theorem exists_makes_or_fault (name : String) (entries : List FieldEntry) :
    (∃ record, Makes name entries record) ∨ ∃ cause, Fault name entries cause := by
  by_cases notReserved : name = reservedName
  · exact .inr ⟨_, .reserved notReserved⟩
  cases built : toFields name 0 entries with
  | error cause =>
    obtain ⟨front, entry, back, fields, split, earlier, fails⟩ := toFields_eq_error_iff.1 built
    exact .inr ⟨cause, .field notReserved split earlier fails⟩
  | ok fields =>
    have make := toFields_eq_ok_iff.1 built
    cases valid : isIdentifier name.toList with
    | false => exact .inr ⟨_, .invalidName notReserved make valid⟩
    | true =>
      by_cases none : entries = []
      · exact .inr ⟨_, .empty notReserved valid none⟩
      by_cases unrepeated : (fields.map Field.name).Nodup
      · have nonempty : fields ≠ [] := by
          rintro rfl
          have long := make.length_eq
          simp [none] at long
        exact .inl ⟨⟨name, fields, valid, nonempty, unrepeated⟩, rfl, notReserved, valid, nonempty,
          fun field _ => field.name_valid, unrepeated, make⟩
      · exact .inr (exists_fault_of_not_nodup notReserved valid make unrepeated)

theorem toRecord_eq_ok_iff {record : Record} :
    toRecord name entries = .ok record ↔ Makes name entries record := by
  refine ⟨fun built => ?_, toRecord_of_makes⟩
  rcases exists_makes_or_fault name entries with ⟨other, makes⟩ | ⟨cause, fault⟩
  · cases built.symm.trans (toRecord_of_makes makes)
    exact makes
  · cases built.symm.trans (toRecord_of_fault fault)

theorem toRecord_eq_error_iff {cause : SchemaError} :
    toRecord name entries = .error cause ↔ Fault name entries cause := by
  refine ⟨fun fails => ?_, toRecord_of_fault⟩
  rcases exists_makes_or_fault name entries with ⟨record, makes⟩ | ⟨other, fault⟩
  · cases fails.symm.trans (toRecord_of_makes makes)
  · cases fails.symm.trans (toRecord_of_fault fault)
    exact fault

/-! ## Outlines -/

/-- The record of one entry of an outline. -/
def recordOf (entry : String × List FieldEntry) : Except SchemaError Record :=
  toRecord entry.1 entry.2

theorem toRecords_eq_mapM (outline : Outline) : outline.toRecords = outline.mapM recordOf := by
  induction outline with
  | nil => rfl
  | cons entry rest ih =>
    obtain ⟨name, entries⟩ := entry
    rw [toRecords, ih]
    cases built : toRecord name entries with
    | error cause =>
      have fails : recordOf (name, entries) = .error cause := built
      rw [mapM_cons_of_error fails]
    | ok record =>
      have makes : recordOf (name, entries) = .ok record := built
      rw [mapM_cons_of_ok makes]
      cases rest.mapM recordOf with
      | error cause => rfl
      | ok records => rfl

theorem toRecords_eq_ok_iff {outline : Outline} {records : List Record} :
    outline.toRecords = .ok records ↔
      List.Forall₂ (fun entry record => Makes entry.1 entry.2 record) outline records := by
  rw [toRecords_eq_mapM, mapM_eq_ok_iff]
  simp only [recordOf, toRecord_eq_ok_iff]

/-- The fault of an outline is that of its first record with a fault. -/
theorem toRecords_eq_error_iff {outline : Outline} {cause : SchemaError} :
    outline.toRecords = .error cause ↔
      ∃ before name entries after, outline = before ++ (name, entries) :: after ∧
        (∀ earlier ∈ before, ∃ record, Makes earlier.1 earlier.2 record) ∧
        Fault name entries cause := by
  rw [toRecords_eq_mapM, mapM_eq_error_iff]
  simp only [recordOf, toRecord_eq_ok_iff, toRecord_eq_error_iff, Prod.exists]

theorem names_eq_of_makes {outline : Outline} {records : List Record}
    (make : List.Forall₂ (fun entry record => Makes entry.1 entry.2 record) outline records) :
    records.map Record.name = outline.map Prod.fst := by
  induction make with
  | nil => rfl
  | cons makes _ ih => rw [List.map_cons, List.map_cons, makes.name_eq, ih]

/-! ## Records written out -/

/-- Records with the types of their fields in canonical form. -/
def written (records : List Record) : Outline :=
  records.map fun record =>
    (record.name, record.fields.map fun field => .typed field.type.render field.name)

theorem makeFields_written (record : String) {fields : List Field}
    (formed : ∀ field ∈ fields, WellFormed field.type) :
    MakeFields record (fields.map fun field => .typed field.type.render field.name) fields := by
  -- The place of an entry does not matter if its type is written apart.
  suffices anywhere : ∀ index, List.Forall₂ (fun entry field => toFieldAt record entry = .ok field)
      ((fields.map fun field => .typed field.type.render field.name).zipIdx index) fields from
    anywhere 0
  induction fields with
  | nil => exact fun _ => .nil
  | cons field rest ih =>
    rw [List.forall_mem_cons] at formed
    intro index
    exact .cons (Field.ofParts_render record formed.1 field.name_valid) (ih formed.2 (index + 1))

theorem toRecords_written {records : List Record}
    (free : ∀ record ∈ records, record.name ≠ reservedName)
    (formed : ∀ record ∈ records, ∀ field ∈ record.fields, WellFormed field.type) :
    (written records).toRecords = .ok records := by
  rw [toRecords_eq_ok_iff, written, List.forall₂_map_left_iff, List.forall₂_same]
  intro record member
  exact ⟨rfl, free record member, record.name_valid, record.fields_ne_nil,
    fun field _ => field.name_valid, record.names_nodup,
    makeFields_written record.name (formed record member)⟩

end Outline

end Recordsmith
