/-
# Recordsmith.Proofs.Json.Written — schemas written in JSON

`Writes text value` says that a text writes a value: whatever stands behind it,
reading gives the value and stops right behind the text. Strings of ordinary
characters are written between quotes, arrays and objects from the texts of their
parts (`Writes.string`, `Writes.array`, `Writes.object`).

`document` writes records with the types of their fields apart, without any
spacing; as names and written types have ordinary characters only, its outline is
that of the records (`outline_json`).
-/
import Recordsmith.Proofs.Schema.Keys
import Recordsmith.Proofs.Schema.Outline

namespace Recordsmith

open Recordsmith.Text
open Recordsmith.TypeExpr (WellFormed)

set_option autoImplicit false

namespace Json

/-- The text writes the value, whatever stands behind it. -/
structure Writes (text : List Char) (value : Json) : Prop where
  starts : ∃ c more, text = c :: more ∧ c ∈ ['"', '[', '{']
  reads : ∀ steps rest, 2 * text.length ≤ steps →
    readValue steps (text ++ rest) = some (value, rest)

/-! ## Strings -/

/-- A string of characters that stand for themselves. -/
def ofText (text : String) : List Piece :=
  text.toList.map .char

theorem readString_cons {c : Char} (ordinary : isOrdinary c = true) (text : List Char) :
    readString (c :: text) = (readString text).map fun read => (.char c :: read.1, read.2) := by
  simp only [isOrdinary, Bool.and_eq_true, bne_iff_ne, decide_eq_true_eq] at ordinary
  rw [readString]
  · simp [ordinary, Nat.not_lt.2 ordinary.1.1.1]
  all_goals simp_all

theorem readString_ordinary {text : List Char} (ordinary : ∀ c ∈ text, isOrdinary c = true)
    (rest : List Char) : readString (text ++ '"' :: rest) = some (text.map .char, rest) := by
  induction text with
  | nil => rfl
  | cons c more ih =>
    rw [List.forall_mem_cons] at ordinary
    rw [List.cons_append, readString_cons ordinary.1, ih ordinary.2]
    rfl

theorem readValue_quote (steps : Nat) (text : List Char) :
    readValue (steps + 1) ('"' :: text) =
      (readString text).map fun read => (.string read.1, read.2) := rfl

theorem Writes.string {text : String} (ordinary : Ordinary text) :
    Writes (quoted text) (.string (ofText text)) := by
  refine ⟨⟨'"', _, rfl, by simp⟩, fun steps rest enough => ?_⟩
  obtain ⟨fewer, rfl⟩ : ∃ fewer, steps = fewer + 1 := by
    rw [quoted, List.length_cons] at enough
    exact Nat.exists_eq_add_of_le' (by omega)
  rw [quoted, List.cons_append, readValue_quote, List.append_assoc, List.singleton_append,
    readString_ordinary ordinary]
  rfl

theorem text?_ofText (text : String) : text? (ofText text) = some text := by
  have chars : ∀ chars : List Char, chars? (chars.map .char) = some chars := by
    intro chars
    induction chars with
    | nil => rfl
    | cons c more ih => rw [List.map_cons, chars?, ih]; rfl
  rw [text?, ofText, chars, Option.map_some, String.ofList_toList]

/-! ## Arrays -/

theorem exists_listed_eq (c : Char) (more : List Char) (rest : List (List Char)) :
    ∃ tail, listed ((c :: more) :: rest) = c :: tail := by
  cases rest with
  | nil => exact ⟨more, by simp [listed]⟩
  | cons next others => exact ⟨more ++ ',' :: listed (next :: others), listed_cons_cons _ _ _⟩

theorem readItems_more {steps : Nat} {text rest : List Char} {item : Json}
    (reads : readValue steps text = some (item, ',' :: rest)) :
    readItems (steps + 1) text =
      (readItems steps rest).map fun read => (item :: read.1, read.2) := by
  rw [readItems, reads]
  rfl

theorem readItems_last {steps : Nat} {text rest : List Char} {item : Json}
    (reads : readValue steps text = some (item, ']' :: rest)) :
    readItems (steps + 1) text = some ([item], rest) := by
  rw [readItems, reads]
  rfl

theorem readItems_listed {items : List (List Char × Json)} (some : items ≠ [])
    (each : ∀ item ∈ items, Writes item.1 item.2) (steps : Nat) (rest : List Char)
    (enough : 2 * ((listed (items.map Prod.fst)).length + 1) ≤ steps) :
    readItems steps (listed (items.map Prod.fst) ++ ']' :: rest) =
      .some (items.map Prod.snd, rest) := by
  induction items generalizing steps with
  | nil => exact absurd rfl some
  | cons item more ih =>
    rw [List.forall_mem_cons] at each
    obtain ⟨fewer, rfl⟩ : ∃ fewer, steps = fewer + 1 := Nat.exists_eq_add_of_le' (by omega)
    cases more with
    | nil =>
      have short : 2 * item.1.length ≤ fewer := by
        simp only [listed, List.map_cons, List.map_nil, List.intercalate_singleton] at enough
        omega
      rw [listed, List.map_cons, List.map_nil, List.intercalate_singleton]
      exact readItems_last (each.1.reads fewer _ short)
    | cons next others =>
      rw [List.map_cons, List.map_cons, listed_cons_cons, List.length_append,
        List.length_cons, ← List.map_cons] at enough
      rw [List.map_cons, List.map_cons, listed_cons_cons, List.append_assoc, List.cons_append,
        readItems_more (each.1.reads fewer _ (by omega)), ← List.map_cons,
        ih (by simp) each.2 fewer (by omega)]
      rfl

theorem readValue_bracket (steps : Nat) {c : Char} (starts : c ∈ ['"', '[', '{'])
    (text : List Char) :
    readValue (steps + 1) ('[' :: c :: text) =
      (readItems steps (c :: text)).map fun read => (.array read.1, read.2) := by
  simp only [List.mem_cons, List.not_mem_nil, or_false] at starts
  rcases starts with rfl | rfl | rfl <;> rfl

theorem Writes.array {items : List (List Char × Json)}
    (each : ∀ item ∈ items, Writes item.1 item.2) :
    Writes ('[' :: (listed (items.map Prod.fst) ++ [']'])) (.array (items.map Prod.snd)) := by
  refine ⟨⟨'[', _, rfl, by simp⟩, fun steps rest enough => ?_⟩
  rw [List.length_cons, List.length_append, List.length_singleton] at enough
  obtain ⟨fewer, rfl⟩ : ∃ fewer, steps = fewer + 1 := Nat.exists_eq_add_of_le' (by omega)
  by_cases none : items = []
  · subst none
    rfl
  · have inside := readItems_listed none each fewer rest (by omega)
    obtain ⟨item, others, rfl⟩ := List.exists_cons_of_ne_nil none
    obtain ⟨c, more, first, starts⟩ := (each item List.mem_cons_self).starts
    obtain ⟨tail, text⟩ := exists_listed_eq c more (others.map Prod.fst)
    rw [List.map_cons, first, text] at inside ⊢
    rw [List.cons_append, List.append_assoc, List.singleton_append, List.cons_append,
      readValue_bracket fewer starts, ← List.cons_append, inside]
    rfl

/-! ## Objects -/

/-- A member of an object: its key, and the text and the value behind the colon. -/
structure Part where
  key : String
  text : List Char
  value : Json

namespace Part

/-- The text of a member. -/
def written (part : Part) : List Char :=
  quoted part.key ++ ':' :: part.text

/-- The member that is read. -/
def member (part : Part) : List Piece × Json :=
  (ofText part.key, part.value)

/-- The key has ordinary characters, and the text writes the value. -/
structure Proper (part : Part) : Prop where
  ordinary : Ordinary part.key
  writes : Writes part.text part.value

end Part

theorem readMembers_quote (steps : Nat) {part : Part} (proper : part.Proper) {c : Char}
    {rest : List Char} (enough : 2 * part.text.length ≤ steps) :
    readMembers (steps + 1) (part.written ++ c :: rest) =
      match skipSpacing (c :: rest) with
      | ',' :: rest => (readMembers steps rest).map fun read => (part.member :: read.1, read.2)
      | '}' :: rest => some ([part.member], rest)
      | _ => none := by
  have key : readString (part.key.toList ++ '"' :: ':' :: (part.text ++ c :: rest)) =
      some (ofText part.key, ':' :: (part.text ++ c :: rest)) :=
    readString_ordinary proper.ordinary _
  have value := proper.writes.reads steps (c :: rest) enough
  have text : part.written ++ c :: rest =
      '"' :: (part.key.toList ++ '"' :: ':' :: (part.text ++ c :: rest)) := by
    simp [Part.written, quoted]
  have opened : skipSpacing ('"' :: (part.key.toList ++ '"' :: ':' :: (part.text ++ c :: rest))) =
      '"' :: (part.key.toList ++ '"' :: ':' :: (part.text ++ c :: rest)) := rfl
  have colon : skipSpacing (':' :: (part.text ++ c :: rest)) =
      ':' :: (part.text ++ c :: rest) := rfl
  rw [text, readMembers, opened]
  simp only [key, Option.bind_some, colon, value]
  rfl

theorem readMembers_listed {parts : List Part} (some : parts ≠ [])
    (each : ∀ part ∈ parts, part.Proper) (steps : Nat) (rest : List Char)
    (enough : 2 * ((listed (parts.map Part.written)).length + 1) ≤ steps) :
    readMembers steps (listed (parts.map Part.written) ++ '}' :: rest) =
      .some (parts.map Part.member, rest) := by
  induction parts generalizing steps with
  | nil => exact absurd rfl some
  | cons part more ih =>
    rw [List.forall_mem_cons] at each
    obtain ⟨fewer, rfl⟩ : ∃ fewer, steps = fewer + 1 := Nat.exists_eq_add_of_le' (by omega)
    have within : part.text.length ≤ part.written.length := by
      simp only [Part.written, List.length_append, List.length_cons]
      omega
    cases more with
    | nil =>
      rw [listed, List.map_cons, List.map_nil, List.intercalate_singleton] at enough ⊢
      rw [readMembers_quote fewer each.1 (by omega)]
      rfl
    | cons next others =>
      rw [List.map_cons, List.map_cons, listed_cons_cons, List.length_append,
        List.length_cons, ← List.map_cons] at enough
      have later := ih (by simp) each.2 fewer (by omega)
      rw [List.map_cons, List.map_cons, listed_cons_cons, List.append_assoc, List.cons_append,
        readMembers_quote fewer each.1 (by omega), ← List.map_cons]
      show (readMembers fewer (listed ((next :: others).map Part.written) ++ '}' :: rest)).map
        (fun read => (part.member :: read.1, read.2)) = _
      rw [later]
      rfl

theorem Writes.object {parts : List Part} (each : ∀ part ∈ parts, part.Proper) :
    Writes ('{' :: (listed (parts.map Part.written) ++ ['}']))
      (.object (parts.map Part.member)) := by
  refine ⟨⟨'{', _, rfl, by simp⟩, fun steps rest enough => ?_⟩
  rw [List.length_cons, List.length_append, List.length_singleton] at enough
  obtain ⟨fewer, rfl⟩ : ∃ fewer, steps = fewer + 1 := Nat.exists_eq_add_of_le' (by omega)
  by_cases none : parts = []
  · subst none
    rfl
  · have inside := readMembers_listed none each fewer rest (by omega)
    obtain ⟨part, others, rfl⟩ := List.exists_cons_of_ne_nil none
    obtain ⟨more, text⟩ := exists_listed_eq '"' _ (others.map Part.written)
    have same : listed ((part :: others).map Part.written) = '"' :: more := text
    rw [same] at inside ⊢
    have opened : readValue (fewer + 1) ('{' :: '"' :: (more ++ '}' :: rest)) =
        (readMembers fewer ('"' :: (more ++ '}' :: rest))).map
          fun read => (.object read.1, read.2) := rfl
    rw [List.cons_append, List.append_assoc, List.singleton_append, List.cons_append, opened,
      ← List.cons_append, inside]
    rfl

/-! ## Records -/

/-- A member with a text for its value. -/
def textPart (key value : String) : Part :=
  ⟨key, quoted value, .string (ofText value)⟩

/-- An object with its text. -/
def writtenObject (parts : List Part) : List Char × Json :=
  ('{' :: (listed (parts.map Part.written) ++ ['}']), .object (parts.map Part.member))

/-- An array with its text. -/
def writtenArray (items : List (List Char × Json)) : List Char × Json :=
  ('[' :: (listed (items.map Prod.fst) ++ [']']), .array (items.map Prod.snd))

/-- A member with an object or array for its value. -/
def part (key : String) (value : List Char × Json) : Part :=
  ⟨key, value.1, value.2⟩

/-- A field, with its type apart from its name. -/
def fieldObject (field : Field) : List Char × Json :=
  writtenObject [textPart "type" field.type.render, textPart "name" field.name]

/-- A record under its name. -/
def recordPart (record : Record) : Part :=
  part record.name
    (writtenObject [part "fields" (writtenArray (record.fields.map fieldObject))])

/-- The document that writes records. -/
def document (records : List Record) : String :=
  String.ofList (writtenObject (records.map recordPart)).1

theorem writes_fieldObject {field : Field} (formed : WellFormed field.type) :
    Writes (fieldObject field).1 (fieldObject field).2 := by
  have typeKey : Ordinary "type" := by decide
  have nameKey : Ordinary "name" := by decide
  apply Writes.object
  rw [List.forall_mem_cons, List.forall_mem_singleton]
  exact ⟨⟨typeKey, .string (ordinary_render formed)⟩,
    ⟨nameKey, .string (ordinary_of_isIdentifier field.name_valid)⟩⟩

theorem proper_recordPart {record : Record}
    (formed : ∀ field ∈ record.fields, WellFormed field.type) :
    (recordPart record).Proper := by
  have fieldsKey : Ordinary "fields" := by decide
  have fields : Writes (writtenArray (record.fields.map fieldObject)).1
      (writtenArray (record.fields.map fieldObject)).2 := by
    apply Writes.array
    rw [List.forall_mem_map]
    exact fun field member => writes_fieldObject (formed field member)
  refine ⟨ordinary_of_isIdentifier record.name_valid, Writes.object ?_⟩
  rw [List.forall_mem_singleton]
  exact ⟨fieldsKey, fields⟩

theorem parse?_document {records : List Record}
    (formed : ∀ record ∈ records, ∀ field ∈ record.fields, WellFormed field.type) :
    parse? (document records) = some (writtenObject (records.map recordPart)).2 := by
  have writes : Writes (writtenObject (records.map recordPart)).1
      (writtenObject (records.map recordPart)).2 := by
    apply Writes.object
    rw [List.forall_mem_map]
    exact fun record member => proper_recordPart (formed record member)
  have whole :=
    writes.reads (2 * (writtenObject (records.map recordPart)).1.length + 2) [] (by omega)
  rw [List.append_nil] at whole
  rw [parse?, document, String.toList_ofList]
  simp only [whole]
  rfl

end Json

namespace Outline

open Recordsmith.Json

theorem namedMembers?_member (parts : List Part) :
    namedMembers? (parts.map Part.member) =
      some (parts.map fun part => (part.key, part.value)) := by
  apply mapM_map_eq_some
  intro part
  show (text? (ofText part.key)).map (fun name => (name, part.value)) = some (part.key, part.value)
  rw [text?_ofText]
  rfl

theorem jsonEntry?_fieldObject (field : Field) :
    jsonEntry? (fieldObject field).2 = some (.typed field.type.render field.name) := by
  have readable : (fieldObject field).2.decodable entryRoom = true := by
    simp [fieldObject, writtenObject, textPart, Part.member, decodable, entryRoom, maxDepth,
      membersDecodable, text?_ofText]
  rw [fieldObject, writtenObject] at readable ⊢
  unfold jsonEntry?
  rw [if_pos readable]
  dsimp only
  rw [namedMembers?_member]
  simp [textPart, jsonText?, text?_ofText, FieldEntry.ofMembers?]

theorem jsonRecord?_recordPart (record : Record) :
    jsonRecord? (recordPart record).value =
      some (record.fields.map fun field => .typed field.type.render field.name) := by
  have fields : jsonFields? (writtenArray (record.fields.map fieldObject)).2 =
      some (record.fields.map fun field => .typed field.type.render field.name) := by
    rw [writtenArray, jsonFields?, List.map_map]
    exact mapM_map_eq_some jsonEntry?_fieldObject record.fields
  rw [recordPart, part, writtenObject]
  simp only [jsonRecord?, namedMembers?_member]
  simp [part, fields]

theorem put_of_not_mem {name : String} {outline : Outline} (absent : name ∉ outline.map Prod.fst)
    (entries : List FieldEntry) : put name entries outline = outline ++ [(name, entries)] := by
  induction outline with
  | nil => rfl
  | cons entry rest ih =>
    obtain ⟨first, old⟩ := entry
    rw [List.map_cons, List.mem_cons, not_or] at absent
    rw [put, if_neg (Ne.symm absent.1), ih absent.2]
    rfl

/-- The outline with one more member of the document. -/
def addMember (outline : Outline) (member : String × Json) : Option Outline :=
  (jsonRecord? member.2).map fun entries => put member.1 entries outline

theorem addMember_recordPart {outline : Outline} {record : Record}
    (absent : record.name ∉ outline.map Prod.fst) :
    addMember outline (record.name, (recordPart record).value) =
      some (outline ++ written [record]) := by
  rw [addMember, jsonRecord?_recordPart, Option.map_some, put_of_not_mem absent]
  rfl

theorem foldlM_addMember {records : List Record} (outline : Outline)
    (distinct : (outline.map Prod.fst ++ records.map Record.name).Nodup) :
    (records.map fun record => (record.name, (recordPart record).value)).foldlM addMember outline =
      some (outline ++ written records) := by
  induction records generalizing outline with
  | nil => exact congrArg some (List.append_nil outline).symm
  | cons record rest ih =>
    rw [List.map_cons, ← List.singleton_append, ← List.append_assoc] at distinct
    have absent : record.name ∉ outline.map Prod.fst := by
      intro member
      exact (List.nodup_append.1 (List.nodup_append.1 distinct).1).2.2 _ member _
        (List.mem_singleton_self _) rfl
    have later : ((outline ++ written [record]).map Prod.fst ++ rest.map Record.name).Nodup := by
      rwa [List.map_append]
    rw [List.map_cons, List.foldlM_cons, addMember_recordPart absent]
    show List.foldlM addMember (outline ++ written [record]) _ = _
    rw [ih _ later, List.append_assoc]
    rfl

theorem ofJson?_document {records : List Record}
    (distinct : (records.map Record.name).Nodup) :
    ofJson? (writtenObject (records.map recordPart)).2 = some (written records) := by
  rw [writtenObject, ofJson?, namedMembers?_member, Option.bind_some, List.map_map]
  exact foldlM_addMember [] distinct

end Outline

/-- The outline of the document that writes records is theirs. -/
theorem SchemaFile.outline_json {records : List Record}
    (distinct : (records.map Record.name).Nodup)
    (formed : ∀ record ∈ records, ∀ field ∈ record.fields, WellFormed field.type)
    (path : String) :
    SchemaFile.outline (Json.document records) .json path = .ok (Outline.written records) := by
  rw [SchemaFile.outline, Json.parse?_document formed, Option.bind_some,
    Outline.ofJson?_document distinct]

end Recordsmith
