/-
# Recordsmith.Proofs.Toml.Written — schemas written in TOML

A record is written as a section with its name in quotes, and its fields as an array
of inline tables, again with the types of fields apart. `readStatements_document`
reads the sections back, two statements each; carrying them out puts one table
behind the other (`foldlM_step_document`), and the outline of the document is that of
the records (`outline_toml`).
-/
import Recordsmith.Proofs.Schema.Keys
import Recordsmith.Proofs.Schema.Outline

namespace Recordsmith

open Recordsmith.Text
open Recordsmith.TypeExpr (WellFormed)

set_option autoImplicit false

namespace Toml

/-! ## Texts -/

theorem readBasic_cons {c : Char} (ordinary : isOrdinary c = true) (text : List Char) :
    readBasic (c :: text) = (readBasic text).map (addFront c) := by
  simp only [isOrdinary, Bool.and_eq_true, bne_iff_ne, decide_eq_true_eq] at ordinary
  rw [readBasic]
  · simp [isPrintable, ordinary]
  all_goals simp_all

theorem readBasic_ordinary {text : List Char} (ordinary : ∀ c ∈ text, isOrdinary c = true)
    (rest : List Char) : readBasic (text ++ '"' :: rest) = some (text, rest) := by
  induction text with
  | nil => rfl
  | cons c more ih =>
    rw [List.forall_mem_cons] at ordinary
    rw [List.cons_append, readBasic_cons ordinary.1, ih ordinary.2]
    rfl

theorem readText?_quote {c : Char} (other : c ≠ '"') (text : List Char) :
    readText? ('"' :: c :: text) = readBasic (c :: text) := by
  rw [readText?]
  rintro rest same
  exact other (List.cons.inj same).1

theorem readValue_quote (steps room : Nat) (text : List Char) :
    readValue (steps + 1) room ('"' :: text) =
      (readText? ('"' :: text)).map fun read => (.text (String.ofList read.1), read.2) := rfl

theorem readValue_quoted {text : String} (ordinary : Ordinary text) (filled : text ≠ "")
    (steps room : Nat) (rest : List Char) :
    readValue (steps + 1) room (quoted text ++ rest) = some (.text text, rest) := by
  obtain ⟨c, more, chars⟩ := List.exists_cons_of_ne_nil (mt String.toList_eq_nil_iff.1 filled)
  have other : c ≠ '"' := by
    rintro rfl
    exact absurd (ordinary '"' (by rw [chars]; exact List.mem_cons_self)) (by decide)
  have whole := readBasic_ordinary ordinary rest
  rw [chars, List.cons_append, ← readText?_quote other] at whole
  rw [quoted, chars, List.cons_append, List.cons_append, List.cons_append, readValue_quote,
    List.append_assoc, List.singleton_append, whole, Option.map_some, ← chars,
    String.ofList_toList]

/-! ## Keys -/

theorem readKey_type (rest : List Char) :
    readKey ('t' :: 'y' :: 'p' :: 'e' :: '=' :: rest) = some (⟨[], "type"⟩, '=' :: rest) := rfl

theorem readKey_name (rest : List Char) :
    readKey ('n' :: 'a' :: 'm' :: 'e' :: '=' :: rest) = some (⟨[], "name"⟩, '=' :: rest) := rfl

theorem readKey_quoted {name : String} (ordinary : Ordinary name) (rest : List Char) :
    readKey (quoted name ++ ']' :: rest) = some (⟨[], name⟩, ']' :: rest) := by
  have simpleKey : readSimpleKey (quoted name ++ ']' :: rest) = some (name, ']' :: rest) := by
    have opened : readSimpleKey ('"' :: (name.toList ++ '"' :: ']' :: rest)) =
        (readBasic (name.toList ++ '"' :: ']' :: rest)).map
          fun read => (String.ofList read.1, read.2) := rfl
    rw [quoted, List.cons_append, List.append_assoc, List.singleton_append, opened,
      readBasic_ordinary ordinary, Option.map_some, String.ofList_toList]
  rw [readKey, maxKeyParts, readParts, simpleKey]
  rfl

/-! ## Fields -/

/-- A field as an inline table. -/
def fieldTable (field : Field) : List Char :=
  ['{', 't', 'y', 'p', 'e', '='] ++ quoted field.type.render ++
    [',', 'n', 'a', 'm', 'e', '='] ++ quoted field.name ++ ['}']

/-- The table of a field. -/
def fieldNode (field : Field) : Node :=
  .table .inline [("type", .text field.type.render), ("name", .text field.name)]

theorem inline?_field (type name : String) :
    Table.inline? [(⟨[], "type"⟩, .text type), (⟨[], "name"⟩, .text name)] =
      some (.table .inline [("type", .text type), ("name", .text name)]) := rfl

section

variable {steps room : Nat} {key : Key} {text value rest : List Char} {c : Char} {node : Node}

theorem readEntries_more (solid : skipTrivia false (c :: text) = some (c :: text))
    (notClosed : c ≠ '}') (named : readKey (c :: text) = some (key, '=' :: '"' :: value))
    (reads : readValue steps room ('"' :: value) = some (node, ',' :: rest)) :
    readEntries (steps + 1) room (c :: text) =
      (readEntries steps room rest).map fun read => ((key, node) :: read.1, read.2) := by
  rw [readEntries, solid, Option.bind_some]
  split
  · next same => exact absurd (List.cons.inj same).1 notClosed
  · rw [named, Option.bind_some]
    show (readValue steps room ('"' :: value)).bind _ = _
    rw [reads]
    rfl

theorem readEntries_last (solid : skipTrivia false (c :: text) = some (c :: text))
    (notClosed : c ≠ '}') (named : readKey (c :: text) = some (key, '=' :: '"' :: value))
    (reads : readValue steps room ('"' :: value) = some (node, '}' :: rest)) :
    readEntries (steps + 1) room (c :: text) = some ([(key, node)], rest) := by
  rw [readEntries, solid, Option.bind_some]
  split
  · next same => exact absurd (List.cons.inj same).1 notClosed
  · rw [named, Option.bind_some]
    show (readValue steps room ('"' :: value)).bind _ = _
    rw [reads]
    rfl

end

theorem readEntries_fieldTable {field : Field} (formed : WellFormed field.type)
    (steps room : Nat) (rest : List Char) :
    readEntries (steps + 3) room ('t' :: 'y' :: 'p' :: 'e' :: '=' :: (quoted field.type.render ++
        ',' :: 'n' :: 'a' :: 'm' :: 'e' :: '=' :: (quoted field.name ++ '}' :: rest))) =
      some ([(⟨[], "type"⟩, .text field.type.render), (⟨[], "name"⟩, .text field.name)], rest) := by
  have named : field.name ≠ "" := by
    intro empty
    exact ne_nil_of_isIdentifier field.name_valid (String.toList_eq_nil_iff.2 empty)
  have type := readValue_quoted (ordinary_render formed) (TypeExpr.render_ne_empty formed)
    (steps + 1) room (',' :: 'n' :: 'a' :: 'm' :: 'e' :: '=' :: (quoted field.name ++ '}' :: rest))
  have name := readValue_quoted (ordinary_of_isIdentifier field.name_valid) named steps room
    ('}' :: rest)
  have nameEntry : readEntries (steps + 2) room
      ('n' :: 'a' :: 'm' :: 'e' :: '=' :: (quoted field.name ++ '}' :: rest)) =
        some ([(⟨[], "name"⟩, .text field.name)], rest) :=
    readEntries_last rfl (by decide) (readKey_name _) name
  refine (readEntries_more rfl (by decide) (readKey_type _) type).trans ?_
  rw [nameEntry]
  rfl

theorem readValue_fieldTable {field : Field} (formed : WellFormed field.type) (steps room : Nat)
    (rest : List Char) :
    readValue (steps + 4) (room + 1) (fieldTable field ++ rest) =
      some (fieldNode field, rest) := by
  have shape : fieldTable field ++ rest =
      '{' :: 't' :: 'y' :: 'p' :: 'e' :: '=' :: (quoted field.type.render ++
        ',' :: 'n' :: 'a' :: 'm' :: 'e' :: '=' :: (quoted field.name ++ '}' :: rest)) := by
    simp only [fieldTable, List.append_assoc, List.cons_append, List.nil_append]
  have opened : ∀ text, readValue (steps + 4) (room + 1) ('{' :: text) =
      (readEntries (steps + 3) room text).bind fun read =>
        (Table.inline? read.1).map fun table => (table, read.2) := fun _ => rfl
  rw [shape, opened, readEntries_fieldTable formed, Option.bind_some, inline?_field]
  rfl

/-! ## Field lists -/

/-- The fields of a record as an array of inline tables. -/
def fieldArray (fields : List Field) : List Char :=
  '[' :: (listed (fields.map fieldTable) ++ [']'])

section

variable {steps room : Nat} {text rest : List Char} {c : Char} {item : Node}

theorem readItems_more (solid : skipTrivia false (c :: text) = some (c :: text))
    (notClosed : c ≠ ']') (reads : readValue steps room (c :: text) = some (item, ',' :: rest)) :
    readItems (steps + 1) room (c :: text) =
      (readItems steps room rest).map fun read => (item :: read.1, read.2) := by
  rw [readItems, solid, Option.bind_some]
  split
  · next same => exact absurd (List.cons.inj same).1 notClosed
  · rw [reads]
    rfl

theorem readItems_last (solid : skipTrivia false (c :: text) = some (c :: text))
    (notClosed : c ≠ ']') (reads : readValue steps room (c :: text) = some (item, ']' :: rest)) :
    readItems (steps + 1) room (c :: text) = some ([item], rest) := by
  rw [readItems, solid, Option.bind_some]
  split
  · next same => exact absurd (List.cons.inj same).1 notClosed
  · rw [reads]
    rfl

end

theorem exists_fieldTable_eq (field : Field) : ∃ more, fieldTable field = '{' :: more := ⟨_, rfl⟩

theorem readItems_fields {fields : List Field} (some : fields ≠ [])
    (formed : ∀ field ∈ fields, WellFormed field.type) (steps room : Nat) (rest : List Char)
    (enough : fields.length + 4 ≤ steps) :
    readItems steps (room + 1) (listed (fields.map fieldTable) ++ ']' :: rest) =
      .some (fields.map fieldNode, rest) := by
  induction fields generalizing steps with
  | nil => exact absurd rfl some
  | cons field more ih =>
    rw [List.forall_mem_cons] at formed
    rw [List.length_cons] at enough
    obtain ⟨fewer, rfl⟩ : ∃ fewer, steps = fewer + 5 := Nat.exists_eq_add_of_le' (by omega)
    obtain ⟨inner, shape⟩ := exists_fieldTable_eq field
    cases more with
    | nil =>
      have read := readValue_fieldTable formed.1 fewer room (']' :: rest)
      rw [listed, List.map_cons, List.map_nil, List.intercalate_singleton]
      rw [shape, List.cons_append] at read ⊢
      exact readItems_last rfl (by decide) read
    | cons next others =>
      have later := ih (by simp) formed.2 (fewer + 4) (by omega)
      have read := readValue_fieldTable formed.1 fewer room
        (',' :: (listed ((next :: others).map fieldTable) ++ ']' :: rest))
      rw [List.map_cons, List.map_cons, listed_cons_cons, List.append_assoc, List.cons_append,
        ← List.map_cons]
      rw [shape, List.cons_append] at read ⊢
      rw [readItems_more rfl (by decide) read, later]
      rfl

theorem readValue_fieldArray {fields : List Field} (some : fields ≠ [])
    (formed : ∀ field ∈ fields, WellFormed field.type) (steps room : Nat) (rest : List Char)
    (enough : fields.length + 4 ≤ steps) :
    readValue (steps + 1) (room + 2) (fieldArray fields ++ rest) =
      .some (.array (fields.map fieldNode), rest) := by
  have opened : ∀ text, readValue (steps + 1) (room + 2) ('[' :: text) =
      (readItems steps (room + 1) text).map fun read => (.array read.1, read.2) := fun _ => rfl
  rw [fieldArray, List.cons_append, List.append_assoc, List.singleton_append, opened,
    readItems_fields some formed steps room rest enough]
  rfl

/-! ## Sections -/

/-- A record as a section. -/
def recordSection (record : Record) : List Char :=
  '[' :: quoted record.name ++ [']', '\n', 'f', 'i', 'e', 'l', 'd', 's', '='] ++
    fieldArray record.fields ++ ['\n']

/-- The statements of a section. -/
def statementsOf (record : Record) : List Statement :=
  [.openSection ⟨[], record.name⟩,
    .assign ⟨[], "fields"⟩ (.array (record.fields.map fieldNode))]

/-- The document that writes records. -/
def document (records : List Record) : String :=
  String.ofList (records.flatMap recordSection)

theorem readStatement_header (steps : Nat) {name : String} (ordinary : Ordinary name)
    (rest : List Char) :
    readStatement steps ('[' :: (quoted name ++ ']' :: rest)) =
      some (.openSection ⟨[], name⟩, rest) := by
  show (readKey (quoted name ++ ']' :: rest)).bind _ = _
  rw [readKey_quoted ordinary]
  rfl

theorem readStatement_fields {steps : Nat} {value rest : List Char} {node : Node}
    (reads : readValue steps maxNesting ('[' :: value) = some (node, rest)) :
    readStatement steps ('f' :: 'i' :: 'e' :: 'l' :: 'd' :: 's' :: '=' :: '[' :: value) =
      some (.assign ⟨[], "fields"⟩ node, rest) := by
  have opened : readStatement steps
      ('f' :: 'i' :: 'e' :: 'l' :: 'd' :: 's' :: '=' :: '[' :: value) =
        (readValue steps maxNesting ('[' :: value)).map fun read =>
          (.assign ⟨[], "fields"⟩ read.1, read.2) := rfl
  rw [opened, reads]
  rfl

theorem readStatements_line {steps lines : Nat} {c : Char} {text rest : List Char}
    {statement : Statement} (solid : skipTrivia false (c :: text) = some (c :: text))
    (reads : readStatement steps (c :: text) = some (statement, '\n' :: rest)) :
    readStatements steps (lines + 1) (c :: text) =
      (readStatements steps lines rest).map (statement :: ·) := by
  rw [readStatements, solid, Option.bind_some]
  simp only [reads, Option.bind_some]
  rfl

theorem readStatements_section {record : Record}
    (formed : ∀ field ∈ record.fields, WellFormed field.type) {steps : Nat} (lines : Nat)
    (rest : List Char) (enough : record.fields.length + 5 ≤ steps) :
    readStatements steps (lines + 2) (recordSection record ++ rest) =
      (readStatements steps lines rest).map (statementsOf record ++ ·) := by
  obtain ⟨fewer, rfl⟩ : ∃ fewer, steps = fewer + 1 := Nat.exists_eq_add_of_le' (by omega)
  have shape : recordSection record ++ rest =
      '[' :: (quoted record.name ++ ']' :: '\n' :: 'f' :: 'i' :: 'e' :: 'l' :: 'd' :: 's' ::
        '=' :: (fieldArray record.fields ++ '\n' :: rest)) := by
    simp only [recordSection, List.append_assoc, List.cons_append, List.nil_append]
  have header := readStatement_header (fewer + 1) (ordinary_of_isIdentifier record.name_valid)
    ('\n' :: 'f' :: 'i' :: 'e' :: 'l' :: 'd' :: 's' :: '=' ::
      (fieldArray record.fields ++ '\n' :: rest))
  have value : readValue (fewer + 1) maxNesting (fieldArray record.fields ++ '\n' :: rest) =
      some (.array (record.fields.map fieldNode), '\n' :: rest) :=
    readValue_fieldArray record.fields_ne_nil formed fewer (maxNesting - 2) ('\n' :: rest)
      (by omega)
  have fields := readStatement_fields value
  rw [shape, readStatements_line rfl header]
  refine (congrArg _ (readStatements_line rfl fields)).trans ?_
  rw [Option.map_map]
  rfl

theorem length_fields_le (fields : List Field) :
    fields.length ≤ (listed (fields.map fieldTable)).length := by
  induction fields with
  | nil => exact Nat.le_refl 0
  | cons field more ih =>
    have filled : 1 ≤ (fieldTable field).length := by simp [fieldTable]
    cases more with
    | nil => simpa [listed] using filled
    | cons next others =>
      rw [List.map_cons, List.map_cons, listed_cons_cons, List.length_append,
        List.length_cons (a := ','), List.length_cons (a := field), ← List.map_cons]
      omega

theorem length_recordSection (record : Record) :
    record.fields.length + 10 ≤ (recordSection record).length := by
  have long := length_fields_le record.fields
  simp only [recordSection, quoted, fieldArray, List.length_append, List.length_cons,
    List.length_nil]
  omega

theorem readStatements_document {records : List Record}
    (formed : ∀ record ∈ records, ∀ field ∈ record.fields, WellFormed field.type)
    {steps lines : Nat} (enough : (records.flatMap recordSection).length ≤ steps)
    (enoughLines : (records.flatMap recordSection).length + 1 ≤ lines) :
    readStatements steps lines (records.flatMap recordSection) =
      some (records.flatMap statementsOf) := by
  induction records generalizing lines with
  | nil =>
    obtain ⟨fewer, rfl⟩ : ∃ fewer, lines = fewer + 1 := Nat.exists_eq_add_of_le' (by omega)
    rfl
  | cons record rest ih =>
    rw [List.forall_mem_cons] at formed
    rw [List.flatMap_cons, List.length_append] at enough enoughLines
    have long := length_recordSection record
    obtain ⟨fewer, rfl⟩ : ∃ fewer, lines = fewer + 2 := Nat.exists_eq_add_of_le' (by omega)
    rw [List.flatMap_cons, readStatements_section formed.1 fewer _ (by omega),
      ih formed.2 (by omega) (by omega), Option.map_some, List.flatMap_cons]

theorem parse?_of_unmarked {chars : List Char} (unmarked : ∀ rest, chars ≠ '\ufeff' :: rest) :
    parse? (String.ofList chars) =
      (readStatements (2 * chars.length + 2) (chars.length + 1) chars).bind fun statements =>
        (statements.foldlM Progress.step ⟨[], []⟩).map Progress.root := by
  rw [parse?, String.toList_ofList]
  split
  · next rest => exact absurd rfl (unmarked rest)
  · rfl

theorem parse?_document {records : List Record}
    (formed : ∀ record ∈ records, ∀ field ∈ record.fields, WellFormed field.type) :
    parse? (document records) =
      ((records.flatMap statementsOf).foldlM Progress.step ⟨[], []⟩).map Progress.root := by
  have unmarked : ∀ rest, records.flatMap recordSection ≠ '\ufeff' :: rest := by
    cases records with
    | nil => exact fun rest same => List.cons_ne_nil _ _ same.symm
    | cons record rest =>
      intro others same
      exact absurd (List.cons.inj same).1 (by decide)
  rw [document, parse?_of_unmarked unmarked,
    readStatements_document formed (by omega) (Nat.le_refl _), Option.bind_some]

/-! ## Carrying out -/

/-- The table of a record. -/
def recordNode (record : Record) : Node :=
  .table .header [("fields", .array (record.fields.map fieldNode))]

/-- The table of the document that writes records. -/
def root (records : List Record) : Table :=
  records.map fun record => (record.name, recordNode record)

namespace Table

theorem get?_of_not_mem {table : Table} {key : String} (absent : key ∉ table.keys) :
    table.get? key = none := by
  rw [get?, List.lookup_eq_none_iff]
  intro entry among
  have other : key ≠ entry.1 := by
    rintro rfl
    exact absent (List.mem_map_of_mem among)
  simpa using other

theorem get?_append_self {table : Table} {key : String} (absent : key ∉ table.keys)
    (value : Node) : get? (table ++ [(key, value)]) key = some value := by
  have missing : List.lookup key table = none := get?_of_not_mem absent
  simp [get?, List.lookup_append, missing]

theorem put_append_self {table : Table} {key : String} (absent : key ∉ table.keys)
    (old value : Node) : put key value (table ++ [(key, old)]) = table ++ [(key, value)] := by
  induction table with
  | nil => simp [put]
  | cons entry rest ih =>
    rw [keys, List.map_cons, List.mem_cons, not_or] at absent
    rw [List.cons_append, put, if_neg (Ne.symm absent.1), ih absent.2, List.cons_append]

end Table

theorem step_section {table : Table} {record : Record} (absent : record.name ∉ table.keys)
    (current : List String) :
    (statementsOf record).foldlM Progress.step ⟨current, table⟩ =
      some ⟨[record.name], table ++ root [record]⟩ := by
  have opened : table.addSection ⟨[], record.name⟩ =
      some (table ++ [(record.name, .table .header [])]) := by
    simp [Table.addSection, Table.update, Table.get?_of_not_mem absent]
  have assigned : ∀ value : Node, Table.assign ⟨[], "fields"⟩ value [] =
      some [("fields", value)] := fun _ => rfl
  simp [statementsOf, Progress.step, opened, Table.update, Table.get?_append_self absent,
    Table.put_append_self absent, assigned, root, recordNode]

theorem foldlM_step_document {records : List Record} (current : List String) (table : Table)
    (distinct : (table.keys ++ records.map Record.name).Nodup) :
    ((records.flatMap statementsOf).foldlM Progress.step ⟨current, table⟩).map Progress.root =
      some (table ++ root records) := by
  induction records generalizing current table with
  | nil => rw [root, List.map_nil, List.append_nil]; rfl
  | cons record rest ih =>
    rw [List.map_cons] at distinct
    have absent : record.name ∉ table.keys := by
      intro among
      exact List.disjoint_of_nodup_append distinct among List.mem_cons_self
    have later : (Table.keys (table ++ root [record]) ++ rest.map Record.name).Nodup := by
      simpa [Table.keys, root] using distinct
    rw [List.flatMap_cons, List.foldlM_append, step_section absent]
    refine (ih [record.name] _ later).trans ?_
    rw [List.append_assoc]
    rfl

end Toml

namespace Outline

open Recordsmith.Toml

theorem tomlEntry?_fieldNode (field : Field) :
    tomlEntry? (fieldNode field) = some (.typed field.type.render field.name) := by
  simp [fieldNode, tomlEntry?, tomlTable?, tomlEntriesReadable, tomlReadable,
    FieldEntry.ofMembers?, tomlText?]

theorem tomlRecord?_recordNode (record : Record) :
    tomlRecord? (recordNode record) =
      some (record.fields.map fun field => .typed field.type.render field.name) := by
  have fields : tomlFields? (.array (record.fields.map fieldNode)) =
      some (record.fields.map fun field => .typed field.type.render field.name) :=
    mapM_map_eq_some tomlEntry?_fieldNode record.fields
  simp [tomlRecord?, recordNode, Table.get?, fields]

theorem ofToml?_root (records : List Record) : ofToml? (root records) = some (written records) := by
  apply mapM_map_eq_some
  intro record
  show (tomlRecord? (recordNode record)).map _ = _
  rw [tomlRecord?_recordNode]
  rfl

end Outline

/-- The outline of the document that writes records is theirs. -/
theorem SchemaFile.outline_toml {records : List Record}
    (distinct : (records.map Record.name).Nodup)
    (formed : ∀ record ∈ records, ∀ field ∈ record.fields, WellFormed field.type)
    (path : String) :
    SchemaFile.outline (Toml.document records) .toml path = .ok (Outline.written records) := by
  rw [SchemaFile.outline, Toml.parse?_document formed,
    Toml.foldlM_step_document [] [] distinct, Option.bind_some, List.nil_append,
    Outline.ofToml?_root]

end Recordsmith
