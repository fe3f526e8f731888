/-
# Recordsmith.Proofs.Class.PureJson — what `toMap` writes is JSON

`Value.IsJson` are the values that a JSON encoder takes as they are: null, booleans,
numbers, texts, and lists and maps of these. Neither a date nor an instance of a record
is among them, at any depth. `Exportable` values are those whose JSON form is up to the
declared types: what lies under `dynamic` or `Object` is JSON already, and instances of
records go out by their own `toMap`.

The writing expression passes a container as it is where `needsConversion` says that
nothing in it changes. `Exportable.isJson_of_unconverted` says that this is right,
however deep the container is, and `yields_encoded` that the rest is converted.

`Yields` speaks about results and about their existence at once. A field may be called
`MapEntry` or `null`, and then the expressions of its class read something else than
what they were written for. Such names make no result impure, but they may prevent it.
-/
import Recordsmith.Proofs.Class.Acceptance
import Recordsmith.Proofs.Class.RoundTrip

namespace Recordsmith.Dart

open Recordsmith.Member

set_option autoImplicit false

variable {Date : Type} {rt : Runtime Date} {calls : Callees Date} {scope : Scope Date}

/-! ## Results and their existence -/

/-- A result is good, and there is one if the way is clear. -/
def Yields {α : Type} (clear : Prop) (good : α → Prop) : Except Failure α → Prop
  | .ok result => good result
  | .error _ => ¬clear

theorem yields_false_iff {α : Type} {good : α → Prop} {outcome : Except Failure α} :
    Yields False good outcome ↔ ∀ result, outcome = .ok result → good result := by
  cases outcome with
  | ok result => simp [Yields]
  | error failure => simp [Yields]

theorem yields_true_iff {α : Type} {good : α → Prop} {outcome : Except Failure α} :
    Yields True good outcome ↔ ∃ result, outcome = .ok result ∧ good result := by
  cases outcome with
  | ok result => simp [Yields]
  | error failure => simp [Yields]

namespace Yields

variable {α β : Type} {clear : Prop} {good : α → Prop} {fine : β → Prop}

theorem bind {outcome : Except Failure α} {next : α → Except Failure β}
    (yields : Yields clear good outcome) (each : ∀ a, good a → Yields clear fine (next a)) :
    Yields clear fine (outcome.bind next) := by
  cases outcome with
  | ok result => exact each result yields
  | error failure => exact yields

theorem map {outcome : Except Failure α} {f : α → β} (yields : Yields clear good outcome)
    (each : ∀ a, good a → fine (f a)) : Yields clear fine (outcome.map f) := by
  cases outcome with
  | ok result => exact each result yields
  | error failure => exact yields

theorem mapM {f : α → Except Failure β} {items : List α}
    (each : ∀ item ∈ items, Yields clear fine (f item)) :
    Yields clear (fun results => ∀ result ∈ results, fine result) (items.mapM f) := by
  induction items with
  | nil =>
    intro result member
    cases member
  | cons item rest ih =>
    rw [List.mapM_cons]
    have others := ih fun later member => each later (by simp [member])
    refine (each item (by simp)).bind fun first isFine => others.bind fun results areFine => ?_
    exact List.forall_mem_cons.2 ⟨isFine, areFine⟩

end Yields

/-! ## JSON values -/

/-- The values that are their own JSON form. -/
inductive Value.IsJson : Value Date → Prop where
  | null : IsJson .null
  | bool (truth : Bool) : IsJson (.bool truth)
  | int (number : Int) : IsJson (.int number)
  | double (bits : UInt64) : IsJson (.double bits)
  | str (text : String) : IsJson (.str text)
  | list {items : List (Value Date)} (each : ∀ item ∈ items, IsJson item) : IsJson (.list items)
  | map {entries : List (String × Value Date)} (each : ∀ entry ∈ entries, IsJson entry.2) :
      IsJson (.map entries)

/-- A value of a type that can be written as JSON if its instances of records go out. -/
inductive Exportable (goesOut : Value Date → Prop) : TypeExpr → Value Date → Prop where
  | null {type : TypeExpr} (nullable : type.nullable = true) : Exportable goesOut type .null
  | builtin {name : String} {nullable : Bool} {builtin : Builtin} {value : Value Date}
      (named : Builtin.ofName? name = some builtin) (inhabits : value.ofBuiltin builtin = true)
      (anything : builtin = .dynamic ∨ builtin = .object → value.IsJson) :
      Exportable goesOut (.scalar name nullable) value
  | record {name : String} {nullable : Bool} {fields : List (String × Value Date)}
      (named : Builtin.ofName? name = none) (out : goesOut (.object name fields)) :
      Exportable goesOut (.scalar name nullable) (.object name fields)
  | list {element : TypeExpr} {nullable : Bool} {items : List (Value Date)}
      (each : ∀ item ∈ items, Exportable goesOut element item) :
      Exportable goesOut (.list element nullable) (.list items)
  | map {key inner : TypeExpr} {nullable : Bool} {entries : List (String × Value Date)}
      (each : ∀ entry ∈ entries, Exportable goesOut inner entry.2) :
      Exportable goesOut (.map key inner nullable) (.map entries)

theorem Value.isJson_of_ofBuiltin {builtin : Builtin} {value : Value Date}
    (inhabits : value.ofBuiltin builtin = true) (plain : builtin.needsConversion = false)
    (anything : builtin = .dynamic ∨ builtin = .object → value.IsJson) : value.IsJson := by
  cases builtin with
  | dynamic => exact anything (.inl rfl)
  | object => exact anything (.inr rfl)
  | dateTime => cases plain
  | string | int | double | num | bool =>
    cases value <;> first | (cases inhabits; done) | constructor

/-- What is passed as it is contains nothing to convert. -/
theorem Exportable.isJson_of_unconverted {goesOut : Value Date → Prop} {type : TypeExpr}
    {value : Value Date} (exportable : Exportable goesOut type value)
    (unconverted : needsConversion type = false) : value.IsJson := by
  induction exportable with
  | null nullable => exact .null
  | builtin named inhabits anything =>
    apply Value.isJson_of_ofBuiltin inhabits _ anything
    simpa [needsConversion, isPlain, TypeExpr.builtin?, named] using unconverted
  | record named out => simp [needsConversion, isPlain, TypeExpr.builtin?, named] at unconverted
  | list each ih => exact .list fun item member => ih item member unconverted
  | map each ih => exact .map fun entry member => ih entry member unconverted

/-! ## Entries -/

theorem mem_of_mem_foldl_putEntry {entries front : List (String × Value Date)}
    {entry : String × Value Date} (member : entry ∈ entries.foldl putEntry front) :
    entry ∈ front ∨ entry ∈ entries := by
  induction entries generalizing front with
  | nil => exact .inl member
  | cons first rest ih =>
    rcases ih member with inside | later
    · rw [putEntry] at inside
      split at inside
      · obtain ⟨old, oldMember, rfl⟩ := List.mem_map.1 inside
        split
        · exact .inr (by simp)
        · exact .inl oldMember
      · rcases List.mem_append.1 inside with before | here
        · exact .inl before
        · exact .inr (by simp [List.mem_singleton.1 here])
    · exact .inr (by simp [later])

theorem isJson_mapOf {entries : List (String × Value Date)}
    (each : ∀ entry ∈ entries, entry.2.IsJson) : (mapOf entries).IsJson := by
  refine .map fun entry member => ?_
  rcases mem_of_mem_foldl_putEntry member with none | inside
  · cases none
  · exact each entry inside

/-! ## Writing -/

theorem Reads.eval_map_toList {target body : Expr} {nullSafe : Bool} {param : String}
    {items : List (Value Date)} (reads : Reads rt calls scope target (.list items)) :
    eval rt calls scope
        (((Expr.member target "map" nullSafe).invoke [.lambda [param] body]).method "toList" []) =
      (items.mapM (m := Except Failure) fun item =>
        eval rt calls (scope.enter [param] [item]) body).map .list := by
  rw [Expr.invoke, eval_toList_map rfl reads.run_map_items]
  cases items.mapM (m := Except Failure) _ <;> rfl

theorem Reads.eval_map_entryLambda {target body : Expr} {nullSafe : Bool}
    {keyParam valueParam : String} {entries : List (String × Value Date)}
    (reads : Reads rt calls scope target (.map entries)) :
    eval rt calls scope
        ((Expr.member target "map" nullSafe).invoke [entryLambda keyParam valueParam body]) =
      (entries.mapM (m := Except Failure) fun entry =>
        (eval rt calls (scope.enter [keyParam, valueParam] [.str entry.1, entry.2])
          ((Expr.ident "MapEntry").invoke [.ident keyParam, body])).bind asEntry).map mapOf := by
  rw [eval, Expr.invoke, entryLambda, reads.run_map_pairs, settle_map_some]
  cases entries.mapM (m := Except Failure) _ <;> rfl

section Writing

variable {clear : Prop}

/-- The lambda over the entries of a map, applied to one of them. -/
theorem yields_entry {good : Value Date → Prop} {depth : Nat} {text : String} {value : Value Date}
    {body : Expr} (free : clear → scope.lookup? "MapEntry" = none)
    (inner : Yields clear good (eval rt calls
      (scope.enter [paramName "key" depth, paramName "val" depth] [.str text, value]) body)) :
    Yields clear (fun entry => good entry.2)
      ((eval rt calls
        (scope.enter [paramName "key" depth, paramName "val" depth] [.str text, value])
        ((Expr.ident "MapEntry").invoke [.ident (paramName "key" depth), body])).bind asEntry) := by
  rw [Expr.invoke, eval_call_ident, plainArgs_runArgs_of_ok (reads_key depth _ value).eval_eq,
    plainArgs_runArgs_singleton]
  generalize eval rt calls _ body = outcome at inner
  cases outcome with
  | error failure => exact inner
  | ok result =>
    change Yields clear _ (Except.bind (if _ then _ else _) asEntry)
    split
    · exact inner
    · next hidden =>
      intro isClear
      apply hidden
      rw [lookup?_enter_entry (by decide)]
      exact free isClear

theorem yields_unconverted {goesOut : Value Date → Prop} {type : TypeExpr} {value : Value Date}
    {expr : Expr} (exportable : Exportable goesOut type value)
    (unconverted : needsConversion type = false) (reads : Reads rt calls scope expr value)
    (depth : Nat) : Yields clear Value.IsJson (eval rt calls scope (encoded type expr depth)) := by
  rw [encoded_of_unconverted unconverted, reads.eval_eq]
  exact exportable.isJson_of_unconverted unconverted

/-- What is converted must not be null, unless the type says so. -/
theorem eval_encoded_null_error {type : TypeExpr} {expr : Expr} (supported : type.fault? = none)
    (required : type.nullable = false) (converted : needsConversion type = true)
    (reads : Reads rt calls scope expr .null) (depth : Nat) :
    eval rt calls scope (encoded type expr depth) = .error .nullCheck := by
  have empty : runArgs rt calls scope [] = .ok [] := rfl
  cases type with
  | scalar name mark =>
    obtain rfl : mark = false := required
    rw [encoded]
    split
    · exact eval_of_run_error (reads.run_method_null (by decide) empty)
    · next builtin notDate named =>
      rw [needsConversion, isPlain, TypeExpr.builtin?, named] at converted
      cases builtin <;> simp_all [Builtin.needsConversion]
    · exact eval_of_run_error (reads.run_method_null (by decide) empty)
  | list element mark =>
    obtain rfl : mark = false := required
    rw [needsConversion] at converted
    rw [encoded, if_pos converted]
    exact eval_of_run_error
      (run_method_error rfl (reads.run_method_null (by decide) (runArgs_lambda _ _)))
  | map key inner mark =>
    obtain rfl : mark = false := required
    rw [needsConversion] at converted
    rw [encoded, if_pos converted]
    exact eval_of_run_error (reads.run_method_null (by decide) (runArgs_lambda _ _))
  | generic name args mark => cases supported

/-- A null goes out as null, if it goes out at all. -/
theorem yields_encoded_null {type : TypeExpr} {expr : Expr} (supported : type.fault? = none)
    (blocked : ¬clear) (reads : Reads rt calls scope expr .null) (depth : Nat) :
    Yields clear Value.IsJson (eval rt calls scope (encoded type expr depth)) := by
  cases nullable : type.nullable with
  | true =>
    rw [eval_encoded_null nullable reads depth]
    exact .null
  | false =>
    cases converted : needsConversion type with
    | true =>
      rw [eval_encoded_null_error supported nullable converted reads depth]
      exact blocked
    | false =>
      rw [encoded_of_unconverted converted, reads.eval_eq]
      exact .null

/-- What is written for an exportable value is JSON. -/
theorem yields_encoded {goesOut : Value Date → Prop} {type : TypeExpr} {value : Value Date}
    (exportable : Exportable goesOut type value)
    (records : ∀ object, goesOut object →
      Yields clear Value.IsJson (calls.method "toMap" object)) :
    ∀ {scope : Scope Date} {expr : Expr} (depth : Nat),
      (clear → scope.lookup? "MapEntry" = none) → Reads rt calls scope expr value →
      Yields clear Value.IsJson (eval rt calls scope (encoded type expr depth)) := by
  induction exportable with
  | null nullable =>
    intro scope expr depth _ reads
    rw [eval_encoded_null nullable reads depth]
    exact .null
  | @builtin name nullable builtin value named inhabits anything =>
    intro scope expr depth _ reads
    have whole : Exportable goesOut (.scalar name nullable) value :=
      .builtin named inhabits anything
    cases converted : needsConversion (.scalar name nullable) with
    | false => exact yields_unconverted whole converted reads depth
    | true =>
      obtain rfl : builtin = .dateTime := by
        rw [needsConversion, isPlain, TypeExpr.builtin?, named] at converted
        cases builtin <;> first | rfl | cases converted
      obtain ⟨moment, rfl⟩ : ∃ moment, value = .date moment := by
        cases value <;> first | exact ⟨_, rfl⟩ | cases inhabits
      simp only [encoded, named]
      rw [Expr.invoke, reads.eval_method rfl (by decide) rfl]
      exact Value.IsJson.str _
  | record named out =>
    intro scope expr depth _ reads
    simp only [encoded, named]
    rw [Expr.invoke, reads.eval_method rfl (by decide) rfl]
    exact records _ out
  | @list element nullable items each ih =>
    intro scope expr depth free reads
    cases converted : needsConversion element with
    | false => exact yields_unconverted (.list each) converted reads depth
    | true =>
      rw [encoded, if_pos converted, reads.eval_map_toList]
      refine (Yields.mapM ?_).map fun items areJson => Value.IsJson.list areJson
      intro item member
      apply ih item member (depth + 1) _ (reads_elt depth item)
      rw [lookup?_enter_elt (by decide)]
      exact free
  | @map key inner nullable entries each ih =>
    intro scope expr depth free reads
    cases converted : needsConversion inner with
    | false => exact yields_unconverted (.map each) converted reads depth
    | true =>
      rw [encoded, if_pos converted, reads.eval_map_entryLambda]
      refine (Yields.mapM ?_).map fun entries areJson => isJson_mapOf areJson
      intro entry member
      apply yields_entry free
      apply ih entry member (depth + 1) _ (reads_val depth _ _)
      rw [lookup?_enter_entry (by decide)]
      exact free

theorem yields_runEntries {α : Type} {good : Value Date → Prop} {name : α → String}
    {expr : α → Expr} (slots : List α)
    (each : ∀ slot ∈ slots, Yields clear good (eval rt calls scope (expr slot))) :
    Yields clear (fun entries => ∀ entry ∈ entries, good entry.2)
      (runEntries rt calls scope
        (slots.map fun slot => .entry (.str (name slot)) (expr slot))) := by
  induction slots with
  | nil =>
    intro entry member
    cases member
  | cons slot rest ih =>
    have others := ih fun later member => each later (by simp [member])
    rw [List.map_cons, runEntries_entry]
    refine (each slot (by simp)).bind fun value isGood => others.map fun entries areGood => ?_
    exact List.forall_mem_cons.2 ⟨isGood, areGood⟩

end Writing

end Recordsmith.Dart

namespace Recordsmith.Class

open Recordsmith.Dart

set_option autoImplicit false

/-! ## Instances -/

section Instances

variable {Date : Type} {rt : Runtime Date} {calls : Callees Date} {program : Program}
  {options : ClassOptions} {record : Record} {slots : List (Slot Date)} {clear : Prop}
  {goesOut : Value Date → Prop}

theorem yields_toMapExpr (supported : record.unsupported? = none)
    (fields : slots.map Slot.field = record.fields)
    (named : clear → ∀ field ∈ record.fields, field.name ≠ "null" ∧ field.name ≠ "MapEntry")
    (records : ∀ object, goesOut object → Yields clear Value.IsJson (calls.method "toMap" object))
    {slot : Slot Date} (inside : slot ∈ slots)
    (exportable : Exportable goesOut slot.field.type slot.value) :
    Yields clear Value.IsJson
      (eval rt calls ⟨[], slots.map Slot.binding⟩ (Member.toMapExpr slot.field)) := by
  have found : (⟨[], slots.map Slot.binding⟩ : Scope Date).lookup? slot.field.name =
      some slot.value := lookup_slot fields inside
  by_cases isNull : slot.field.name = "null"
  · -- The name is the literal here, whatever the field holds.
    have reads : Reads rt calls ⟨[], slots.map Slot.binding⟩ (.ident slot.field.name) .null := {
      run_eq := by rw [isNull]; rfl
      noClass := fun function plain => by simp [Scope.class?, plain, found] }
    have member := field_mem fields inside
    exact yields_encoded_null (fault?_of_unsupported? supported member)
      (fun isClear => (named isClear _ member).1 isNull) reads 0
  · apply yields_encoded exportable records 0 _ (Reads.ident found isNull)
    intro isClear
    exact lookup?_bindings_eq_none fields fun field member => (named isClear field member).2

theorem yields_method_toMap (assembled : program record.name = some (ofRecord options record))
    (fields : slots.map Slot.field = record.fields)
    (each : ∀ slot ∈ slots, Yields clear Value.IsJson
      (eval rt calls ⟨[], slots.map Slot.binding⟩ (Member.toMapExpr slot.field))) :
    Yields clear Value.IsJson (program.method rt calls "toMap" (withSlots record slots) []) := by
  rw [withSlots, method_toMap assembled, map_fields_eq fields, eval, run_mapLit]
  have written : Yields clear (fun entries => ∀ entry ∈ entries, entry.2.IsJson)
      (runEntries rt calls ⟨[], slots.map Slot.binding⟩ (slots.map fun slot =>
        .entry (.str slot.field.name) (Member.toMapExpr slot.field))) :=
    yields_runEntries slots each
  generalize runEntries rt calls _ _ = outcome at written
  cases outcome with
  | ok entries => exact isJson_mapOf written
  | error failure => exact written

/-- **`toMap` gives pure JSON.** Take an instance whose fields have values of their types,
with JSON wherever the type allows anything, and with instances of records whose `toMap`
gives JSON, if it gives something. Then what is written for a field is JSON, and so is the
map of the whole instance, if there is one. And there is one, for each field and for the
instance, if there is one for these records and no field is called `null` or `MapEntry`. -/
theorem toMap_isJson {decl : Expr} (assembles : assemble options record = .ok decl)
    (assembled : program record.name = some decl)
    (fields : slots.map Slot.field = record.fields)
    (each : ∀ slot ∈ slots, Exportable
      (fun object => ∀ json, calls.method "toMap" object = .ok json → json.IsJson)
      slot.field.type slot.value) :
    (∀ slot ∈ slots, ∃ expr, Member.toMap record slot.field = .ok expr ∧
      ∀ json, eval rt calls ⟨[], slots.map Slot.binding⟩ expr = .ok json → json.IsJson) ∧
    (∀ json, program.method rt calls "toMap" (withSlots record slots) [] = .ok json →
      json.IsJson) ∧
    ((∀ field ∈ record.fields, field.name ≠ "null" ∧ field.name ≠ "MapEntry") →
      (∀ slot ∈ slots, Exportable
        (fun object => ∃ json, calls.method "toMap" object = .ok json ∧ json.IsJson)
        slot.field.type slot.value) →
      (∀ slot ∈ slots, ∃ expr json, Member.toMap record slot.field = .ok expr ∧
        eval rt calls ⟨[], slots.map Slot.binding⟩ expr = .ok json) ∧
      ∃ json, program.method rt calls "toMap" (withSlots record slots) [] = .ok json) := by
  obtain ⟨supported, rfl⟩ := ofRecord_of_assemble assembles
  have made : ∀ slot ∈ slots,
      Member.toMap record slot.field = .ok (Member.toMapExpr slot.field) := by
    intro slot inside
    have slotSupported := Record.unsupported?_eq_none_iff.1 supported _ (field_mem fields inside)
    rw [Member.toMap_eq, Member.refusal_of_supported record slotSupported]
  have pure : ∀ slot ∈ slots, Yields False Value.IsJson
      (eval rt calls ⟨[], slots.map Slot.binding⟩ (Member.toMapExpr slot.field)) := by
    intro slot inside
    exact yields_toMapExpr supported fields False.elim (fun object => yields_false_iff.2) inside
      (each slot inside)
  refine ⟨?_, yields_false_iff.1 (yields_method_toMap assembled fields pure), ?_⟩
  · intro slot inside
    exact ⟨_, made slot inside, yields_false_iff.1 (pure slot inside)⟩
  · intro named present
    have total : ∀ slot ∈ slots, Yields True Value.IsJson
        (eval rt calls ⟨[], slots.map Slot.binding⟩ (Member.toMapExpr slot.field)) := by
      intro slot inside
      exact yields_toMapExpr supported fields (fun _ => named) (fun object => yields_true_iff.2)
        inside (present slot inside)
    obtain ⟨json, written, -⟩ := yields_true_iff.1 (yields_method_toMap assembled fields total)
    refine ⟨?_, json, written⟩
    intro slot inside
    obtain ⟨form, formEq, -⟩ := yields_true_iff.1 (total slot inside)
    exact ⟨_, form, made slot inside, formEq⟩

end Instances

/-- The classes of items and grids, calling one another twice. -/
def gridCalls : Callees Bool :=
  (itemsAndGrids.program {}).callees twoDates 2

theorem toMap_chained :
    gridCalls.method "toMap" (withSlots item (itemSlots (withSlots item (itemSlots .null 2)) 1)) =
      .ok (.map [("next", .map [("next", .null), ("count", .int 2)]), ("count", .int 1)]) :=
  rfl

theorem exportable_gridSlots {goesOut : Value Bool → Prop}
    (out : goesOut (withSlots item (itemSlots (withSlots item (itemSlots .null 2)) 1))) :
    ∀ slot ∈ gridSlots, Exportable goesOut slot.field.type slot.value := by
  rw [gridSlots, List.forall_mem_cons, List.forall_mem_cons, List.forall_mem_singleton]
  refine ⟨.map ?_, .list ?_, .list ?_⟩
  · rw [List.forall_mem_cons, List.forall_mem_singleton]
    refine ⟨.list ?_, .list (by simp)⟩
    rw [List.forall_mem_cons, List.forall_mem_singleton]
    exact ⟨.null rfl, .record rfl out⟩
  · rw [List.forall_mem_singleton]
    refine .map ?_
    rw [List.forall_mem_singleton]
    exact .builtin rfl rfl (by simp)
  · rw [List.forall_mem_cons, List.forall_mem_singleton]
    exact ⟨.builtin rfl rfl fun _ => .null, .builtin rfl rfl fun _ => .double _⟩

theorem toMap_isJson_grid :
    (∀ slot ∈ gridSlots, ∃ expr json, Member.toMap grid slot.field = .ok expr ∧
      eval twoDates gridCalls ⟨[], gridSlots.map Slot.binding⟩ expr = .ok json ∧ json.IsJson) ∧
    ∃ json, (itemsAndGrids.program {}).method twoDates gridCalls "toMap"
      (withSlots grid gridSlots) [] = .ok json ∧ json.IsJson := by
  have isJson : ∀ json,
      gridCalls.method "toMap" (withSlots item (itemSlots (withSlots item (itemSlots .null 2)) 1)) =
        .ok json → json.IsJson := by
    intro json written
    cases toMap_chained.symm.trans written
    refine .map ?_
    rw [List.forall_mem_cons, List.forall_mem_singleton]
    refine ⟨.map ?_, .int 1⟩
    rw [List.forall_mem_cons, List.forall_mem_singleton]
    exact ⟨.null, .int 2⟩
  obtain ⟨slotJson, instanceJson, total⟩ :=
    @toMap_isJson Bool twoDates gridCalls (itemsAndGrids.program {}) {} grid gridSlots
      (ofRecord {} grid) rfl rfl rfl (exportable_gridSlots isJson)
  obtain ⟨slotWritten, json, written⟩ :=
    total (by decide) (exportable_gridSlots ⟨_, toMap_chained, isJson _ toMap_chained⟩)
  refine ⟨?_, json, written, instanceJson json written⟩
  intro slot inside
  obtain ⟨expr, made, pure⟩ := slotJson slot inside
  obtain ⟨same, form, sameMade, formEq⟩ := slotWritten slot inside
  cases made.symm.trans sameMade
  exact ⟨expr, form, made, formEq, pure form formEq⟩

end Recordsmith.Class
