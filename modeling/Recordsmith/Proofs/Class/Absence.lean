/-
# Recordsmith.Proofs.Class.Absence — fields that are missing or null

What `fromMap` makes of a field whose key is not in the map, or is there with `null`:
`null` if the type of the field is marked as nullable, and an error otherwise
(`fromMap_absent`). A null mark guards the expression by a conditional, or leaves out
the `!`. Without it, null runs into a `!`, a parser, a factory, a spread or a cast, and
each of these refuses it (`throws_decoded_null`).

Only the mark counts. The type `dynamic` has null among its values, but a field of this
type is read with `!` like every other builtin (`dynamic_absent_throws`).
-/
import Recordsmith.Proofs.Class.Acceptance
import Recordsmith.Proofs.Class.RoundTrip

namespace Recordsmith.Dart

open Recordsmith.Member

set_option autoImplicit false

variable {Date : Type} {rt : Runtime Date} {calls : Callees Date} {scope : Scope Date}

/-- The evaluation ends with an exception. -/
def Throws (outcome : Outcome Date) : Prop :=
  ∃ failure, failure ≠ .tooDeep ∧ outcome = .error failure

/-! ## Null where a value is needed -/

section Null

variable {expr : Expr} (reads : Reads rt calls scope expr .null)

include reads

theorem eval_bang_null : eval rt calls scope (.bang expr) = .error .nullCheck := by
  rw [eval, run_bang, reads.run_eq]
  rfl

theorem eval_dateTime_parse_null (free : scope.lookup? "DateTime" = none) :
    eval rt calls scope ((Expr.ident "DateTime").method "parse" [expr]) = .error .typeCheck := by
  rw [Expr.method, Expr.dot, Expr.invoke,
    eval_static (class?_of_lookup? _ free) (plainArgs_runArgs_one reads.eval_eq)]
  rfl

theorem eval_listLit_spread_null (type : Option String) :
    eval rt calls scope (.listLit type [.spread expr]) = .error .nullCheck := by
  rw [eval, run_listLit, runItems_spread, reads.eval_eq]
  rfl

theorem eval_mapLit_spread_null (types : Option (String × String)) :
    eval rt calls scope (.mapLit types [.spread expr]) = .error .nullCheck := by
  rw [eval, run_mapLit, runEntries_spread, reads.eval_eq]
  rfl

theorem run_cast_list_null : run rt calls scope (expr.cast "List") = .error .typeCheck := by
  apply run_cast_error reads.eval_eq
  rw [Value.isOf, typeOf?_list]
  rfl

theorem run_cast_map_null :
    run rt calls scope (expr.cast "Map<String, dynamic>") = .error .typeCheck := by
  apply run_cast_error reads.eval_eq
  rw [isOf_mapType_eq_fits]
  rfl

/-- What reads a value that must not be null throws on null, whatever the type. -/
theorem throws_decoded_null {type : TypeExpr} (supported : type.fault? = none)
    (required : type.nullable = false) (dates : scope.lookup? "DateTime" = none)
    (records : ∀ name ∈ type.recordNames, Builtin.ofName? name = none →
      Throws (eval rt calls scope ((Expr.ident name).method "fromMap" [expr]))) (depth : Nat) :
    Throws (eval rt calls scope (decoded type expr depth)) := by
  cases type with
  | scalar name nullable =>
    obtain rfl : nullable = false := required
    rw [decoded]
    split
    · exact ⟨.typeCheck, by decide, eval_dateTime_parse_null reads dates⟩
    · exact ⟨.nullCheck, by decide, eval_bang_null reads⟩
    · next custom => exact records name (by simp [TypeExpr.recordNames, custom]) custom
  | list element nullable =>
    obtain rfl : nullable = false := required
    rw [decoded, unlessNull, if_neg Bool.false_ne_true]
    split
    · exact ⟨.nullCheck, by decide, eval_listLit_spread_null reads _⟩
    · refine ⟨.typeCheck, by decide, eval_of_run_error ?_⟩
      exact run_method_error rfl (run_method_error rfl (run_cast_list_null reads))
  | map key inner nullable =>
    obtain rfl : nullable = false := required
    rw [decoded, unlessNull, if_neg Bool.false_ne_true]
    split
    · exact ⟨.nullCheck, by decide, eval_mapLit_spread_null reads _⟩
    · refine ⟨.typeCheck, by decide, eval_of_run_error ?_⟩
      exact run_method_error rfl (run_cast_map_null reads)
  | generic name args nullable => cases supported

end Null

end Recordsmith.Dart

namespace Recordsmith.Class

open Recordsmith.Dart

variable {Date : Type} {rt : Runtime Date} {calls : Callees Date}

/-- The factory of a generated class takes no null. -/
theorem factory_fromMap_null {program : Program} {options : ClassOptions} {record : Record}
    (assembled : program record.name = some (ofRecord options record)) :
    program.factory rt calls record.name "fromMap" .null = .error .typeCheck := by
  have named : record.name ++ "." ++ "fromMap" = record.name ++ ".fromMap" := by
    rw [String.append_assoc]
    rfl
  have refused : (Value.null : Value Date).isOf mapType = false := isOf_mapType_eq_fits _
  simp [Program.factory, assembled, named, findMember?_fromMap, typed, bindParams, refused,
    Except.bind]

end Recordsmith.Class

namespace Recordsmith.Member

open Recordsmith.Dart

variable {Date : Type} {rt : Runtime Date} {calls : Callees Date}

/-! ## Fields -/

theorem reads_raw (entries : List (String × Value Date)) :
    Reads rt calls ⟨[("raw", .map entries)], []⟩ (.ident "raw") (.map entries) :=
  Reads.ident (by simp [Scope.lookup?]) (by decide)

/-- A record is read by its factory, unless it is called `raw`: then the call goes to the
map, which has no such method. -/
theorem throws_fromMap_null {entries : List (String × Value Date)} {expr : Expr} {name : String}
    (named : Builtin.ofName? name = none)
    (reads : Reads rt calls ⟨[("raw", .map entries)], []⟩ expr .null)
    (refused : Throws (calls.factory name "fromMap" .null)) :
    Throws (eval rt calls ⟨[("raw", .map entries)], []⟩
      ((Expr.ident name).method "fromMap" [expr])) := by
  by_cases isRaw : name = "raw"
  · subst isRaw
    refine ⟨.unbound "fromMap", by decide, ?_⟩
    rw [Expr.method, Expr.dot, Expr.invoke,
      (reads_raw entries).eval_method rfl (by decide) (runArgs_cons reads.eval_eq rfl)]
    rfl
  · have free : (⟨[("raw", .map entries)], []⟩ : Scope Date).lookup? name = none := by
      simp [Scope.lookup?, List.lookup_cons, beq_false_of_ne isRaw]
    rw [eval_fromMap named free reads.eval_eq]
    exact refused

/-- **Null and missing fields.** For a field of a supported type, take a map in which its
key is missing or null. What reads the field gives null if the type is marked as nullable,
and throws otherwise, if the factories of the records it refers to throw on null. -/
theorem fromMap_absent {record : Record} {field : Field} (supported : field.type.Supported)
    {entries : List (String × Value Date)}
    (absent : entries.lookup field.name = none ∨ entries.lookup field.name = some .null)
    (refused : ∀ name ∈ field.type.references, Throws (calls.factory name "fromMap" .null)) :
    ∃ expr, fromMap record field = .ok expr ∧
      (field.type.nullable = true →
        eval rt calls ⟨[("raw", .map entries)], []⟩ expr = .ok .null) ∧
      (field.type.nullable = false →
        Throws (eval rt calls ⟨[("raw", .map entries)], []⟩ expr)) := by
  have whole : field.type.fault? = none := TypeExpr.fault?_eq_none_iff.2 supported
  have made : fromMap record field = .ok (fromMapExpr field) := by
    rw [fromMap_eq, refusal_of_supported record supported]
  have isNull : (entries.lookup field.name).getD .null = .null := by
    rcases absent with missing | null
    · rw [missing]
      rfl
    · rw [null]
      rfl
  have reads : Reads rt calls ⟨[("raw", .map entries)], []⟩
      (.index (.ident "raw") (.str field.name)) .null :=
    isNull ▸ (reads_raw entries).index field.name
  refine ⟨fromMapExpr field, made, fun nullable => eval_decoded_null nullable reads 0, ?_⟩
  intro required
  refine throws_decoded_null reads whole required (by simp [Scope.lookup?, List.lookup_cons]) ?_ 0
  intro name member named
  exact throws_fromMap_null named reads (refused name (mem_distinct.2 member))

/-- `Item oldest` -/
def oldestItem : Field :=
  ⟨"oldest", .scalar "Item" false, by decide⟩

/-- `Item? newest` -/
def newestItem : Field :=
  ⟨"newest", .scalar "Item" true, by decide⟩

/-- `Item oldest`, `Item? newest` -/
def chain : Record :=
  ⟨"Chain", [oldestItem, newestItem], by decide, by decide, by decide⟩

/-- The classes of items and grids, calling one another once. -/
def itemCalls : Callees Bool :=
  (Class.itemsAndGrids.program {}).callees Class.twoDates 1

theorem throws_item : Throws (itemCalls.factory "Item" "fromMap" .null) := by
  have assembled : Class.itemsAndGrids.program {} Class.item.name =
      some (Class.ofRecord {} Class.item) := rfl
  exact ⟨.typeCheck, by decide, Class.factory_fromMap_null assembled⟩

theorem fromMap_absent_chain :
    (∃ expr, fromMap chain oldestItem = .ok expr ∧
      Throws (eval Class.twoDates itemCalls ⟨[("raw", .map [])], []⟩ expr)) ∧
    (∃ expr, fromMap chain newestItem = .ok expr ∧
      eval Class.twoDates itemCalls ⟨[("raw", .map [("newest", .null)])], []⟩ expr =
        .ok .null) := by
  have refused : ∀ name ∈ ["Item"], Throws (itemCalls.factory name "fromMap" .null) := by
    rw [List.forall_mem_singleton]
    exact throws_item
  have supported : oldestItem.type.Supported ∧ newestItem.type.Supported :=
    ⟨TypeExpr.fault?_eq_none_iff.1 rfl, TypeExpr.fault?_eq_none_iff.1 rfl⟩
  have missing : ([] : List (String × Value Bool)).lookup oldestItem.name = none := rfl
  have null : [("newest", (Value.null : Value Bool))].lookup newestItem.name = some .null := rfl
  obtain ⟨read, readEq, -, thrown⟩ := fromMap_absent supported.1 (.inl missing) refused
  obtain ⟨kept, keptEq, given, -⟩ := fromMap_absent supported.2 (.inr null) refused
  exact ⟨⟨read, readEq, thrown rfl⟩, kept, keptEq, given rfl⟩

/-- `dynamic extra` -/
def extra : Field :=
  ⟨"extra", .scalar "dynamic" false, by decide⟩

def parcel : Record :=
  ⟨"Parcel", [extra], by decide, by decide, by decide⟩

/-- Null is a `dynamic`, and yet a field of this type throws if its key is missing. -/
theorem dynamic_absent_throws :
    extra.unsupported? parcel = none ∧
    (Value.null : Value Bool).fits extra.type = true ∧
    ∃ expr, fromMap parcel extra = .ok expr ∧
      expr.lines .standard = ["raw[\"extra\"]!"] ∧
      eval Class.twoDates itemCalls ⟨[("raw", .map [])], []⟩ expr = .error .nullCheck := by
  exact ⟨by decide, rfl, fromMapExpr extra, rfl, by decide +kernel,
    eval_bang_null ((reads_raw []).index "extra")⟩

end Recordsmith.Member
