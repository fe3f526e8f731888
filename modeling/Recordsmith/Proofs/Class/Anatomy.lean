/-
# Recordsmith.Proofs.Class.Anatomy — what the class of a record is made of

One walk over the class of a record says of every construct in it (`Built`) that

* operands and parts stand only where they may (`WellPlaced`, `Composed`);
* a call of `Object.hash` has two to twenty arguments (`HashArity`): the entries of a map
  are hashed by key and value, and the fields of a record only if there are at least two
  and at most `maxHashArgs`;
* the strings stored in it are in a class `Q`, if `Q` has the identifiers, the types of
  the fields and a few fixed texts (`Vocabulary`, `TypeTexts`).

The first two need nothing of the record.
-/
import Recordsmith.Proofs.Class.Synthesis
import Recordsmith.Proofs.Dart.Rank
import Recordsmith.Proofs.Dart.Rendered
import Recordsmith.Proofs.TypeExpr.Written

namespace Recordsmith

open Recordsmith.Dart
open Recordsmith.Dart.Expr (WellPlaced Composed OwnStrings)
open Recordsmith.TypeExpr (WellFormed)

set_option autoImplicit false

/-- The texts that are written for a type and what is in it. -/
@[simp] def TypeTexts (Q : String → Prop) : TypeExpr → Prop
  | .scalar name nullable => Q name ∧ Q (TypeExpr.scalar name nullable).render
  | .list element nullable => TypeTexts Q element ∧ Q (TypeExpr.list element nullable).render
  | .map key value nullable =>
      TypeTexts Q key ∧ TypeTexts Q value ∧ Q (TypeExpr.map key value nullable).render
  | .generic name args nullable => Q (TypeExpr.generic name args nullable).render

theorem TypeTexts.render {Q : String → Prop} {type : TypeExpr} (texts : TypeTexts Q type) :
    Q type.render := by
  cases type with
  | scalar name nullable => exact texts.2
  | list element nullable => exact texts.2
  | map key value nullable => exact texts.2.2
  | generic name args nullable => exact texts

theorem typeTexts_of_forall {Q : String → Prop} (always : ∀ text, Q text) :
    ∀ type : TypeExpr, TypeTexts Q type
  | .scalar _ _ => ⟨always _, always _⟩
  | .list element _ => ⟨typeTexts_of_forall always element, always _⟩
  | .map key value _ => ⟨typeTexts_of_forall always key, typeTexts_of_forall always value, always _⟩
  | .generic _ _ _ => always _

/-- The texts that all classes are written with. -/
abbrev fixedTexts : List String :=
  ["0", "ArgumentError", "DateTime", "JsonBase", "List", "List<String>", "Map<String, dynamic>",
    "MapEntry", "Object", "String", "bool", "const", "copy", "dynamic", "entries", "factory",
    "fields", "fromMap", "getAttr", "hash", "hashAll", "hashAllUnordered", "hashCode", "int",
    "json", "jsonDecode", "key", "kv", "listEquals", "map", "mapEquals", "name", "null",
    "operator ==", "other", "override", "parse", "raw", "setAttr", "static", "this",
    "toIso8601String", "toList", "toMap", "value", "void"]

/-- A class of texts that has all that classes are written with. -/
structure Vocabulary (Q : String → Prop) : Prop where
  fixed : ∀ text ∈ fixedTexts, Q text
  identifier : ∀ {name : String}, Text.isIdentifier name.toList = true → Q name
  factory : ∀ {name : String}, Text.isIdentifier name.toList = true →
    Q (name ++ ".fromMap") ∧ Q (name ++ ".fromJson")
  type : ∀ {type : TypeExpr}, WellFormed type → Q type.render

theorem Vocabulary.typeTexts {Q : String → Prop} (vocabulary : Vocabulary Q) {type : TypeExpr}
    (formed : WellFormed type) : TypeTexts Q type := by
  induction formed with
  | scalar valid notList notMap =>
    exact ⟨vocabulary.identifier valid, vocabulary.type (.scalar valid notList notMap)⟩
  | list inner ih => exact ⟨ih, vocabulary.type (.list inner)⟩
  | map first second ihKey ihValue =>
    exact ⟨ihKey, ihValue, vocabulary.type (.map first second)⟩
  | generic valid notList notMap nonempty each ih =>
    exact vocabulary.type (.generic valid notList notMap nonempty each)

theorem vocabulary_true : Vocabulary fun _ => True :=
  ⟨fun _ _ => trivial, fun _ => trivial, fun _ => ⟨trivial, trivial⟩, fun _ => trivial⟩

theorem isIdentifier_paramName {base : String} (valid : Text.isIdentifier base.toList = true)
    (depth : Nat) : Text.isIdentifier (Member.paramName base depth).toList = true := by
  have longer : ∀ {name digits : List Char}, Text.isIdentifier name = true →
      (∀ c ∈ digits, c.isDigit = true) → Text.isIdentifier (name ++ digits) = true := by
    intro name digits isName areDigits
    cases name with
    | nil => cases isName
    | cons first rest =>
      rw [Text.isIdentifier, Bool.and_eq_true] at isName
      rw [List.cons_append, Text.isIdentifier, List.all_append, isName.1, isName.2]
      simp only [Bool.true_and, List.all_eq_true]
      intro c member
      rw [Text.isIdentifierPart, areDigits c member, Bool.or_true]
  rw [Member.paramName]
  split
  · exact valid
  · rw [String.toList_append, Nat.toString_eq_ofList_toDigits, String.toList_ofList]
    exact longer valid fun c => Nat.isDigit_of_mem_toDigits (by decide) (by decide)

theorem Vocabulary.paramName {Q : String → Prop} (vocabulary : Vocabulary Q) {base : String}
    (valid : Text.isIdentifier base.toList = true) (depth : Nat) :
    Q (Member.paramName base depth) :=
  vocabulary.identifier (isIdentifier_paramName valid depth)

namespace Class

/-- If this is a call of `Object.hash`, it has two to twenty arguments. -/
def HashArity (expr : Expr) : Prop :=
  ∀ nullSafe types args, expr = .call (.member (.ident "Object") "hash" nullSafe) types args →
    2 ≤ args.length ∧ args.length ≤ 20

/-- What is true of every construct in a class. -/
structure Built (Q : String → Prop) (expr : Expr) : Prop where
  placed : WellPlaced expr
  composed : Composed expr
  arity : HashArity expr
  spelled : OwnStrings Q expr

theorem built_iff {Q : String → Prop} {expr : Expr} :
    Built Q expr ↔ WellPlaced expr ∧ Composed expr ∧ HashArity expr ∧ OwnStrings Q expr :=
  ⟨fun built => ⟨built.placed, built.composed, built.arity, built.spelled⟩,
    fun ⟨placed, composed, arity, spelled⟩ => ⟨placed, composed, arity, spelled⟩⟩

/-! ## Ranks of what is put together -/

theorem isExpression_unlessNull {nullable : Bool} {value expr : Expr}
    (isExpression : expr.isExpression = true) :
    (Member.unlessNull nullable value expr).isExpression = true := by
  rw [Member.unlessNull]
  split
  · rfl
  · exact isExpression

theorem isExpression_decoded (type : TypeExpr) {value : Expr} (depth : Nat)
    (tight : value.rank = 6) : (Member.decoded type value depth).isExpression = true := by
  have isValue : value.isExpression = true := Expr.isExpression_of_rank (by omega)
  cases type with
  | scalar name nullable =>
    rw [Member.decoded]
    split
    · exact isExpression_unlessNull rfl
    · split
      · exact isValue
      · rfl
    · exact isExpression_unlessNull rfl
  | list element nullable =>
    apply isExpression_unlessNull
    split <;> rfl
  | map key inner nullable =>
    apply isExpression_unlessNull
    split <;> rfl
  | generic name args nullable => exact isValue

theorem rank_encoded (type : TypeExpr) {value : Expr} (depth : Nat) (tight : value.rank = 6) :
    (Member.encoded type value depth).rank = 6 := by
  cases type with
  | scalar name nullable =>
    rw [Member.encoded]
    split
    · rfl
    · exact tight
    · rfl
  | list element nullable =>
    rw [Member.encoded]
    split
    · rfl
    · exact tight
  | map key inner nullable =>
    rw [Member.encoded]
    split
    · rfl
    · exact tight
  | generic name args nullable => exact tight

theorem isAssignable_reference (params : List String) (name : String) :
    (Member.reference params name).isAssignable = true := by
  rw [Member.reference]
  split <;> rfl

theorem rank_reference (params : List String) (name : String) :
    (Member.reference params name).rank = 6 :=
  Expr.rank_of_isAssignable (isAssignable_reference params name)

theorem rank_equalityExpr (field : Field) : 3 < (Member.equalityExpr field).rank := by
  rw [Member.equalityExpr]
  split <;> simp [Expr.invoke, BinaryOp.rank]

@[simp] theorem isExpression_entryLambda (key value : String) (body : Expr) :
    (Member.entryLambda key value body).isExpression = true :=
  rfl

@[simp] theorem rank_containerHash (container : Container) (target : Expr) :
    (Member.containerHash container target).rank = 6 := by
  cases container <;> rfl

theorem isExpression_hashExpr (field : Field) : (Member.hashExpr field).isExpression = true := by
  rw [Member.hashExpr]
  split
  · rfl
  · split
    · rfl
    · simp

theorem isExpression_copyExpr (field : Field) : (Member.copyExpr field).isExpression = true := by
  rw [Member.copyExpr]
  split
  · split <;> rfl
  · exact isExpression_unlessNull rfl
  · exact isExpression_unlessNull rfl
  · rfl

/-! ## Fields -/

section Constructs

variable {Q : String → Prop} (vocabulary : Vocabulary Q)

theorem built_ident {name : String} (named : Q name) : Everywhere (Built Q) (.ident name) := by
  simp [built_iff, HashArity, named]

include vocabulary

theorem built_unlessNull {nullable : Bool} {value expr : Expr}
    (builtValue : Everywhere (Built Q) value) (tight : value.rank = 6)
    (builtExpr : Everywhere (Built Q) expr) (isExpression : expr.isExpression = true) :
    Everywhere (Built Q) (Member.unlessNull nullable value expr) := by
  rw [Member.unlessNull]
  split
  · simp [built_iff, HashArity, Expr.isNull, Expr.null, BinaryOp.rank, tight, builtValue, builtExpr,
      isExpression, vocabulary.fixed]
  · exact builtExpr

theorem built_entryLambda {key value : String} {body : Expr} (keyNamed : Q key)
    (valueNamed : Q value) (builtBody : Everywhere (Built Q) body)
    (isExpression : body.isExpression = true) :
    Everywhere (Built Q) (Member.entryLambda key value body) := by
  simp [built_iff, HashArity, Member.entryLambda, Expr.invoke, keyNamed, valueNamed, builtBody,
    isExpression, vocabulary.fixed]

/-- The JSON form is put under casts, spreads, calls and comparisons, for which it has to
hold together; the parameters of the lambdas within do. -/
theorem built_decoded : ∀ (type : TypeExpr) {value : Expr} (depth : Nat), TypeTexts Q type →
    Everywhere (Built Q) value → value.rank = 6 →
    Everywhere (Built Q) (Member.decoded type value depth)
  | .scalar name nullable, value, depth, texts, built, tight => by
    rw [Member.decoded]
    split
    · apply built_unlessNull vocabulary built tight _ (by simp [Expr.method, Expr.invoke])
      simp [built_iff, HashArity, Expr.method, Expr.dot, Expr.invoke, built, tight,
        vocabulary.fixed]
    · split
      · exact built
      · simp [built_iff, HashArity, built, tight]
    · apply built_unlessNull vocabulary built tight _ (by simp [Expr.method, Expr.invoke])
      simp [built_iff, HashArity, Expr.method, Expr.dot, Expr.invoke, built, tight, texts.1,
        vocabulary.fixed]
  | .list element nullable, value, depth, texts, built, tight => by
    have elt : Q (Member.paramName "elt" depth) := vocabulary.paramName (by decide) depth
    have body := built_decoded element (depth + 1) texts.1 (built_ident elt) rfl
    rw [Member.decoded]
    apply built_unlessNull vocabulary built tight
    · split
      · simp [built_iff, HashArity, Expr.isElement, built, tight, texts.1.render]
      · simp [built_iff, HashArity, Expr.cast, Expr.method, Expr.dot, Expr.invoke, built, tight,
          texts.1.render, elt, body, isExpression_decoded, vocabulary.fixed]
    · split <;> rfl
  | .map key inner nullable, value, depth, texts, built, tight => by
    have k : Q (Member.paramName "key" depth) := vocabulary.paramName (by decide) depth
    have v : Q (Member.paramName "val" depth) := vocabulary.paramName (by decide) depth
    have body := built_decoded inner (depth + 1) texts.2.1 (built_ident v) rfl
    have entry := built_entryLambda vocabulary k v body (isExpression_decoded inner _ rfl)
    rw [Member.decoded]
    apply built_unlessNull vocabulary built tight
    · split
      · simp [built_iff, HashArity, Expr.isEntry, built, tight, texts.1.render, texts.2.1.render]
      · simp [built_iff, HashArity, Expr.cast, Expr.dot, built, tight, texts.1.render,
          texts.2.1.render, entry, vocabulary.fixed]
    · split <;> rfl
  | .generic name args nullable, value, depth, texts, built, tight => built

theorem built_encoded : ∀ (type : TypeExpr) {value : Expr} (depth : Nat),
    Everywhere (Built Q) value → value.rank = 6 →
    Everywhere (Built Q) (Member.encoded type value depth)
  | .scalar name nullable, value, depth, built, tight => by
    rw [Member.encoded]
    split
    · simp [built_iff, HashArity, Expr.invoke, built, tight, vocabulary.fixed]
    · exact built
    · simp [built_iff, HashArity, Expr.invoke, built, tight, vocabulary.fixed]
  | .list element nullable, value, depth, built, tight => by
    have elt : Q (Member.paramName "elt" depth) := vocabulary.paramName (by decide) depth
    have body := built_encoded element (depth + 1) (built_ident elt) rfl
    rw [Member.encoded]
    split
    · simp [built_iff, HashArity, Expr.method, Expr.dot, Expr.invoke, built, tight, elt, body,
        rank_encoded, vocabulary.fixed]
    · exact built
  | .map key inner nullable, value, depth, built, tight => by
    have k : Q (Member.paramName "key" depth) := vocabulary.paramName (by decide) depth
    have v : Q (Member.paramName "val" depth) := vocabulary.paramName (by decide) depth
    have body := built_encoded inner (depth + 1) (built_ident v) rfl
    have entry := built_entryLambda vocabulary k v body (by simp [rank_encoded])
    rw [Member.encoded]
    split
    · simp [built_iff, HashArity, Expr.invoke, built, tight, entry, vocabulary.fixed]
    · exact built
  | .generic name args nullable, value, depth, built, tight => built

theorem built_reference (params : List String) {name : String} (named : Q name) :
    Everywhere (Built Q) (Member.reference params name) := by
  rw [Member.reference]
  split
  · simp [built_iff, HashArity, Expr.dot, named, vocabulary.fixed]
  · exact built_ident named

theorem built_equalityExpr (field : Field) :
    Everywhere (Built Q) (Member.equalityExpr field) := by
  have named : Q field.name := vocabulary.identifier field.name_valid
  have own := built_reference vocabulary ["other"] named
  rw [Member.equalityExpr]
  split <;>
    simp [built_iff, HashArity, Expr.invoke, Expr.dot, own, named, rank_reference, vocabulary.fixed]

theorem built_containerHash (container : Container) {target : Expr}
    (built : Everywhere (Built Q) target) (tight : target.rank = 6) :
    Everywhere (Built Q) (Member.containerHash container target) := by
  cases container <;>
    simp [built_iff, HashArity, Member.containerHash, Expr.method, Expr.dot, Expr.invoke, built,
      tight, vocabulary.fixed]

theorem built_hashExpr (field : Field) : Everywhere (Built Q) (Member.hashExpr field) := by
  have named : Q field.name := vocabulary.identifier field.name_valid
  rw [Member.hashExpr]
  split
  · exact built_ident named
  · next container _ =>
    split
    · have present : Everywhere (Built Q) (.bang (.ident field.name)) := by
        simp [built_iff, HashArity, named]
      have hashed := built_containerHash vocabulary container present rfl
      simp [built_iff, HashArity, Expr.isNull, Expr.null, BinaryOp.rank, named, hashed,
        vocabulary.fixed]
    · exact built_containerHash vocabulary container (built_ident named) rfl

theorem built_copyExpr (field : Field) (texts : TypeTexts Q field.type) :
    Everywhere (Built Q) (Member.copyExpr field) := by
  have named : Q field.name := vocabulary.identifier field.name_valid
  have value : Everywhere (Built Q) (.ident field.name) := built_ident named
  have items : Everywhere (Built Q) (.spread
      (if field.type.nullable then .bang (.ident field.name) else .ident field.name)) := by
    split <;> simp [built_iff, HashArity, named]
  rw [Member.copyExpr]
  split
  · split
    · exact value
    · simp [built_iff, HashArity, Expr.invoke, named, vocabulary.fixed]
  · next element nullable same =>
    rw [same] at texts
    apply built_unlessNull vocabulary value rfl _ rfl
    exact ⟨by simp [built_iff, HashArity, Expr.isElement, texts.1.render], items, trivial⟩
  · next key inner nullable same =>
    rw [same] at texts
    apply built_unlessNull vocabulary value rfl _ rfl
    exact ⟨by simp [built_iff, HashArity, Expr.isEntry, texts.1.render, texts.2.1.render], items,
      trivial⟩
  · exact value

/-! ## Classes -/

omit vocabulary in
theorem built_map {α : Type} {expr : α → Expr} {items : List α}
    (each : ∀ item ∈ items, Everywhere (Built Q) (expr item)) :
    EverywhereAll (Built Q) (items.map expr) := by
  rw [everywhereAll_iff, List.forall_mem_map]
  exact each

/-- The fields are hashed together only if there are two at least. -/
theorem built_recordHash (record : Record) : Everywhere (Built Q) (hashExpr record) := by
  have terms : EverywhereAll (Built Q) (record.fields.map Member.hashExpr) :=
    built_map fun field _ => built_hashExpr vocabulary field
  rw [hashExpr]
  split
  · next field _ =>
    have term := built_hashExpr vocabulary field
    split
    · next plain =>
      have named : Q field.name := vocabulary.identifier field.name_valid
      have alone : Member.hashExpr field = .ident field.name := by
        rw [Member.hashExpr, Option.isNone_iff_eq_none.1 plain]
      simp [built_iff, HashArity, Expr.dot, alone, named, vocabulary.fixed]
    · exact term
  · next notSingle =>
    have several : 2 ≤ record.fields.length := by
      rcases shape : record.fields with _ | ⟨first, _ | ⟨second, rest⟩⟩
      · exact absurd shape record.fields_ne_nil
      · exact absurd shape (notSingle first)
      · simp
    rw [combinedHash]
    split
    · next few =>
      have bounded : record.fields.length ≤ 20 := by simpa [maxHashArgs] using few
      simp [built_iff, HashArity, Expr.method, Expr.dot, Expr.invoke, terms, several, bounded,
        isExpression_hashExpr, vocabulary.fixed]
    · simp [built_iff, HashArity, Expr.method, Expr.dot, Expr.invoke, terms,
        Expr.isElement_of_isExpression, isExpression_hashExpr, vocabulary.fixed]

theorem built_equality (record : Record) : Everywhere (Built Q) (equality record) := by
  have named : Q record.name := vocabulary.identifier record.name_valid
  have conjunction : ∀ (fields : List Field) (first : Expr), Everywhere (Built Q) first →
      3 ≤ first.rank → Everywhere (Built Q) (fields.foldl
        (fun term field => .binary .conjunction term (Member.equalityExpr field)) first) := by
    intro fields
    induction fields with
    | nil => intro first built _; exact built
    | cons field rest ih =>
      intro first built tight
      have term := built_equalityExpr vocabulary field
      have termRank := rank_equalityExpr field
      have isTerm := Expr.isExpression_of_rank (by omega : 2 ≤ (Member.equalityExpr field).rank)
      apply ih
      · simp [built_iff, HashArity, built, tight, term, termRank, isTerm]
      · simp [BinaryOp.rank]
  have terms := conjunction record.fields (.binary .isType (.ident "other") (.ident record.name))
    (by simp [built_iff, HashArity, named, vocabulary.fixed]) (by simp [BinaryOp.rank])
  simp [built_iff, HashArity, equality, equalityWith, Expr.overriding, method, typed, terms,
    vocabulary.fixed]

theorem built_accessors (record : Record) : EverywhereAll (Built Q) (accessors record) := by
  have named : ∀ field : Field, Q field.name :=
    fun field => vocabulary.identifier field.name_valid
  have names : EverywhereAll (Built Q) (record.fields.map fun field => .str field.name) := by
    apply built_map
    intro field _
    simp [built_iff, HashArity]
  have getArms : EverywhereAll (Built Q) (record.fields.map fun field =>
      .caseArm (.str field.name) [.ret (Member.reference accessorParams field.name)] false) := by
    apply built_map
    intro field _
    simp [built_iff, HashArity, built_reference vocabulary accessorParams (named field)]
  have setArms : EverywhereAll (Built Q) (record.fields.map fun field =>
      .caseArm (.str field.name)
        [.binary .assignment (Member.reference accessorParams field.name) (.ident "value")]
        true) := by
    apply built_map
    intro field _
    simp [built_iff, HashArity, built_reference vocabulary accessorParams (named field),
      isAssignable_reference, vocabulary.fixed]
  simp [built_iff, HashArity, accessors, fieldNames, getAttr, setAttr, unknownField, method, typed,
    Expr.modifier, Expr.initialise, Expr.method, Expr.dot, Expr.invoke, Expr.isElement, names,
    getArms, setArms, vocabulary.fixed]

variable {record : Record} (texts : ∀ field ∈ record.fields, TypeTexts Q field.type)

include texts

theorem built_coreMembers : EverywhereAll (Built Q) (coreMembers record) := by
  have named : Q record.name := vocabulary.identifier record.name_valid
  have fieldNamed : ∀ field : Field, Q field.name :=
    fun field => vocabulary.identifier field.name_valid
  have declared : EverywhereAll (Built Q) (declarations record) := by
    apply built_map
    intro field member
    simp [built_iff, HashArity, typed, (texts field member).render, fieldNamed]
  have params : EverywhereAll (Built Q)
      (record.fields.map fun field => (Expr.ident "this").dot field.name) := by
    apply built_map
    intro field _
    simp [built_iff, HashArity, Expr.dot, fieldNamed, vocabulary.fixed]
  have read : EverywhereAll (Built Q) (record.fields.map Member.fromMapExpr) := by
    apply built_map
    intro field member
    apply built_decoded vocabulary field.type 0 (texts field member) _ rfl
    simp [built_iff, HashArity, vocabulary.fixed]
  have written : EverywhereAll (Built Q)
      (record.fields.map fun field => .entry (.str field.name) (Member.toMapExpr field)) := by
    apply built_map
    intro field _
    have value := built_encoded vocabulary field.type 0 (built_ident (fieldNamed field)) rfl
    simp [built_iff, HashArity, Member.toMapExpr, value, rank_encoded]
  have constructed : Everywhere (Built Q) (constructor record) :=
    ⟨by simp [built_iff, HashArity, named], params⟩
  rw [coreMembers, everywhereAll_append]
  refine ⟨declared, constructed, ?_⟩
  simp [built_iff, HashArity, fromMap, fromMapWith, fromJson, toMap, toMapWith, method, typed,
    Expr.modifier, Expr.method, Expr.dot, Expr.invoke, Expr.overriding, Expr.isEntry,
    Member.fromMapExpr, mapType, written, read, named, vocabulary.factory record.name_valid,
    isExpression_decoded, vocabulary.fixed]

theorem built_valueSemantics : EverywhereAll (Built Q) (valueSemantics record) := by
  have named : Q record.name := vocabulary.identifier record.name_valid
  have copied : EverywhereAll (Built Q) (record.fields.map Member.copyExpr) :=
    built_map fun field member => built_copyExpr vocabulary field (texts field member)
  simp [built_iff, HashArity, valueSemantics, built_equality vocabulary, hashCode, hashCodeWith,
    built_recordHash vocabulary, copy, copyWith, method, Expr.overriding, Expr.invoke, named,
    copied, isExpression_copyExpr, vocabulary.fixed]

/-- What the class of a record is made of. -/
theorem built_ofRecord (options : ClassOptions) :
    Everywhere (Built Q) (ofRecord options record) := by
  have named : Q record.name := vocabulary.identifier record.name_valid
  have optional : ∀ (wanted : Bool) (members : List Expr), EverywhereAll (Built Q) members →
      EverywhereAll (Built Q) (if wanted then members else []) := by
    intro wanted members built
    cases wanted with
    | true => exact built
    | false => trivial
  have all : EverywhereAll (Built Q) (members options record) := by
    rw [members, everywhereAll_append, everywhereAll_append]
    exact ⟨⟨built_coreMembers vocabulary texts, optional _ _ (built_accessors vocabulary record)⟩,
      optional _ _ (built_valueSemantics vocabulary texts)⟩
  simp [built_iff, HashArity, ofRecord, Expr.implementing, named, all, vocabulary.fixed]

end Constructs

/-! ## What needs nothing of the record -/

theorem built_true (options : ClassOptions) (record : Record) :
    Everywhere (Built fun _ => True) (ofRecord options record) :=
  built_ofRecord vocabulary_true (fun field _ => typeTexts_of_forall (fun _ => trivial) field.type)
    options

/-- Every call of `Object.hash` in an assembled class has two to twenty arguments. -/
theorem hashArity_ofRecord (options : ClassOptions) (record : Record) :
    Everywhere HashArity (ofRecord options record) :=
  (built_true options record).imp fun _ built => built.arity

/-- All operands in an assembled class have the rank that their places ask for. -/
theorem wellPlaced_ofRecord (options : ClassOptions) (record : Record) :
    Everywhere WellPlaced (ofRecord options record) :=
  (built_true options record).imp fun _ built => built.placed

end Class

end Recordsmith
