/-
# Recordsmith.Proofs.Class.Hygiene — no field and no parameter is captured

The expressions for a field repeat the expression for its value in several places,
below lambdas whose parameters are numbered by depth. A field may have any name, that
of a parameter too. Still every name means what it was written for:

* the parameters along every way into an expression are some first ones of
  `lambdaParams`, which are distinct (`throughout_prefix_encoded`,
  `throughout_prefix_decoded`, `nodup_lambdaParams`);
* the body of each lambda mentions its own parameters, and besides them only names
  that the code writes out or, in what is read, names of records
  (`confined_encoded`, `confined_decoded`);
* outside of all lambdas stands the value that the expression was built for.

The main statement is `members_hygienic`.
-/
import Recordsmith.Proofs.Class.Capture

namespace Recordsmith.Member

open Recordsmith.Dart

set_option autoImplicit false

/-! ## Parameters -/

/-- The parameters of generated lambdas: `elt`, `key` or `val`, numbered or not. -/
def IsParam (name : String) : Prop :=
  ∃ base ∈ ["elt", "key", "val"], ∃ depth, name = paramName base depth

theorem toString_injective {number other : Nat} (same : toString number = toString other) :
    number = other := by
  have digits : Nat.toDigits 10 number = Nat.toDigits 10 other := by
    rw [← Nat.toList_repr, ← Nat.toList_repr, ← Nat.toString_eq_repr, ← Nat.toString_eq_repr, same]
  rw [← Nat.ofDigitChars_toDigits (b := 10) (n := number) (by decide) (by decide), digits,
    Nat.ofDigitChars_toDigits (by decide) (by decide)]

theorem depth_eq_of_paramName_eq {base : String} {depth level : Nat}
    (same : paramName base depth = paramName base level) : depth = level := by
  have longer : ∀ number : Nat, base ≠ base ++ toString number := by
    intro number same
    have lengths := congrArg (fun text => text.toList.length) same
    have digits : 0 < (toString number).toList.length := by
      rw [Nat.toString_eq_repr, Nat.toList_repr]
      exact Nat.length_toDigits_pos
    simp only [String.toList_append, List.length_append] at lengths
    omega
  rw [paramName, paramName] at same
  split at same
  · next first =>
    split at same
    · next second => rw [first, second]
    · exact absurd same (longer level)
  · split at same
    · exact absurd same.symm (longer depth)
    · exact toString_injective ((String.append_right_inj base).1 same)

/-- Two parameters are the same only if they have one base and one number. -/
theorem paramName_inj {base other : String} (isBase : base ∈ ["elt", "key", "val"])
    (isOther : other ∈ ["elt", "key", "val"]) {depth level : Nat}
    (same : paramName base depth = paramName other level) : base = other ∧ depth = level := by
  have nonempty : ∀ text ∈ ["elt", "key", "val"], text.toList ≠ [] := by decide
  have initials : ∀ text ∈ ["elt", "key", "val"], ∀ second ∈ ["elt", "key", "val"],
      text.toList.head? = second.toList.head? → text = second := by decide
  have sameInitial : base.toList.head? = other.toList.head? := by
    rw [← head_paramName (nonempty base isBase) depth, same,
      head_paramName (nonempty other isOther)]
  obtain rfl := initials base isBase other isOther sameInitial
  exact ⟨rfl, depth_eq_of_paramName_eq same⟩

theorem exists_of_mem_lambdaParams {type : TypeExpr} {depth : Nat} {param : String}
    (member : param ∈ lambdaParams type depth) :
    ∃ base ∈ ["elt", "key", "val"], ∃ level, depth ≤ level ∧ param = paramName base level := by
  fun_induction lambdaParams type depth with
  | case1 element nullable depth ih =>
    rcases List.mem_cons.1 member with rfl | later
    · exact ⟨"elt", by simp, depth, Nat.le_refl depth, rfl⟩
    · obtain ⟨base, isBase, level, deeper, rfl⟩ := ih later
      exact ⟨base, isBase, level, by omega, rfl⟩
  | case2 key value nullable depth ih =>
    rw [List.mem_cons, List.mem_cons] at member
    rcases member with rfl | rfl | later
    · exact ⟨"key", by simp, depth, Nat.le_refl depth, rfl⟩
    · exact ⟨"val", by simp, depth, Nat.le_refl depth, rfl⟩
    · obtain ⟨base, isBase, level, deeper, rfl⟩ := ih later
      exact ⟨base, isBase, level, by omega, rfl⟩
  | case3 => cases member

theorem isParam_of_mem_lambdaParams {type : TypeExpr} {depth : Nat} {param : String}
    (member : param ∈ lambdaParams type depth) : IsParam param := by
  obtain ⟨base, isBase, level, -, named⟩ := exists_of_mem_lambdaParams member
  exact ⟨base, isBase, level, named⟩

/-- A parameter of one depth is none of those below. -/
theorem paramName_not_mem_lambdaParams {base : String} (isBase : base ∈ ["elt", "key", "val"])
    (type : TypeExpr) (depth : Nat) :
    paramName base depth ∉ lambdaParams type (depth + 1) := by
  intro member
  obtain ⟨other, isOther, level, deeper, same⟩ := exists_of_mem_lambdaParams member
  have sameDepth := (paramName_inj isBase isOther same).2
  omega

theorem nodup_lambdaParams (type : TypeExpr) (depth : Nat) :
    (lambdaParams type depth).Nodup := by
  fun_induction lambdaParams type depth with
  | case1 element nullable depth ih =>
    exact List.nodup_cons.2 ⟨paramName_not_mem_lambdaParams (by simp) element depth, ih⟩
  | case2 key value nullable depth ih =>
    refine List.nodup_cons.2 ⟨?_, List.nodup_cons.2
      ⟨paramName_not_mem_lambdaParams (by simp) value depth, ih⟩⟩
    intro member
    rcases List.mem_cons.1 member with same | later
    · exact absurd (paramName_inj (by simp) (by simp) same).1 (by decide)
    · exact paramName_not_mem_lambdaParams (by simp) value depth later
  | case3 => exact List.nodup_nil

/-! ## Names outside of lambdas -/

/-- What holds of the names outside of all lambdas. -/
def AtSurface (Q : String → Prop) (bound : List String) (expr : Expr) : Prop :=
  bound = [] → ∀ name, expr = .ident name → Q name

theorem throughout_atSurface_iff {Q : String → Prop} {expr : Expr} :
    Throughout (AtSurface Q) expr ↔ ∀ name, Under [] (.ident name) expr → Q name := by
  constructor
  · exact fun holds name under => holds [] _ under rfl name rfl
  · rintro holds bound inner under rfl name rfl
    exact holds name under

theorem throughout_atSurface_lambda {Q : String → Prop} {param : String} {params : List String}
    {body : Expr} : Throughout (AtSurface Q) (.lambda (param :: params) body) := by
  rw [throughout_lambda]
  refine ⟨nofun, ?_⟩
  intro bound inner _ empty
  cases empty

section Surface

variable {Q : String → Prop} {value : Expr}

theorem surface_unlessNull {nullable : Bool} {expr : Expr} (null : Q "null")
    (inValue : Throughout (AtSurface Q) value) (inExpr : Throughout (AtSurface Q) expr) :
    Throughout (AtSurface Q) (unlessNull nullable value expr) := by
  cases nullable with
  | false => exact inExpr
  | true => simpa [unlessNull, Expr.isNull, Expr.null, AtSurface, inValue, inExpr] using null

theorem surface_encoded (type : TypeExpr) (depth : Nat)
    (inValue : Throughout (AtSurface Q) value) :
    Throughout (AtSurface Q) (encoded type value depth) := by
  cases type with
  | scalar name nullable =>
    rw [encoded]
    split <;> simp [Expr.invoke, AtSurface, inValue]
  | list element nullable =>
    rw [encoded]
    split
    · simp [Expr.method, Expr.dot, Expr.invoke, AtSurface, inValue, throughout_atSurface_lambda,
        -throughout_lambda]
    · exact inValue
  | map key inner nullable =>
    rw [encoded]
    split
    · simp [entryLambda, Expr.invoke, AtSurface, inValue, throughout_atSurface_lambda,
        -throughout_lambda]
    · exact inValue
  | generic name args nullable => exact inValue

end Surface

/-- The names that code to read a field writes out. -/
def readingNames : List String :=
  ["MapEntry", "DateTime", "null", "List", "Map<String, dynamic>"]

theorem surface_decoded {Q : String → Prop} {value : Expr} (type : TypeExpr) (depth : Nat)
    (fixed : ∀ name ∈ readingNames, Q name) (records : ∀ name ∈ type.recordNames, Q name)
    (inValue : Throughout (AtSurface Q) value) :
    Throughout (AtSurface Q) (decoded type value depth) := by
  have null : Q "null" := fixed _ (by decide)
  cases type with
  | scalar name nullable =>
    rw [decoded]
    split
    · apply surface_unlessNull null inValue
      simpa [Expr.method, Expr.dot, Expr.invoke, AtSurface, inValue] using fixed _ (by decide)
    · split
      · exact inValue
      · simp [AtSurface, inValue]
    · next custom =>
      apply surface_unlessNull null inValue
      simpa [Expr.method, Expr.dot, Expr.invoke, AtSurface, inValue]
        using records name (by simp [TypeExpr.recordNames, custom])
  | list element nullable =>
    rw [decoded]
    apply surface_unlessNull null inValue
    split
    · simp [AtSurface, inValue]
    · simpa [Expr.method, Expr.dot, Expr.invoke, Expr.cast, AtSurface, inValue,
        throughout_atSurface_lambda, -throughout_lambda] using fixed "List" (by decide)
  | map key inner nullable =>
    rw [decoded]
    apply surface_unlessNull null inValue
    split
    · simp [AtSurface, inValue]
    · simpa [entryLambda, Expr.dot, Expr.invoke, Expr.cast, AtSurface, inValue,
        throughout_atSurface_lambda, -throughout_lambda] using
        fixed "Map<String, dynamic>" (by decide)
  | generic name args nullable => exact inValue

/-! ## Names within lambdas -/

/-- The names outside of lambdas in what is made of a parameter. -/
theorem surface_encoded_ident {type : TypeExpr} {param name : String} {depth : Nat}
    (under : Under [] (.ident name) (encoded type (.ident param) depth)) : name = param := by
  have only : Throughout (AtSurface (· = param)) (encoded type (.ident param) depth) :=
    surface_encoded type depth (by simp [AtSurface])
  exact throughout_atSurface_iff.1 only name under

theorem surface_decoded_ident {type : TypeExpr} {param name : String} {depth : Nat}
    (under : Under [] (.ident name) (decoded type (.ident param) depth)) :
    name = param ∨ name ∈ readingNames ++ type.recordNames := by
  have only : Throughout (AtSurface fun name => name = param ∨
      name ∈ readingNames ++ type.recordNames) (decoded type (.ident param) depth) := by
    refine surface_decoded type depth ?_ ?_ (by simp [AtSurface])
    · exact fun name fixed => .inr (List.mem_append_left _ fixed)
    · exact fun name record => .inr (List.mem_append_right _ record)
  exact throughout_atSurface_iff.1 only name under

/-- Outside of nested lambdas, the body of the lambda over the entries of a map mentions
its parameters, `MapEntry` and what is made of the value. -/
theorem surface_entryBody {Q : String → Prop} {key : String} {body : Expr} (isKey : Q key)
    (isEntry : Q "MapEntry") (inBody : ∀ name, Under [] (.ident name) body → Q name) :
    ∀ name, Under [] (.ident name) ((Expr.ident "MapEntry").invoke [.ident key, body]) →
      Q name := by
  rw [← throughout_atSurface_iff] at inBody ⊢
  simp [Expr.invoke, AtSurface, inBody, isKey, isEntry]

theorem confined_encoded {type : TypeExpr} {value : Expr} (depth : Nat)
    (inValue : Everywhere (Confined ["MapEntry"]) value) :
    Everywhere (Confined ["MapEntry"]) (encoded type value depth) := by
  fun_induction encoded type value depth with
  | case1 | case3 => simp [Expr.invoke, inValue]
  | case2 | case5 | case7 | case8 => exact inValue
  | case4 element nullable value depth converted elt ih =>
    have own : ∀ name, Under [] (.ident name) (encoded element (.ident elt) (depth + 1)) →
        name = elt ∨ name = "MapEntry" :=
      fun name under => .inl (surface_encoded_ident under)
    simpa [Expr.method, Expr.dot, Expr.invoke, inValue] using And.intro own (ih (by simp))
  | case6 key inner nullable value depth converted k v ih =>
    have own : ∀ name, Under [] (.ident name) ((Expr.ident "MapEntry").invoke
        [.ident k, encoded inner (.ident v) (depth + 1)]) →
          (name = k ∨ name = v) ∨ name = "MapEntry" :=
      surface_entryBody (.inl (.inl rfl)) (.inr rfl)
        fun name under => .inl (.inr (surface_encoded_ident under))
    simpa [entryLambda, Expr.invoke, inValue] using And.intro own (ih (by simp))

theorem confined_unlessNull {names : List String} {nullable : Bool} {value expr : Expr}
    (inValue : Everywhere (Confined names) value) (inExpr : Everywhere (Confined names) expr) :
    Everywhere (Confined names) (unlessNull nullable value expr) := by
  cases nullable with
  | false => exact inExpr
  | true => simp [unlessNull, Expr.isNull, Expr.null, inValue, inExpr]

theorem confined_decoded {type : TypeExpr} {names : List String}
    (fixed : ∀ name ∈ readingNames ++ type.recordNames, name ∈ names) {value : Expr} (depth : Nat)
    (inValue : Everywhere (Confined names) value) :
    Everywhere (Confined names) (decoded type value depth) := by
  fun_induction decoded type value depth with
  | case1 | case4 =>
    apply confined_unlessNull inValue
    simp [Expr.method, Expr.dot, Expr.invoke, inValue]
  | case2 | case7 => exact inValue
  | case3 => simp [inValue]
  | case5 element nullable value depth ih =>
    apply confined_unlessNull inValue
    split
    · simp [inValue]
    · have own : ∀ name, Under [] (.ident name)
          (decoded element (.ident (paramName "elt" depth)) (depth + 1)) →
            name = paramName "elt" depth ∨ name ∈ names :=
        fun name under => (surface_decoded_ident under).imp_right (fixed name)
      simpa [Expr.method, Expr.dot, Expr.invoke, Expr.cast, inValue] using
        And.intro own (ih fixed (by simp))
  | case6 key inner nullable value depth ih =>
    have fixedInner : ∀ name ∈ readingNames ++ inner.recordNames, name ∈ names := by
      intro name member
      apply fixed name
      simp only [TypeExpr.recordNames, List.mem_append] at member ⊢
      tauto
    apply confined_unlessNull inValue
    split
    · simp [inValue]
    · have own : ∀ name, Under [] (.ident name) ((Expr.ident "MapEntry").invoke
          [.ident (paramName "key" depth),
            decoded inner (.ident (paramName "val" depth)) (depth + 1)]) →
          (name = paramName "key" depth ∨ name = paramName "val" depth) ∨ name ∈ names :=
        surface_entryBody (.inl (.inl rfl)) (.inr (fixed _ (by simp [readingNames])))
          fun name under => (surface_decoded_ident under).imp .inr (fixedInner name)
      simpa [entryLambda, Expr.dot, Expr.invoke, Expr.cast, inValue] using
        And.intro own (ih fixedInner (by simp))

/-! ## Parameters in scope -/

/-- No lambda stands in the construct. -/
def WithoutLambdas (expr : Expr) : Prop :=
  Throughout (fun bound _ => bound = []) expr

theorem WithoutLambdas.throughout {value : Expr} (unbound : WithoutLambdas value)
    (params : List String) : Throughout (fun bound _ => bound <+: params) value := by
  intro bound inner under
  rw [unbound bound inner under]
  exact List.nil_prefix

theorem throughout_prefix_encoded {type : TypeExpr} {value : Expr} (depth : Nat)
    (unbound : WithoutLambdas value) :
    Throughout (fun bound _ => bound <+: lambdaParams type depth) (encoded type value depth) := by
  have ident : ∀ name, WithoutLambdas (.ident name) := fun name => throughout_ident.2 rfl
  fun_induction encoded type value depth with
  | case1 | case3 => simp [Expr.invoke, unbound.throughout]
  | case2 | case5 | case7 | case8 => exact unbound.throughout _
  | case4 element nullable value depth converted elt ih =>
    simpa [elt, Expr.method, Expr.dot, Expr.invoke, unbound.throughout, lambdaParams]
      using ih (ident elt)
  | case6 key inner nullable value depth converted k v ih =>
    simpa [k, v, entryLambda, Expr.invoke, unbound.throughout, lambdaParams] using ih (ident v)

theorem throughout_prefix_unlessNull {params : List String} {nullable : Bool} {value expr : Expr}
    (unbound : WithoutLambdas value)
    (inExpr : Throughout (fun bound _ => bound <+: params) expr) :
    Throughout (fun bound _ => bound <+: params) (unlessNull nullable value expr) := by
  cases nullable with
  | false => exact inExpr
  | true => simp [unlessNull, Expr.isNull, Expr.null, unbound.throughout, inExpr]

theorem throughout_prefix_decoded {type : TypeExpr} {value : Expr} (depth : Nat)
    (unbound : WithoutLambdas value) :
    Throughout (fun bound _ => bound <+: lambdaParams type depth) (decoded type value depth) := by
  have ident : ∀ name, WithoutLambdas (.ident name) := fun name => throughout_ident.2 rfl
  fun_induction decoded type value depth with
  | case1 | case4 =>
    apply throughout_prefix_unlessNull unbound
    simp [Expr.method, Expr.dot, Expr.invoke, unbound.throughout]
  | case2 | case7 => exact unbound.throughout _
  | case3 => simp [unbound.throughout]
  | case5 element nullable value depth ih =>
    apply throughout_prefix_unlessNull unbound
    split
    · simp [unbound.throughout]
    · simpa [Expr.method, Expr.dot, Expr.invoke, Expr.cast, unbound.throughout, lambdaParams]
        using ih (ident _)
  | case6 key inner nullable value depth ih =>
    apply throughout_prefix_unlessNull unbound
    split
    · simp [unbound.throughout]
    · simpa [entryLambda, Expr.dot, Expr.invoke, Expr.cast, unbound.throughout, lambdaParams]
        using ih (ident _)

/-! ## The five expressions -/

section Fields

variable (field : Field)

theorem under_encoded (type : TypeExpr) (value : Expr) (depth : Nat) :
    Under [] value (encoded type value depth) := by
  have called : ∀ name nullSafe args, Under [] value
      ((Expr.member value name nullSafe).invoke args) := by
    intro name nullSafe args
    exact .outside (List.mem_cons_self) rfl (.outside (List.mem_singleton_self value) rfl
      (.self value))
  cases type with
  | scalar name nullable =>
    rw [encoded]
    split
    · exact called _ _ _
    · exact .self value
    · exact called _ _ _
  | list element nullable =>
    rw [encoded]
    split
    · exact .outside (List.mem_cons_self) rfl (.outside (List.mem_singleton_self _) rfl
        (called _ _ _))
    · exact .self value
  | map key inner nullable =>
    rw [encoded]
    split
    · exact called _ _ _
    · exact .self value
  | generic name args nullable => exact .self value

theorem freeNames_toMapExpr : FreeNames (toMapExpr field) field.name ["MapEntry"] := by
  refine freeNames_of_confined (confined_encoded 0 (by simp)) (under_encoded _ _ 0) ?_
  exact fun other under => .inl (surface_encoded_ident under)

/-- The free names of an expression whose parts are all known. -/
theorem freeNames_of_surface {expr : Expr} {name : String} {names : List String}
    (confined : Everywhere (Confined names) expr)
    (stands : ¬ Throughout (AtSurface (· ≠ name)) expr)
    (surface : Throughout (AtSurface fun other => other = name ∨ other ∈ names) expr) :
    FreeNames expr name names := by
  refine freeNames_of_confined confined ?_ (throughout_atSurface_iff.1 surface)
  by_contra missing
  apply stands
  rw [throughout_atSurface_iff]
  rintro other under rfl
  exact missing under

theorem freeNames_copyExpr : FreeNames (copyExpr field) field.name ["null"] := by
  obtain ⟨name, type, valid⟩ := field
  cases type with
  | scalar type nullable =>
    simp only [copyExpr]
    split
    · apply freeNames_of_surface <;> simp [AtSurface]
    · apply freeNames_of_surface <;> simp [Expr.invoke, AtSurface]
  | list element nullable | map key inner nullable =>
    cases nullable with
    | false =>
      apply freeNames_of_surface <;> simp [copyExpr, TypeExpr.nullable, unlessNull, AtSurface]
    | true =>
      apply freeNames_of_surface <;>
        simp [copyExpr, TypeExpr.nullable, unlessNull, Expr.isNull, Expr.null, AtSurface]
  | generic type args nullable => apply freeNames_of_surface <;> simp [copyExpr, AtSurface]

theorem surface_containerHash_iff {Q : String → Prop} {container : Container} {target : Expr} :
    Throughout (AtSurface Q) (containerHash container target) ↔
      Q "Object" ∧ Throughout (AtSurface Q) target := by
  cases container with
  | list => simp [containerHash, Expr.method, Expr.dot, Expr.invoke, AtSurface]
  | map =>
    simp [containerHash, Expr.method, Expr.dot, Expr.invoke, AtSurface,
      throughout_atSurface_lambda, -throughout_lambda]

theorem confined_containerHash {names : List String} {container : Container} {target : Expr}
    (object : "Object" ∈ names) (inTarget : Everywhere (Confined names) target) :
    Everywhere (Confined names) (containerHash container target) := by
  cases container with
  | list => simp [containerHash, Expr.method, Expr.dot, Expr.invoke, inTarget]
  | map =>
    have own : ∀ name, Under [] (.ident name) ((Expr.ident "Object").method "hash"
        [(Expr.ident "kv").dot "key", (Expr.ident "kv").dot "value"]) →
          name = "kv" ∨ name ∈ names := by
      rw [← throughout_atSurface_iff]
      simp [Expr.method, Expr.dot, Expr.invoke, AtSurface, object]
    simpa [containerHash, Expr.method, Expr.dot, Expr.invoke, inTarget] using own

theorem freeNames_hashExpr : FreeNames (hashExpr field) field.name ["Object", "null", "0"] := by
  rw [hashExpr]
  cases field.type.container? with
  | none => apply freeNames_of_surface <;> simp [AtSurface]
  | some container =>
    simp only
    split
    · have hashed : Everywhere (Confined ["Object", "null", "0"])
          (containerHash container (.bang (.ident field.name))) :=
        confined_containerHash (by simp) (by simp)
      apply freeNames_of_surface <;>
        simp [hashed, surface_containerHash_iff, Expr.isNull, Expr.null, AtSurface]
    · have hashed : Everywhere (Confined ["Object", "null", "0"])
          (containerHash container (.ident field.name)) :=
        confined_containerHash (by simp) (by simp)
      apply freeNames_of_surface hashed <;> simp [surface_containerHash_iff, AtSurface]

end Fields

/-! ## Fields -/

/-- The comparisons that a term of `operator ==` may be. -/
inductive Compares (own other : Expr) : Expr → Prop
  | scalars : Compares own other (.binary .equals own other)
  | lists : Compares own other ((Expr.ident "listEquals").invoke [own, other])
  | maps : Compares own other ((Expr.ident "mapEquals").invoke [own, other])

theorem compares_equalityExpr (field : Field) :
    Compares (if field.name = "other" then (Expr.ident "this").dot "other" else .ident field.name)
      ((Expr.ident "other").dot field.name) (equalityExpr field) := by
  have own : reference ["other"] field.name =
      if field.name = "other" then (Expr.ident "this").dot "other" else .ident field.name := by
    rw [reference]
    simp only [List.mem_singleton]
    split
    · next named => rw [named]
    · rfl
  rw [equalityExpr, own]
  cases field.type.container? with
  | none => exact .scalars
  | some container =>
    cases container with
    | list => exact .lists
    | map => exact .maps

theorem subset_of_prefixes {type : TypeExpr} {depth : Nat} {expr : Expr}
    (prefixes : Throughout (fun bound _ => bound <+: lambdaParams type depth) expr) :
    ∀ bound inner, Under bound inner expr → bound ⊆ lambdaParams type depth :=
  fun bound inner under => (prefixes bound inner under).subset

theorem distinctParams_of_prefixes {type : TypeExpr} {depth : Nat} {expr : Expr}
    (prefixes : Throughout (fun bound _ => bound <+: lambdaParams type depth) expr) :
    DistinctParams expr :=
  fun bound inner under =>
    (nodup_lambdaParams type depth).sublist (prefixes bound inner under).sublist

theorem not_isParam {name : String}
    (initial : ∀ base ∈ ["elt", "key", "val"], base.toList.head? ≠ name.toList.head?) :
    ¬ IsParam name := by
  rintro ⟨base, isBase, depth, rfl⟩
  have nonempty : ∀ text ∈ ["elt", "key", "val"], text.toList ≠ [] := by decide
  exact paramName_ne (nonempty base isBase) (initial base isBase) depth rfl

/-- **Names keep their meaning.** For a field of a supported type there are all five
expressions, whatever the field is called. What is written, copied and hashed has the name
of the field free, and besides it only names that stand for no field. What is compared is
the field by its bare name, or by `this.other` if it is called like the parameter, and the
field of `other`. The parameters of nested lambdas are distinct, in what is written and in
what is read. There, a lambda uses of all parameters in scope only its own, outside of
nested lambdas, and `raw` stands in no lambda; for what is read this asks that no record
referred to is called `raw` or like a parameter. -/
theorem members_hygienic {record : Record} {field : Field} (supported : field.type.Supported) :
    ∃ read written compared hashed copied,
      fromMap record field = .ok read ∧ toMap record field = .ok written ∧
      equality record field = .ok compared ∧ hash record field = .ok hashed ∧
      copy record field = .ok copied ∧
      FreeNames written field.name ["MapEntry"] ∧
      FreeNames copied field.name ["null"] ∧
      FreeNames hashed field.name ["Object", "null", "0"] ∧
      Compares
        (if field.name = "other" then (Expr.ident "this").dot "other" else .ident field.name)
        ((Expr.ident "other").dot field.name) compared ∧
      DistinctParams written ∧ DistinctParams read ∧
      OwnParams written ∧ OutsideLambdas "raw" written ∧
      ((∀ name ∈ field.type.references, name ≠ "raw" ∧ ¬ IsParam name) →
        OwnParams read ∧ OutsideLambdas "raw" read) := by
  have made : ∀ expr : Expr, _ := refusal_of_supported record supported
  have writtenPrefix : Throughout (fun bound _ => bound <+: lambdaParams field.type 0)
      (toMapExpr field) :=
    throughout_prefix_encoded 0 (throughout_ident.2 rfl)
  have readPrefix : Throughout (fun bound _ => bound <+: lambdaParams field.type 0)
      (fromMapExpr field) :=
    throughout_prefix_decoded 0 (by simp [WithoutLambdas])
  have writtenConfined : Everywhere (Confined ["MapEntry"]) (toMapExpr field) :=
    confined_encoded 0 (by simp)
  have readConfined : Everywhere (Confined (readingNames ++ field.type.recordNames))
      (fromMapExpr field) :=
    confined_decoded (fun _ member => member) 0 (by simp)
  have notParam : ∀ {name}, ¬ IsParam name → name ∉ lambdaParams field.type 0 :=
    fun apart member => apart (isParam_of_mem_lambdaParams member)
  have fixedApart : ∀ name ∈ readingNames, ¬ IsParam name := by
    intro name member
    apply not_isParam
    revert name
    decide
  have rawApart : ¬ IsParam "raw" := not_isParam (by decide)
  refine ⟨_, _, _, _, _, (fromMap_eq record field).trans (made _),
    (toMap_eq record field).trans (made _), (equality_eq record field).trans (made _),
    (hash_eq record field).trans (made _), (copy_eq record field).trans (made _),
    freeNames_toMapExpr field, freeNames_copyExpr field, freeNames_hashExpr field,
    compares_equalityExpr field,
    distinctParams_of_prefixes writtenPrefix, distinctParams_of_prefixes readPrefix, ?_, ?_, ?_⟩
  · apply ownParams_of_confined (subset_of_prefixes writtenPrefix) writtenConfined
    intro name member
    exact notParam (fixedApart name (by simp_all [readingNames]))
  · exact outsideLambdas_of_confined (subset_of_prefixes writtenPrefix) writtenConfined (by decide)
      (notParam rawApart)
  · intro apart
    have named : ∀ name ∈ field.type.recordNames, name ≠ "raw" ∧ ¬ IsParam name :=
      fun name member => apart name (mem_distinct.2 member)
    constructor
    · apply ownParams_of_confined (subset_of_prefixes readPrefix) readConfined
      intro name member
      rcases List.mem_append.1 member with fixed | record
      · exact notParam (fixedApart name fixed)
      · exact notParam (named name record).2
    · refine outsideLambdas_of_confined (subset_of_prefixes readPrefix) readConfined ?_
        (notParam rawApart)
      intro member
      rcases List.mem_append.1 member with fixed | record
      · exact absurd fixed (by decide)
      · exact (named "raw" record).1 rfl

/-- `List<Map<String, Book?>> elt`, a field called like the parameter for its elements. -/
def bookcase : Field :=
  ⟨"elt", .list (.map (.scalar "String" false) (.scalar "Book" true) false) false, Eq.refl true⟩

/-- `List<Map<String, Book?>> elt` -/
def library : Record :=
  ⟨"Library", [bookcase], Eq.refl true, by decide, by decide⟩

theorem members_hygienic_bookcase :
    bookcase.type.Supported ∧ (∀ name ∈ bookcase.type.references, name ≠ "raw" ∧ ¬ IsParam name) ∧
    ∃ read written, fromMap library bookcase = .ok read ∧ toMap library bookcase = .ok written ∧
      written.lines .standard =
        ["elt.map((elt) => elt.map((key1, val1) => MapEntry(key1, val1?.toMap()))).toList()"] ∧
      FreeNames written "elt" ["MapEntry"] ∧ DistinctParams written ∧ OwnParams written ∧
      DistinctParams read ∧ OwnParams read ∧ OutsideLambdas "raw" read := by
  have supported : bookcase.type.Supported := TypeExpr.fault?_eq_none_iff.1 rfl
  have apart : ∀ name ∈ bookcase.type.references, name ≠ "raw" ∧ ¬ IsParam name := by
    intro name member
    obtain rfl : name = "Book" := by revert name; decide
    exact ⟨by decide, not_isParam (by decide)⟩
  obtain ⟨read, written, -, -, -, isRead, isWritten, -, -, -, free, -, -, -, writtenDistinct,
    readDistinct, writtenOwn, -, readOwn⟩ := members_hygienic supported
  obtain rfl : toMapExpr bookcase = written := Except.ok.inj isWritten
  exact ⟨supported, apart, read, _, isRead, isWritten, by decide +kernel, free, writtenDistinct,
    writtenOwn, readDistinct, readOwn apart⟩

end Recordsmith.Member
