/-
# Recordsmith.Proofs.Class.Accessors — reading and setting fields by name

`getAttr` and `setAttr` switch over the name of a field. Both have the same arms but
for the statement in them, so what the switch does is said once, about
`fieldSwitch`: the arm of a field decides how the call ends, and a name that no
field has reaches the `throw` of the default arm.

The parameters `name` and `value` hide fields of these names. The statements reach
every field through `Member.reference`, which writes `this.` for those two; so a
reference reads the field (`eval_reference_of_hidden`) and an assignment to it sets
the field (`assign_reference`), whatever the field is called.

The main statement is `accessors_lens_laws`.
-/
import Recordsmith.Proofs.Check.Prediction
import Recordsmith.Proofs.Class.Members
import Recordsmith.Proofs.Dart.Statement

namespace Recordsmith.Class

open Recordsmith.Dart

set_option autoImplicit false

variable {Date : Type}

/-! ## The members -/

/-- The switch over the name of a field, with one statement for each field. -/
def fieldSwitch (record : Record) (statement : Field → Expr) (breaks : Bool) : Expr :=
  .switch (.ident "name")
    (record.fields.map (fun field => .caseArm (.str field.name) [statement field] breaks) ++
      [.defaultArm [unknownField] false])

/-- What `getAttr` does for a field. -/
def readField (field : Field) : Expr :=
  .ret (Member.reference accessorParams field.name)

/-- What `setAttr` does for a field. -/
def setField (field : Field) : Expr :=
  .binary .assignment (Member.reference accessorParams field.name) (.ident "value")

/-- `getAttr`, as it is called. -/
def getProcedure (record : Record) : Procedure :=
  ⟨"getAttr", [typed "String" "name"], [fieldSwitch record readField false]⟩

/-- `setAttr`, as it is called. -/
def setProcedure (record : Record) : Procedure :=
  ⟨"setAttr", [typed "String" "name", typed "dynamic" "value"],
    [fieldSwitch record setField true]⟩

theorem procedure?_of_mem_coreMembers {record : Record} {member : Expr}
    (inside : member ∈ coreMembers record) :
    member.procedure? = none ∧ ∀ name, member.constant? name = none := by
  rw [coreMembers, List.mem_append] at inside
  rcases inside with declared | fixed
  · obtain ⟨field, -, rfl⟩ := List.mem_map.1 declared
    exact ⟨rfl, fun _ => rfl⟩
  · simp only [List.mem_cons, List.not_mem_nil, or_false] at fixed
    rcases fixed with rfl | rfl | rfl | rfl <;> exact ⟨rfl, fun _ => rfl⟩

variable {options : ClassOptions} {record : Record}

theorem filterMap_procedure? (wanted : options.accessors = true) :
    (ofRecord options record).members.filterMap Expr.procedure? =
      [getProcedure record, setProcedure record] := by
  have core : (coreMembers record).filterMap Expr.procedure? = [] := by
    rw [List.filterMap_eq_nil_iff]
    exact fun member inside => (procedure?_of_mem_coreMembers inside).1
  have others : (if options.valueSemantics then valueSemantics record else []).filterMap
      Expr.procedure? = [] := by
    split <;> rfl
  rw [ofRecord, Expr.members, members, List.filterMap_append, List.filterMap_append, core, others,
    if_pos wanted]
  rfl

theorem findProcedure?_getAttr (wanted : options.accessors = true) :
    (ofRecord options record).findProcedure? "getAttr" = some (getProcedure record) := by
  rw [Expr.findProcedure?, filterMap_procedure? wanted]
  simp [getProcedure]

theorem findProcedure?_setAttr (wanted : options.accessors = true) :
    (ofRecord options record).findProcedure? "setAttr" = some (setProcedure record) := by
  rw [Expr.findProcedure?, filterMap_procedure? wanted]
  simp [getProcedure, setProcedure]

/-- The constant `fields` is the list of the field names in order. -/
theorem constant_fields (wanted : options.accessors = true) (host : Host Date) :
    host.constant (ofRecord options record) "fields" =
      .ok (.list (record.fields.map fun field => .str field.name)) := by
  have found : (ofRecord options record).members.findSome? (Expr.constant? "fields") =
      some (.listLit none (record.fields.map fun field => .str field.name)) := by
    have core : (coreMembers record).findSome? (Expr.constant? "fields") = none := by
      rw [List.findSome?_eq_none_iff]
      exact fun member inside => (procedure?_of_mem_coreMembers inside).2 "fields"
    rw [ofRecord, Expr.members, members, List.findSome?_append, List.findSome?_append, core,
      if_pos wanted]
    rfl
  have items : runItems host.runtime host.callees ⟨[], []⟩
      (record.fields.map fun field => Expr.str field.name) =
        .ok (record.fields.map fun field => .str field.name) :=
    runItems_map record.fields fun _ _ => rfl
  rw [Host.constant, found]
  simp only [eval, run_listLit, items]
  rfl

/-! ## The switch -/

section Switch

variable {host : Host Date} {scope : Scope Date} {statement : Field → Expr} {breaks : Bool}

theorem eval_ident {name : String} {value : Value Date} (found : scope.lookup? name = some value)
    (notNull : name ≠ "null") :
    eval host.runtime host.callees scope (.ident name) = .ok value :=
  (Reads.ident found notNull).eval_eq

/-- The statement for a field decides how the switch ends. -/
theorem exec_fieldSwitch {field : Field} {after : Scope Date} {ending : Ending Date}
    (member : field ∈ record.fields) (named : scope.lookup? "name" = some (.str field.name))
    (ran : exec host scope (statement field) = (after, ending))
    (leaves : breaks = true ∨ ending ≠ .finished) :
    exec host scope (fieldSwitch record statement breaks) = (after, ending) := by
  have body : execAll host scope [statement field] = (after, ending) := by
    rw [execAll_one, ran]
  rw [fieldSwitch, exec_switch _ (eval_ident named (by decide))]
  exact execArms_of_mem record.names_nodup member body leaves _

/-- What is thrown for a name that no field has. -/
def unknownName (name : String) : Thrown Date :=
  .argumentError [.str name, .str "name", .str "unknown field"]

theorem exec_unknownField (host : Host Date) {name : String}
    (named : scope.lookup? "name" = some (.str name)) :
    ∃ thrown, exec host scope unknownField = (scope, .threw thrown) ∧
      (scope.lookup? "ArgumentError" = none → thrown = unknownName name) := by
  refine ⟨_, exec_raise _, ?_⟩
  intro visible
  apply raised_argumentError visible
  rw [runArgs_cons (eval_ident named (by decide)) rfl]
  rfl

/-- A name that no field has makes the switch throw: an `ArgumentError`, unless that
name stands for something else here. -/
theorem exec_fieldSwitch_unknown (host : Host Date) (scope : Scope Date)
    (statement : Field → Expr) (breaks : Bool) {name : String}
    (unknown : name ∉ record.fields.map Field.name)
    (named : scope.lookup? "name" = some (.str name)) :
    ∃ thrown, exec host scope (fieldSwitch record statement breaks) = (scope, .threw thrown) ∧
      (scope.lookup? "ArgumentError" = none → thrown = unknownName name) := by
  have others : ∀ field ∈ record.fields, field.name ≠ name := by
    rintro field member rfl
    exact unknown (List.mem_map_of_mem member)
  obtain ⟨thrown, ran, visible⟩ := exec_unknownField host named
  refine ⟨thrown, ?_, visible⟩
  rw [fieldSwitch, exec_switch _ (eval_ident named (by decide)),
    execArms_map_append record.fields others, execArms, execAll_one, ran]

end Switch

/-! ## Setting fields -/

section Setting

variable {host : Host Date} {params fields : List (String × Value Date)} {hidden : List String}
  {name : String} {value : Value Date}

/-- An assignment to a reference sets the field, also where a parameter has its name. -/
theorem assign_reference (covered : ∀ param ∈ params, param.1 ∈ hidden) :
    Scope.assign ⟨params, fields⟩ host (Member.reference hidden name) value =
      Scope.assignField ⟨params, fields⟩ host name value := by
  rw [Member.reference]
  split
  · rfl
  · next visible =>
    rw [Scope.assign, if_pos (lookup_eq_none_of_covered covered visible)]

theorem assignField_eq (free : name ∉ Lint.reservedWords) (known : name ∈ fields.map Prod.fst) :
    Scope.assignField ⟨params, fields⟩ host name value =
      if host.admits name value then .ok ⟨params, putEntry fields (name, value)⟩
      else .error .typeCheck := by
  have isField : ¬(name ∈ Lint.reservedWords ∨ fields.lookup name = none) := by
    rw [lookup_eq_none_iff_not_mem]
    exact not_or.2 ⟨free, not_not.2 known⟩
  rw [Scope.assignField, if_neg isField]

end Setting

/-! ## The accessors -/

section Laws

variable {host : Host Date} {fields : List (String × Value Date)} {field : Field}
  {value : Value Date}

theorem invoke_getAttr (wanted : options.accessors = true) {text : String} {after : Scope Date}
    {ending : Ending Date}
    (ran : exec host ⟨[("name", .str text)], fields⟩ (fieldSwitch record readField false) =
      (after, ending)) :
    host.invoke (ofRecord options record) "getAttr" fields [.str text] =
      (after.fields, ending) := by
  refine Host.invoke_eq (findProcedure?_getAttr wanted) rfl ?_ ran
  have isText : (Value.str text : Value Date).isOf "String" = true := isOf_builtin .string _
  simp [getProcedure, typed, bindParams, isText, Except.map]

theorem invoke_setAttr (wanted : options.accessors = true) {text : String} {after : Scope Date}
    {ending : Ending Date}
    (ran : exec host ⟨[("name", .str text), ("value", value)], fields⟩
      (fieldSwitch record setField true) = (after, ending)) :
    host.invoke (ofRecord options record) "setAttr" fields [.str text, value] =
      (after.fields, ending) := by
  refine Host.invoke_eq (findProcedure?_setAttr wanted) rfl ?_ ran
  have isText : (Value.str text : Value Date).isOf "String" = true := isOf_builtin .string _
  have isAny : value.isOf "dynamic" = true := isOf_builtin .dynamic value
  simp [setProcedure, typed, bindParams, isText, isAny, Except.map]

/-- `getAttr` gives the value of a field and sets nothing. -/
theorem getAttr_eq (wanted : options.accessors = true) (member : field ∈ record.fields)
    (free : field.name ∉ Lint.reservedWords) (found : fields.lookup field.name = some value) :
    host.invoke (ofRecord options record) "getAttr" fields [.str field.name] =
      (fields, .returned value) := by
  have notNull : field.name ≠ "null" := fun same => free (same ▸ by decide)
  have ran : exec host ⟨[("name", .str field.name)], fields⟩ (readField field) =
      (⟨[("name", .str field.name)], fields⟩, .returned value) :=
    exec_ret (eval_reference_of_hidden (by simp [accessorParams]) (fun _ => free) notNull found)
  exact invoke_getAttr wanted (exec_fieldSwitch member rfl ran (.inr nofun))

theorem exec_setField (free : field.name ∉ Lint.reservedWords)
    (known : field.name ∈ fields.map Prod.fst) {text : Value Date} :
    exec host ⟨[("name", text), ("value", value)], fields⟩ (setField field) =
      if host.admits field.name value then
        (⟨[("name", text), ("value", value)], putEntry fields (field.name, value)⟩, .finished)
      else (⟨[("name", text), ("value", value)], fields⟩, .threw (.failure .typeCheck)) := by
  rw [setField, exec_assignment (eval_ident rfl (by decide)),
    assign_reference (by simp [accessorParams]), assignField_eq free known]
  cases host.admits field.name value <;> rfl

/-- `setAttr` sets a field that takes the value, and throws otherwise. -/
theorem setAttr_eq (wanted : options.accessors = true) (member : field ∈ record.fields)
    (free : field.name ∉ Lint.reservedWords) (known : field.name ∈ fields.map Prod.fst) :
    host.invoke (ofRecord options record) "setAttr" fields [.str field.name, value] =
      if host.admits field.name value then (putEntry fields (field.name, value), .finished)
      else (fields, .threw (.failure .typeCheck)) := by
  have ran : exec host ⟨[("name", .str field.name), ("value", value)], fields⟩
      (setField field) = _ := exec_setField free known
  by_cases admitted : host.admits field.name value = true
  · rw [if_pos admitted] at ran ⊢
    exact invoke_setAttr wanted (exec_fieldSwitch member rfl ran (.inl rfl))
  · rw [if_neg admitted] at ran ⊢
    exact invoke_setAttr wanted (exec_fieldSwitch member rfl ran (.inl rfl))

theorem getAttr_unknown (wanted : options.accessors = true) (host : Host Date) {name : String}
    (unknown : name ∉ record.fields.map Field.name) :
    ∃ thrown, host.invoke (ofRecord options record) "getAttr" fields [.str name] =
        (fields, .threw thrown) ∧
      (fields.lookup "ArgumentError" = none → thrown = unknownName name) := by
  obtain ⟨thrown, ran, visible⟩ :=
    exec_fieldSwitch_unknown host ⟨[("name", .str name)], fields⟩ readField false unknown rfl
  exact ⟨thrown, invoke_getAttr wanted ran, visible⟩

theorem setAttr_unknown (wanted : options.accessors = true) (host : Host Date) {name : String}
    (unknown : name ∉ record.fields.map Field.name) (value : Value Date) :
    ∃ thrown, host.invoke (ofRecord options record) "setAttr" fields [.str name, value] =
        (fields, .threw thrown) ∧
      (fields.lookup "ArgumentError" = none → thrown = unknownName name) := by
  obtain ⟨thrown, ran, visible⟩ :=
    exec_fieldSwitch_unknown host ⟨[("name", .str name), ("value", value)], fields⟩ setField true
      unknown rfl
  exact ⟨thrown, invoke_setAttr wanted ran, visible⟩

/-- **Lens laws of the accessors.** Take the class of a record whose field names pass the
lint, and an object with a value for each field. The constant `fields` lists the names in
order. `getAttr` gives the value of each field, and sets nothing whatever its argument.
`setAttr` sets its field and no other, so that `getAttr` gives the value then; a value that
the field does not take is refused. For every name that is not in the list both throw and
set nothing. -/
theorem accessors_lens_laws {type : Expr} (assembled : assemble options record = .ok type)
    (wanted : options.accessors = true)
    (clean : ∀ field ∈ record.fields, Lint.namingFault? record field = none)
    (host : Host Date) (names : fields.map Prod.fst = record.fields.map Field.name) :
    host.constant type "fields" = .ok (.list (record.fields.map fun field => .str field.name)) ∧
    (∀ field ∈ record.fields, ∃ value, fields.lookup field.name = some value ∧
      host.invoke type "getAttr" fields [.str field.name] = (fields, .returned value)) ∧
    (∀ name, (host.invoke type "getAttr" fields [.str name]).1 = fields) ∧
    (∀ field ∈ record.fields, ∀ value, host.admits field.name value = true →
      ∃ after, host.invoke type "setAttr" fields [.str field.name, value] = (after, .finished) ∧
        host.invoke type "getAttr" after [.str field.name] = (after, .returned value) ∧
        after.map Prod.fst = fields.map Prod.fst ∧
        ∀ other, other ≠ field.name → after.lookup other = fields.lookup other) ∧
    (∀ field ∈ record.fields, ∀ value, host.admits field.name value = false →
      host.invoke type "setAttr" fields [.str field.name, value] =
        (fields, .threw (.failure .typeCheck))) ∧
    ∀ name, name ∉ record.fields.map Field.name → ∀ value, ∃ ofGet ofSet,
      host.invoke type "getAttr" fields [.str name] = (fields, .threw ofGet) ∧
      host.invoke type "setAttr" fields [.str name, value] = (fields, .threw ofSet) ∧
      ("ArgumentError" ∉ record.fields.map Field.name →
        ofGet = unknownName name ∧ ofSet = unknownName name) := by
  obtain ⟨-, rfl⟩ := ofRecord_of_assemble assembled
  have free : ∀ field ∈ record.fields, field.name ∉ Lint.reservedWords :=
    fun field member => (Lint.namingFault?_eq_none_iff.1 (clean field member)).1
  have known : ∀ field ∈ record.fields, field.name ∈ fields.map Prod.fst := by
    intro field member
    rw [names]
    exact List.mem_map_of_mem member
  have reads : ∀ field ∈ record.fields, ∃ value, fields.lookup field.name = some value ∧
      host.invoke (ofRecord options record) "getAttr" fields [.str field.name] =
        (fields, .returned value) := by
    intro field member
    have isSet : fields.lookup field.name ≠ none := by
      rw [Ne, lookup_eq_none_iff_not_mem, not_not]
      exact known field member
    obtain ⟨value, found⟩ := Option.ne_none_iff_exists'.1 isSet
    exact ⟨value, found, getAttr_eq wanted member (free field member) found⟩
  refine ⟨constant_fields wanted host, reads, ?_, ?_, ?_, ?_⟩
  · intro name
    by_cases declared : name ∈ record.fields.map Field.name
    · obtain ⟨field, member, rfl⟩ := List.mem_map.1 declared
      obtain ⟨value, -, returned⟩ := reads field member
      rw [returned]
    · obtain ⟨thrown, threw, -⟩ := getAttr_unknown wanted host declared
      rw [threw]
  · intro field member value admitted
    refine ⟨putEntry fields (field.name, value), ?_, ?_, map_fst_putEntry (known field member), ?_⟩
    · rw [setAttr_eq wanted member (free field member) (known field member), if_pos admitted]
    · exact getAttr_eq wanted member (free field member)
        (lookup_putEntry_self (known field member))
    · exact fun other different => lookup_putEntry_of_ne (known field member) different
  · intro field member value refused
    rw [setAttr_eq wanted member (free field member) (known field member), refused]
    rfl
  · intro name unknown value
    obtain ⟨ofGet, got, getVisible⟩ := getAttr_unknown wanted host unknown
    obtain ⟨ofSet, set, setVisible⟩ := setAttr_unknown wanted host unknown value
    refine ⟨ofGet, ofSet, got, set, ?_⟩
    -- a field called `ArgumentError` would hide the class, and something else is thrown then
    intro visible
    rw [← names, ← lookup_eq_none_iff_not_mem] at visible
    exact ⟨getVisible visible, setVisible visible⟩

end Laws

/-! ## An object with fields that the parameters hide -/

/-- `int value` -/
def countField : Field :=
  ⟨"value", .scalar "int" false, Eq.refl true⟩

/-- `String name`, `int value` -/
def counter : Record :=
  ⟨"Counter", [⟨"name", .scalar "String" false, Eq.refl true⟩, countField], by decide, by decide,
    by decide⟩

/-- A host that checks the declared types of fields, for objects without dates. -/
def counterHost : Host Empty where
  runtime :=
    ⟨fun _ _ => false, fun _ _ => false, fun _ => 0, fun _ => 0, fun _ => 0, fun _ => 0, nofun,
      fun _ => none⟩
  callees :=
    ⟨fun _ _ _ => .error .tooDeep, fun _ _ => .error .tooDeep, fun _ _ => .error .tooDeep⟩
  admits name value :=
    counter.fields.any fun field => field.name == name && value.fits field.type

/-- The fields of a counter. -/
def doors : List (String × Value Empty) :=
  [("name", .str "doors"), ("value", .int 3)]

/-- A counter is set to a number, and not to `null`; it has no size. -/
theorem accessors_lens_laws_counter :
    (∀ field ∈ counter.fields, Lint.namingFault? counter field = none) ∧
    doors.map Prod.fst = counter.fields.map Field.name ∧
    ∃ type, assemble ⟨true, true⟩ counter = .ok type ∧
      (∃ after, counterHost.invoke type "setAttr" doors [.str "value", .int 7] =
          (after, .finished) ∧
        counterHost.invoke type "getAttr" after [.str "value"] = (after, .returned (.int 7)) ∧
        after.lookup "name" = some (.str "doors")) ∧
      counterHost.invoke type "setAttr" doors [.str "value", .null] =
        (doors, .threw (.failure .typeCheck)) ∧
      counterHost.invoke type "getAttr" doors [.str "size"] =
        (doors, .threw (unknownName "size")) := by
  have clean : ∀ field ∈ counter.fields, Lint.namingFault? counter field = none := by decide
  have assembled : assemble ⟨true, true⟩ counter = .ok (ofRecord ⟨true, true⟩ counter) := rfl
  have names : doors.map Prod.fst = counter.fields.map Field.name := rfl
  obtain ⟨-, -, -, sets, refuses, unknown⟩ :=
    accessors_lens_laws assembled rfl clean counterHost names
  have member : countField ∈ counter.fields := by simp [counter]
  obtain ⟨after, set, got, -, others⟩ := sets countField member (.int 7) rfl
  obtain ⟨ofGet, ofSet, threw, -, visible⟩ := unknown "size" (by decide) .null
  obtain ⟨rfl, -⟩ := visible (by decide)
  exact ⟨clean, names, _, assembled, ⟨after, set, got, others "name" (by decide)⟩,
    refuses countField member .null rfl, threw⟩

end Recordsmith.Class
