/-
# Recordsmith.Proofs.Schema.Keys — no name twice in a document

A JSON document may give a name twice, and the later value takes the place of the
earlier one. A TOML document that defines a key twice is refused, whichever way its
tables are opened and extended. In both notations the names of an outline are
distinct (`nodup_names_of_outline`), so records can be told apart by their names.

For TOML this is an invariant of reading: `nodup_keys_update` for a change at the
end of a path, `nodup_keys_step` for a statement, `nodup_keys_of_parse` for a document.
-/
import Mathlib.Data.List.Nodup
import Recordsmith.Schema.File

namespace Recordsmith

set_option autoImplicit false

/-- What each step keeps, a run of steps keeps. -/
theorem of_foldlM_eq_some {σ α : Type} {step : σ → α → Option σ} {P : σ → Prop}
    (keeps : ∀ {state item next}, P state → step state item = some next → P next)
    {items : List α} {start final : σ} (run : items.foldlM step start = some final)
    (holds : P start) : P final := by
  induction items generalizing start with
  | nil =>
    cases run
    exact holds
  | cons item rest ih =>
    rw [List.foldlM_cons] at run
    obtain ⟨next, stepped, later⟩ := Option.bind_eq_some_iff.1 run
    exact ih later (keeps holds stepped)

/-! ## JSON -/

namespace Outline

theorem mem_names_put {name other : String} {entries : List FieldEntry} {outline : Outline} :
    other ∈ (put name entries outline).map Prod.fst ↔
      other = name ∨ other ∈ outline.map Prod.fst := by
  induction outline with
  | nil => simp [put]
  | cons entry rest ih =>
    obtain ⟨first, old⟩ := entry
    rw [put]
    split
    · next same => simp [same]
    · simp only [List.map_cons, List.mem_cons, ih]
      exact or_left_comm

theorem nodup_names_put {name : String} {entries : List FieldEntry} {outline : Outline}
    (distinct : (outline.map Prod.fst).Nodup) :
    ((put name entries outline).map Prod.fst).Nodup := by
  induction outline with
  | nil => exact List.nodup_singleton name
  | cons entry rest ih =>
    obtain ⟨first, old⟩ := entry
    rw [put]
    rw [List.map_cons, List.nodup_cons] at distinct
    split
    · next same =>
      rw [List.map_cons, List.nodup_cons, ← same]
      exact distinct
    · next other =>
      rw [List.map_cons, List.nodup_cons, mem_names_put, not_or]
      exact ⟨⟨other, distinct.1⟩, ih distinct.2⟩

theorem nodup_names_ofJson {document : Json} {outline : Outline}
    (read : ofJson? document = some outline) : (outline.map Prod.fst).Nodup := by
  cases document with
  | object members =>
    obtain ⟨named, -, folded⟩ := Option.bind_eq_some_iff.1 read
    refine of_foldlM_eq_some (P := fun outline : Outline => (outline.map Prod.fst).Nodup) ?_
      folded List.nodup_nil
    intro outline member next distinct stepped
    obtain ⟨entries, -, rfl⟩ := Option.map_eq_some_iff.1 stepped
    exact nodup_names_put distinct
  | null | bool | number | string | array => cases read

end Outline

/-! ## TOML -/

namespace Toml

/-- The keys of a table. -/
def Table.keys (table : Table) : List String :=
  table.map Prod.fst

namespace Table

theorem not_mem_keys_of_get? {table : Table} {key : String} (absent : table.get? key = none) :
    key ∉ table.keys := by
  rw [get?, List.lookup_eq_none_iff] at absent
  intro member
  obtain ⟨entry, among, rfl⟩ := List.mem_map.1 member
  simpa using absent entry among

theorem nodup_keys_append {table : Table} {key : String} (distinct : table.keys.Nodup)
    (absent : key ∉ table.keys) (value : Node) : (keys (table ++ [(key, value)])).Nodup := by
  rw [keys, List.map_append, List.map_singleton, ← List.concat_eq_append]
  exact distinct.concat absent

theorem mem_keys_put {key other : String} {value : Node} {table : Table} :
    other ∈ keys (table.put key value) ↔ other = key ∨ other ∈ table.keys := by
  induction table with
  | nil => simp [put, keys]
  | cons entry rest ih =>
    obtain ⟨first, old⟩ := entry
    rw [put]
    split
    · next same => simp [keys, same]
    · simp only [keys, List.map_cons, List.mem_cons] at ih ⊢
      rw [ih]
      exact or_left_comm

theorem nodup_keys_put {key : String} {value : Node} {table : Table}
    (distinct : table.keys.Nodup) : (keys (table.put key value)).Nodup := by
  induction table with
  | nil => exact List.nodup_singleton key
  | cons entry rest ih =>
    obtain ⟨first, old⟩ := entry
    rw [keys, List.map_cons, List.nodup_cons] at distinct
    rw [put]
    split
    · next same =>
      rw [keys, List.map_cons, List.nodup_cons, ← same]
      exact distinct
    · next other =>
      have absent : first ∉ keys (put key value rest) := by
        rw [mem_keys_put, not_or]
        exact ⟨other, distinct.1⟩
      exact List.nodup_cons.2 ⟨absent, ih distinct.2⟩

theorem nodup_keys_erase_append {table : Table} (distinct : table.keys.Nodup) (key : String)
    (value : Node) : (keys (table.erase key ++ [(key, value)])).Nodup := by
  apply nodup_keys_append
  · exact (distinct.sublist (List.filter_sublist.map Prod.fst))
  · intro member
    obtain ⟨entry, kept, rfl⟩ := List.mem_map.1 member
    simpa [erase] using (List.mem_filter.1 kept).2

/-- A change at the end of a path keeps the keys of the root distinct if it keeps those of
the table it changes distinct. -/
theorem nodup_keys_update {created own : Origin} {change : Origin → Table → Option Table}
    (keeps : ∀ {origin table next}, table.keys.Nodup → change origin table = some next →
      next.keys.Nodup)
    {path : List String} {table next : Table} (distinct : table.keys.Nodup)
    (updated : table.update created change own path = some next) : next.keys.Nodup := by
  cases path with
  | nil => exact keeps distinct updated
  | cons key path =>
    -- The root itself only gets another value for a key, wherever the path leads.
    rw [update] at updated
    split at updated
    · obtain ⟨inner, -, rfl⟩ := Option.map_eq_some_iff.1 updated
      exact nodup_keys_put distinct
    · split at updated
      · cases updated
      · obtain ⟨inner, -, rfl⟩ := Option.map_eq_some_iff.1 updated
        exact nodup_keys_put distinct
    · obtain ⟨last, -, mapped⟩ := Option.bind_eq_some_iff.1 updated
      obtain ⟨inner, -, rfl⟩ := Option.map_eq_some_iff.1 mapped
      exact nodup_keys_put distinct
    · cases updated

theorem nodup_keys_assign {key : Key} {value : Node} {table next : Table}
    (distinct : table.keys.Nodup) (assigned : table.assign key value = some next) :
    next.keys.Nodup := by
  refine nodup_keys_update ?_ distinct assigned
  intro origin inner changed innerDistinct change
  split at change
  · cases change
  · split at change
    · cases change
    · next absent =>
      cases change
      rw [Option.not_isSome_iff_eq_none] at absent
      exact nodup_keys_append innerDistinct (not_mem_keys_of_get? absent) value

theorem nodup_keys_addSection {key : Key} {table next : Table} (distinct : table.keys.Nodup)
    (added : table.addSection key = some next) : next.keys.Nodup := by
  refine nodup_keys_update ?_ distinct added
  intro origin inner changed innerDistinct change
  split at change
  · next absent =>
    cases change
    exact nodup_keys_append innerDistinct (not_mem_keys_of_get? absent) _
  · cases change
    exact nodup_keys_erase_append innerDistinct _ _
  · cases change

theorem nodup_keys_addElement {key : Key} {table next : Table} (distinct : table.keys.Nodup)
    (added : table.addElement key = some next) : next.keys.Nodup := by
  refine nodup_keys_update ?_ distinct added
  intro origin inner changed innerDistinct change
  split at change
  · next absent =>
    cases change
    exact nodup_keys_append innerDistinct (not_mem_keys_of_get? absent) _
  · cases change
    exact nodup_keys_put innerDistinct
  · cases change

end Table

theorem nodup_keys_step {progress next : Progress} {statement : Statement}
    (distinct : progress.root.keys.Nodup) (stepped : progress.step statement = some next) :
    next.root.keys.Nodup := by
  cases statement with
  | openSection key =>
    obtain ⟨root, added, rfl⟩ := Option.map_eq_some_iff.1 stepped
    exact Table.nodup_keys_addSection distinct added
  | openElement key =>
    obtain ⟨root, added, rfl⟩ := Option.map_eq_some_iff.1 stepped
    exact Table.nodup_keys_addElement distinct added
  | assign key value =>
    obtain ⟨root, updated, rfl⟩ := Option.map_eq_some_iff.1 stepped
    exact Table.nodup_keys_update (fun inner => Table.nodup_keys_assign inner) distinct updated

theorem nodup_keys_of_parse {text : String} {document : Table}
    (read : parse? text = some document) : document.keys.Nodup := by
  obtain ⟨statements, -, mapped⟩ := Option.bind_eq_some_iff.1 read
  obtain ⟨progress, folded, rfl⟩ := Option.map_eq_some_iff.1 mapped
  exact of_foldlM_eq_some (P := fun progress : Progress => progress.root.keys.Nodup)
    nodup_keys_step folded List.nodup_nil

end Toml

theorem Outline.names_ofToml {document : Toml.Table} {outline : Outline}
    (read : ofToml? document = some outline) : outline.map Prod.fst = document.keys := by
  induction document generalizing outline with
  | nil =>
    cases read
    rfl
  | cons entry rest ih =>
    rw [ofToml?, List.mapM_cons] at read
    obtain ⟨first, made, later⟩ := Option.bind_eq_some_iff.1 read
    obtain ⟨others, madeLater, same⟩ := Option.bind_eq_some_iff.1 later
    obtain ⟨entries, -, rfl⟩ := Option.map_eq_some_iff.1 made
    cases same
    rw [List.map_cons, ih madeLater]
    rfl

/-- No name stands twice in an outline. -/
theorem SchemaFile.nodup_names_of_outline {content path : String} {format : Format}
    {outline : Outline} (read : SchemaFile.outline content format path = .ok outline) :
    (outline.map Prod.fst).Nodup := by
  cases format with
  | json =>
    rw [SchemaFile.outline] at read
    split at read
    · cases read
    · next found =>
      cases read
      obtain ⟨document, -, decoded⟩ := Option.bind_eq_some_iff.1 found
      exact Outline.nodup_names_ofJson decoded
  | toml =>
    rw [SchemaFile.outline] at read
    split at read
    · cases read
    · next found =>
      cases read
      obtain ⟨document, parsed, decoded⟩ := Option.bind_eq_some_iff.1 found
      rw [Outline.names_ofToml decoded]
      exact Toml.nodup_keys_of_parse parsed

end Recordsmith
