import RelDirectory.Proofs.Ldif.Congruence

/-!
# What discovery alone can tell apart

Two states of a store have the `SameRows` if only discovery can tell them apart: they may differ
in what tables they describe and in whether they answer at all.  Two directories that know the
same tables and whose stores have the same rows are `Twins`.  They look and write alike
(`writesAlike_twins`), so whatever a call finds and does on one, it finds and does on the other.
-/
set_option autoImplicit false
namespace RelDirectory

namespace Memory

open Step

/-- Two states of one store with the same rows in the same tables.  What discovery asks for may
differ: the descriptions of the tables, and whether the store answers. -/
structure SameRows (m m' : Memory) : Prop where
  backend : m'.backend = m.backend
  held : ∀ name, (m'.tables.get? name).map (·.rows) = (m.tables.get? name).map (·.rows)

variable {m m' : Memory}

theorem allRows_sameRows (same : SameRows m m') : m'.allRows = m.allRows := by
  have held : m'.tables.map (·.rows) = m.tables.map (·.rows) := by
    refine Keyed.ext_get? ?_
    intro name
    rw [Keyed.get?_map, Keyed.get?_map, same.held name]
  have listed : ∀ store : Memory,
      store.allRows = (store.tables.map (·.rows)).values.flatMap id := by
    intro store
    simp only [allRows, Keyed.values, Keyed.map, List.flatMap_map, id]
  rw [listed m', listed m, held]

theorem hasDn_sameRows (same : SameRows m m') (dn : String) : m'.hasDn dn = m.hasDn dn := by
  rw [hasDn, hasDn, allRows_sameRows same]

/-- A table is stored in both states or in neither. -/
theorem stored_sameRows (same : SameRows m m') (t : Table) :
    (∃ e, m.stored t = .error e ∧ m'.stored t = .error e) ∨
      ∃ s s', m.stored t = .ok s ∧ m'.stored t = .ok s' ∧ s'.rows = s.rows := by
  have held := same.held t.name
  simp only [stored]
  cases here : m.tables.get? t.name with
  | none =>
    rw [here, Option.map_none, Option.map_eq_none_iff] at held
    exact Or.inl ⟨_, rfl, by rw [held]⟩
  | some s =>
    rw [here, Option.map_some] at held
    obtain ⟨s', there, rows⟩ := Option.map_eq_some_iff.1 held
    exact Or.inr ⟨s, s', rfl, by rw [there], rows⟩

theorem sameRows_setTable (same : SameRows m m') (name : String) {s s' : MemoryTable}
    (rows : s'.rows = s.rows) : SameRows (m.setTable name s) (m'.setTable name s') := by
  refine ⟨same.backend, ?_⟩
  intro other
  simp only [setTable, Keyed.get?_insert]
  split
  · exact congrArg some rows
  · exact same.held other

theorem select_sameRows (same : SameRows m m') (t : Table) (predicates : List Predicate)
    (limit : Option Nat) : m'.select t predicates limit = m.select t predicates limit := by
  rcases stored_sameRows same t with ⟨e, here, there⟩ | ⟨s, s', here, there, rows⟩
  · simp only [select, here, there]
  · simp only [select, here, there, ok_bind, rows]

theorem respects_select (t : Table) (predicates : List Predicate) (limit : Option Nat) :
    Respects SameRows (Store.select t predicates limit : Step Memory (List Row)) :=
  fun _ _ same => ⟨select_sameRows same t predicates limit, same⟩

theorem respects_insert (t : Table) (row : Row) :
    Respects SameRows (Store.insert t row : Step Memory Unit) := by
  intro m m' same
  have unique : m'.checkUnique t row = m.checkUnique t row := by
    simp only [checkUnique]
    cases row.dn? with
    | none => rfl
    | some dn => simp only [hasDn_sameRows same dn]
  simp only [Store.insert, effect_changing, insert, unique]
  cases checkColumns t row.values.keys with
  | error e => exact ⟨rfl, same⟩
  | ok _ =>
    cases m.checkUnique t row with
    | error e => exact ⟨rfl, same⟩
    | ok _ =>
      rcases stored_sameRows same t with ⟨e, here, there⟩ | ⟨s, s', here, there, rows⟩
      · rw [here, there]
        exact ⟨rfl, same⟩
      · rw [here, there]
        exact ⟨rfl, sameRows_setTable same t.name (congrArg (· ++ _) rows)⟩

theorem respects_update (t : Table) (dn column : String) (value : Value) :
    Respects SameRows (Store.update t dn column value : Step Memory Nat) := by
  intro m m' same
  simp only [Store.update, effect_changing, update]
  cases checkColumn t column with
  | error e => exact ⟨rfl, same⟩
  | ok _ =>
    rcases stored_sameRows same t with ⟨e, here, there⟩ | ⟨s, s', here, there, rows⟩
    · rw [here, there]
      exact ⟨rfl, same⟩
    · rw [here, there]
      refine ⟨?_, sameRows_setTable same t.name (congrArg (List.map _) rows)⟩
      simp only [ok_bind, rows]
      rfl

end Memory

namespace Directory

open Step
open Memory (SameRows)

/-- Two directories that know the same tables and whose stores have the same rows. -/
structure Twins (tables : Keyed Table) (d d' : Directory Memory) : Prop where
  catalog : d'.catalog = d.catalog
  known : d.tables = some tables
  alsoKnown : d'.tables = some tables
  store : SameRows d.store d'.store

variable {tables : Keyed Table}

theorem respects_onStore {α : Type} {x : Step Memory α} (respects : Respects SameRows x) :
    Respects (Twins tables) (onStore x) := by
  intro d d' twins
  obtain ⟨same, after⟩ := respects d.store d'.store twins.store
  exact ⟨same, twins.catalog, twins.known, twins.alsoKnown, after⟩

/-- A step that looks at nothing but the known tables gives the same on twins. -/
theorem respects_of_known {α : Type} {x : Step (Directory Memory) α} {result : Except Failure α}
    (looks : ∀ {d : Directory Memory}, d.tables = some tables → effect x d = (result, d)) :
    Respects (Twins tables) x := by
  intro d d' twins
  rw [looks twins.known, looks twins.alsoKnown]
  exact ⟨rfl, twins⟩

/-- Neither looking up nor writing tells twins apart. -/
theorem writesAlike_twins : WritesAlike (Twins tables) where
  backend _ _ twins := twins.store.backend
  catalog _ _ twins := twins.catalog
  known := respects_of_known effect_knownTables
  reflects := respects_of_known effect_reflect_known
  selects t predicates limit := respects_onStore (Memory.respects_select t predicates limit)
  inserts t row := respects_onStore (Memory.respects_insert t row)
  updates t dn column value := respects_onStore (Memory.respects_update t dn column value)

end Directory

end RelDirectory
