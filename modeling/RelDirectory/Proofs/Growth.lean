import RelDirectory.Proofs.Memory

/-!
# What writing leaves as it is

No call on the store in memory registers a table, changes a description or makes the store
unreachable: the states before and after it are `Alike`, and so both report the same tables
(`reflect_alike`).  A state from which no `dn` is lost either has `Grown`; so does the state
after an insertion and after an update of another column than `dn`.  A store with one table has its
rows as they were given (`rows_single`).
-/
set_option autoImplicit false
namespace RelDirectory.Memory

/-- Two states of one store with the same tables, described in the same way. -/
structure Alike (m m' : Memory) : Prop where
  backend : m'.backend = m.backend
  reachable : m'.reachable = m.reachable
  described : ∀ name, (m'.tables.get? name).map (·.description) =
    (m.tables.get? name).map (·.description)

/-- A later state of a store, in which every `dn` is still there. -/
structure Grown (m m' : Memory) : Prop extends Alike m m' where
  kept : ∀ dn, m.hasDn dn = true → m'.hasDn dn = true

variable {m m' m'' : Memory}

theorem alike_refl (m : Memory) : Alike m m := ⟨rfl, rfl, fun _ => rfl⟩

theorem alike_trans (first : Alike m m') (second : Alike m' m'') : Alike m m'' :=
  ⟨second.backend.trans first.backend, second.reachable.trans first.reachable,
    fun name => (second.described name).trans (first.described name)⟩

theorem alike_setTable {name : String} {s : MemoryTable} (found : m.tables.get? name = some s)
    (rows : List Row) : Alike m (m.setTable name { m.table name with rows := rows }) := by
  refine ⟨rfl, rfl, ?_⟩
  intro other
  simp only [setTable, Keyed.get?_insert]
  split
  · rename_i same
    simp [same, found, table]
  · rfl

theorem stored_alike (alike : Alike m m') {name : String} {s : MemoryTable}
    (found : m.tables.get? name = some s) : ∃ s', m'.tables.get? name = some s' := by
  have described := alike.described name
  cases after : m'.tables.get? name with
  | some s' => exact ⟨s', rfl⟩
  | none => simp [after, found] at described

theorem alike_symm (alike : Alike m m') : Alike m' m :=
  ⟨alike.backend.symm, alike.reachable.symm, fun name => (alike.described name).symm⟩

theorem alike_insert {t : Table} {row : Row} (run : m.insert t row = .ok m') : Alike m m' := by
  obtain ⟨_, _, ⟨s, found⟩, rfl⟩ := insert_ok run
  exact alike_setTable found _

theorem alike_update {t : Table} {dn column : String} {value : Value} {n : Nat}
    (run : m.update t dn column value = .ok (n, m')) : Alike m m' := by
  obtain ⟨_, ⟨s, found⟩, rfl⟩ := update_ok run
  exact alike_setTable found _

theorem reflect_alike (alike : Alike m m') : m'.reflect = m.reflect := by
  have descriptions : m'.tables.map (·.description) = m.tables.map (·.description) := by
    refine Keyed.ext_get? ?_
    intro name
    rw [Keyed.get?_map, Keyed.get?_map, alike.described name]
  have listed : ∀ store : Memory, store.tables.values.filterMap (·.description) =
      (store.tables.map (·.description)).values.filterMap id := by
    intro store
    simp only [Keyed.values, Keyed.map, List.filterMap_map, List.map_map]
    rfl
  simp only [reflect, checkReachable, alike.reachable]
  rw [listed m', listed m, descriptions]

/-! ## Names that stay -/

theorem grown_refl (m : Memory) : Grown m m := ⟨alike_refl m, fun _ taken => taken⟩

theorem grown_trans (first : Grown m m') (second : Grown m' m'') : Grown m m'' :=
  ⟨alike_trans first.toAlike second.toAlike, fun dn taken => second.kept dn (first.kept dn taken)⟩

theorem grown_insert {t : Table} {row : Row} (run : m.insert t row = .ok m') : Grown m m' := by
  refine ⟨alike_insert run, ?_⟩
  obtain ⟨_, _, _, rfl⟩ := insert_ok run
  intro dn taken
  obtain ⟨name, held, member, named⟩ := hasDn_iff.1 taken
  refine hasDn_iff.2 ⟨name, held, ?_, named⟩
  rw [rows_addRow]
  split
  · exact List.mem_append_left _ member
  · exact member

theorem grown_update {t : Table} {dn column : String} {value : Value} {n : Nat}
    (other : column ≠ dnColumn) (run : m.update t dn column value = .ok (n, m')) :
    Grown m m' := by
  refine ⟨alike_update run, ?_⟩
  obtain ⟨_, _, rfl⟩ := update_ok run
  intro asked taken
  obtain ⟨name, held, member, named⟩ := hasDn_iff.1 taken
  by_cases same : name = t.name
  · refine hasDn_iff.2 ⟨name, setColumn dn column value held, ?_, ?_⟩
    · rw [rows_written, if_pos same]
      exact List.mem_map.2 ⟨held, member, rfl⟩
    · rw [dn?_setColumn other]
      exact named
  · refine hasDn_iff.2 ⟨name, held, ?_, named⟩
    rw [rows_written, if_neg same]
    exact member

theorem hasDn_insert {t : Table} {row : Row} {dn : String} (named : row.dn? = some dn)
    (run : m.insert t row = .ok m') : m'.hasDn dn = true := by
  obtain ⟨_, _, _, rfl⟩ := insert_ok run
  refine hasDn_iff.2 ⟨t.name, { row with table := t.name }, ?_, named⟩
  rw [rows_addRow]
  simp

/-! ## Stores with one table -/

theorem alike_addRow {row : Row} {s : MemoryTable} (found : m.tables.get? row.table = some s) :
    Alike m (m.addRow row) := alike_setTable found _

theorem reflect_addTable_new (t : Table) : ((new .mysql).addTable t).reflect = .ok [t] := rfl

/-- Rows for one registered table are kept in their order, and the table is all that is found. -/
theorem rows_single {t : Table} {rows : List Row} (home : ∀ row ∈ rows, row.table = t.name) :
    (single t rows).rows t.name = rows ∧ (single t rows).reflect = .ok [t] := by
  have general : ∀ (rows : List Row) (m : Memory), (∀ row ∈ rows, row.table = t.name) →
      (∃ s, m.tables.get? t.name = some s) →
        (rows.foldl addRow m).rows t.name = m.rows t.name ++ rows ∧
          Alike m (rows.foldl addRow m) := by
    intro rows
    induction rows with
    | nil => exact fun m _ _ => ⟨(List.append_nil _).symm, alike_refl m⟩
    | cons row rest ih =>
      intro m home stored
      obtain ⟨here, others⟩ := List.forall_mem_cons.1 home
      obtain ⟨s, found⟩ := stored
      have alike : Alike m (m.addRow row) := alike_addRow (here ▸ found)
      obtain ⟨after, kept⟩ := ih (m.addRow row) others (stored_alike alike found)
      refine ⟨?_, alike_trans alike kept⟩
      rw [List.foldl_cons, after, rows_addRow, if_pos here.symm, List.append_assoc,
        List.singleton_append]
  have registered : ∃ s, ((new .mysql).addTable t).tables.get? t.name = some s := by
    refine ⟨⟨some t, []⟩, ?_⟩
    simp only [addTable, setTable, Keyed.get?_insert, if_true]
    rfl
  obtain ⟨kept, alike⟩ := general rows _ home registered
  refine ⟨?_, (reflect_alike alike).trans (reflect_addTable_new t)⟩
  rw [single, kept, addTable, rows_setTable, if_pos rfl]
  rfl

end RelDirectory.Memory
