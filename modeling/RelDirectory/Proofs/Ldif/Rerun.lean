import RelDirectory.Proofs.Ldif.Edit

/-!
# Edits made again

Edits of other columns than `dn` change every row by itself, and what they do to a column of the
rows with one `dn` is what `runCells` does to its cells (`Evolution`).  So the same edits made
once more leave every row as it is (`rows_run_again`).
-/
set_option autoImplicit false
namespace RelDirectory.Ldif

open Memory (overwrite)

/-- The rows of a store after edits are given by `g`, which works cell by cell. -/
structure Evolution (m m' : Memory) (edits : List Edit) (g : Row → Row) : Prop where
  rows : ∀ name, m'.rows name = (m.rows name).map g
  leader : ∀ name dn, m'.leader name dn = (m.leader name dn).map g
  table : ∀ row, (g row).table = row.table
  dn : ∀ row, (g row).dn? = row.dn?
  cells : ∀ name dn first row, m.leader name dn = some first → row ∈ m.rows name →
    row.dn? = some dn → ∀ column, ((g first).get? column, (g row).get? column) =
      runCells (Edit.changesAt name dn column edits) (first.get? column, row.get? column)

variable {m m' m'' : Memory}

theorem evolution_refl (m : Memory) : Evolution m m [] id := by
  refine ⟨?_, ?_, fun _ => rfl, fun _ => rfl, fun _ _ _ _ _ _ _ _ => rfl⟩
  · intro name
    rw [List.map_id]
  · intro name dn
    rw [Option.map_id]
    rfl

theorem changesAt_append (name dn column : String) (edits others : List Edit) :
    Edit.changesAt name dn column (edits ++ others) =
      Edit.changesAt name dn column edits ++ Edit.changesAt name dn column others := by
  simp only [Edit.changesAt, List.filter_append, List.map_append]

theorem evolution_trans {edits others : List Edit} {g h : Row → Row}
    (first : Evolution m m' edits g) (second : Evolution m' m'' others h) :
    Evolution m m'' (edits ++ others) (h ∘ g) := by
  refine ⟨?_, ?_, ?_, ?_, ?_⟩
  · intro name
    rw [second.rows, first.rows, List.map_map]
  · intro name dn
    rw [second.leader, first.leader, Option.map_map]
  · intro row
    exact (second.table (g row)).trans (first.table row)
  · intro row
    exact (second.dn (g row)).trans (first.dn row)
  · intro name dn lead row leads member named column
    have leads' : m'.leader name dn = some (g lead) := by
      rw [first.leader, leads]
      rfl
    have member' : g row ∈ m'.rows name := by
      rw [first.rows]
      exact List.mem_map.2 ⟨row, member, rfl⟩
    have named' : (g row).dn? = some dn := (first.dn row).trans named
    rw [changesAt_append, runCells_append, ← first.cells name dn lead row leads member named column]
    exact second.cells name dn (g lead) (g row) leads' member' named' column

/-! ## One edit -/

theorem changesAt_single (name dn column : String) (e : Edit) :
    Edit.changesAt name dn column [e] =
      if e.table = name ∧ e.dn = dn ∧ e.column = column then [e.change] else [] := by
  by_cases here : e.table = name ∧ e.dn = dn ∧ e.column = column
  · simp [Edit.changesAt, here]
  · simp [Edit.changesAt, here]

theorem evolution_still {e : Edit} (still : ∀ first, m.leader e.table e.dn = some first →
    first.get? e.column = some (e.change.value (first.get? e.column))) :
    Evolution m m [e] id := by
  have same := evolution_refl m
  refine ⟨same.rows, same.leader, same.table, same.dn, ?_⟩
  intro name dn first row leads member named column
  rw [changesAt_single]
  split
  · rename_i here
    obtain ⟨rfl, rfl, rfl⟩ := here
    simp only [runCells, List.foldl_cons, List.foldl_nil, Change.onCells, id_eq]
    rw [if_pos (still first leads)]
  · rfl

theorem evolution_written (placed : m.Placed) {e : Edit} (other : e.column ≠ dnColumn)
    {first : Row} (leads : m.leader e.table e.dn = some first)
    (stale : first.get? e.column ≠ some (e.change.value (first.get? e.column))) :
    Evolution m (m.written e.table e.dn e.column (e.change.value (first.get? e.column))) [e]
      (overwrite e.table e.dn e.column (e.change.value (first.get? e.column))) := by
  refine ⟨Memory.rows_written_eq_map placed _ _ _ _, Memory.leader_written placed other _ _ _,
    Memory.table_overwrite _ _ _ _, ?_, ?_⟩
  · intro row
    rw [Row.dn?, Memory.get?_dn_overwrite other, ← Row.dn?]
  · intro name dn lead row leads' member named column
    obtain ⟨leadMember, leadNamed⟩ := Memory.leader_mem leads'
    have leadHome := placed name lead leadMember
    have rowHome := placed name row member
    rw [Memory.get?_overwrite, Memory.get?_overwrite, leadHome, rowHome, leadNamed, named,
      changesAt_single]
    -- a cell is reached if the edit counts for it, and else stays on both sides
    by_cases here : e.table = name ∧ e.dn = dn ∧ e.column = column
    · obtain ⟨rfl, rfl, rfl⟩ := here
      have same : first = lead := Option.some.inj (leads.symm.trans leads')
      subst same
      simp [runCells, Change.onCells, stale]
    · have elsewhere : ¬ (name = e.table ∧ some dn = some e.dn ∧ column = e.column) := by
        rintro ⟨rfl, sameDn, rfl⟩
        exact here ⟨rfl, (Option.some.inj sameDn).symm, rfl⟩
      rw [if_neg here, if_neg elsewhere, if_neg elsewhere]
      rfl

theorem evolution_carryOut (placed : m.Placed) {e : Edit} (other : e.column ≠ dnColumn) :
    ∃ g, Evolution m (Edit.carryOut m e) [e] g := by
  simp only [Edit.carryOut]
  cases leads : m.leader e.table e.dn with
  | none =>
    refine ⟨id, evolution_still ?_⟩
    intro first leads'
    rw [leads] at leads'
    cases leads'
  | some first =>
    by_cases still : first.get? e.column = some (e.change.value (first.get? e.column))
    · simp only [if_pos still]
      refine ⟨id, evolution_still ?_⟩
      intro first' leads'
      rw [leads, Option.some.injEq] at leads'
      rw [← leads']
      exact still
    · simp only [if_neg still]
      exact ⟨_, evolution_written placed other leads still⟩

/-! ## Many edits -/

theorem evolution_run (placed : m.Placed) {edits : List Edit}
    (others : ∀ e ∈ edits, e.column ≠ dnColumn) : ∃ g, Evolution m (Edit.run m edits) edits g := by
  induction edits generalizing m with
  | nil => exact ⟨id, evolution_refl m⟩
  | cons e rest ih =>
    obtain ⟨g, first⟩ := evolution_carryOut placed (others e List.mem_cons_self)
    obtain ⟨h, second⟩ := ih (Edit.placed_carryOut placed e) fun e' member =>
      others e' (List.mem_cons_of_mem _ member)
    exact ⟨h ∘ g, evolution_trans first second⟩

theorem placed_run (placed : m.Placed) (edits : List Edit) : (Edit.run m edits).Placed := by
  induction edits generalizing m with
  | nil => exact placed
  | cons e rest ih => exact ih (Edit.placed_carryOut placed e)

/-- The same edits made once more leave every row as it is. -/
theorem rows_run_again (placed : m.Placed) (texts : m.TextDns) {edits : List Edit}
    (others : ∀ e ∈ edits, e.column ≠ dnColumn) (name : String) :
    (Edit.run (Edit.run m edits) edits).rows name = (Edit.run m edits).rows name := by
  -- both runs together are an evolution with the list of edits twice
  obtain ⟨g, once⟩ := evolution_run placed others
  obtain ⟨h, again⟩ := evolution_run (placed_run placed edits) others
  rw [again.rows, once.rows, List.map_map]
  refine List.map_congr_left ?_
  intro row member
  obtain ⟨dn, named⟩ := texts name row member
  obtain ⟨first, leads⟩ := Memory.leader_of_mem member named
  have both := (evolution_trans once again).cells name dn first row leads member named
  have alone := once.cells name dn first row leads member named
  refine Row.ext_get? (again.table (g row)) ?_
  intro column
  have twice := both column
  rw [changesAt_append, runCells_append, runCells_again, ← alone column] at twice
  exact congrArg Prod.snd twice

end RelDirectory.Ldif
