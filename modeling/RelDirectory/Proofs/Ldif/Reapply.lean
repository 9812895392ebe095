import RelDirectory.Proofs.Ldif.Rerun
import RelDirectory.Proofs.Ldif.Run
import RelDirectory.Proofs.Lookups

/-!
# Applying a batch again

A batch in which new entries come first leaves the rows, when it is applied once more, as the
first time left them, and makes no entry (`apply_again`).  The first time, every record for a new
entry is spent, and the records on existing entries have become edits; the second time the former
do nothing and the latter are the same edits again.

Every call leaves a directory tidy (`Directory.tidy_run`), and a store starts so.  Rows with the
same `dn`, entries found by the end of their name and records that are skipped are all covered.
An update may well be counted the second time, if two records of the batch set one column to
different values; a batch of one record counts none.
-/
set_option autoImplicit false
namespace RelDirectory.Ldif

open Step
open Directory (KeyedByName Tidy)
open Memory (Grown)

variable {m : Memory} {tables : Keyed Table} {c : Coercion} {r : ChangeRecord}

/-- No record for a new entry comes after a record on an existing one. -/
def CreatesFirst (rs : List ChangeRecord) : Prop :=
  rs.Pairwise fun r later => (target? r).isSome → later.operation ≠ .create

theorem split_of_createsFirst {rs : List ChangeRecord} (order : CreatesFirst rs) :
    ∃ news olds, rs = news ++ olds ∧ (∀ r ∈ news, target? r = none) ∧
      ∀ r ∈ olds, r.operation ≠ .create := by
  induction rs with
  | nil => exact ⟨[], [], rfl, nofun, nofun⟩
  | cons r rest ih =>
    obtain ⟨before, within⟩ := List.pairwise_cons.1 order
    cases aim : target? r with
    | none =>
      obtain ⟨news, olds, rfl, new, old⟩ := ih within
      exact ⟨r :: news, olds, rfl, List.forall_mem_cons.2 ⟨aim, new⟩, old⟩
    | some name =>
      have modify : r.operation ≠ .create := modify_of_target? aim
      have later : ∀ s ∈ rest, s.operation ≠ .create := fun s member =>
        before s member (by rw [aim]; rfl)
      exact ⟨[], r :: rest, rfl, nofun, List.forall_mem_cons.2 ⟨modify, later⟩⟩

/-! ## New entries -/

theorem spent_outcomes (texts : m.TextDns) (byName : KeyedByName tables) {rs : List ChangeRecord}
    (spare : ∀ r ∈ rs, SparesDn r) : ∀ r ∈ rs, Spent (outcomes tables c m rs).2 tables c r := by
  induction rs generalizing m with
  | nil => nofun
  | cons s rest ih =>
    obtain ⟨here, there⟩ := List.forall_mem_cons.1 spare
    intro r member
    rcases List.mem_cons.1 member with rfl | member
    · have first : Grown m (outcome m tables c r).2 := outcome_grown here
      have later : Grown (outcome m tables c r).2
          (outcomes tables c (outcome m tables c r).2 rest).2 := outcomes_grown there
      exact spent_grown later (spent_outcome texts byName here first)
    · exact ih (textDns_outcome texts here) there r member

theorem outcomes_of_spent (texts : m.TextDns) (byName : KeyedByName tables)
    {rs : List ChangeRecord} (spare : ∀ r ∈ rs, SparesDn r) (aim : ∀ r ∈ rs, target? r = none)
    (spent : ∀ r ∈ rs, Spent m tables c r) :
    (outcomes tables c m rs).2 = m ∧ ∀ a ∈ (outcomes tables c m rs).1, a ≠ .created := by
  induction rs with
  | nil => exact ⟨rfl, nofun⟩
  | cons r rest ih =>
    obtain ⟨spareHere, spareThere⟩ := List.forall_mem_cons.1 spare
    obtain ⟨aimHere, aimThere⟩ := List.forall_mem_cons.1 aim
    obtain ⟨spentHere, spentThere⟩ := List.forall_mem_cons.1 spent
    have notMade := not_created_of_spent texts byName spareHere spentHere
    obtain ⟨same, none⟩ := ih spareThere aimThere spentThere
    rw [outcomes_cons, outcome_still aimHere notMade]
    exact ⟨same, List.forall_mem_cons.2 ⟨notMade, none⟩⟩

/-! ## Existing entries -/

/-- Records on existing entries are edits, which one can tell before the first of them. -/
theorem outcomes_of_modifies (placed : m.Placed) (texts : m.TextDns) (byName : KeyedByName tables)
    {rs : List ChangeRecord} (spare : ∀ r ∈ rs, SparesDn r)
    (modify : ∀ r ∈ rs, r.operation ≠ .create) :
    (outcomes tables c m rs).2 = Edit.run m (rs.filterMap (editOf m tables c)) ∧
      (∀ s, editOf (outcomes tables c m rs).2 tables c s = editOf m tables c s) ∧
      ∀ a ∈ (outcomes tables c m rs).1, a ≠ .created := by
  induction rs generalizing m with
  | nil => exact ⟨rfl, fun _ => rfl, nofun⟩
  | cons r rest ih =>
    obtain ⟨spareHere, spareThere⟩ := List.forall_mem_cons.1 spare
    obtain ⟨modifyHere, modifyThere⟩ := List.forall_mem_cons.1 modify
    have notMade : (outcome m tables c r).1 ≠ .created := not_created_of_modify modifyHere
    have first := outcome_of_modify (c := c) placed texts byName modifyHere
    have same : ∀ s, editOf (outcome m tables c r).2 tables c s = editOf m tables c s := by
      intro s
      rw [first]
      cases edit : editOf m tables c r with
      | none => rfl
      | some e => exact editOf_carryOut placed (column_ne_dn spareHere edit)
    obtain ⟨rows, edits, none⟩ := ih (placed_outcome placed) (textDns_outcome texts spareHere)
      spareThere modifyThere
    -- the rest of the batch is the same edits for the store before the first record
    rw [funext same, first] at rows
    refine ⟨?_, ?_, List.forall_mem_cons.2 ⟨notMade, none⟩⟩
    · rw [outcomes_cons, first, rows, List.filterMap_cons]
      cases editOf m tables c r <;> rfl
    · intro s
      exact (edits s).trans (same s)

theorem columns_ne_dn {rs : List ChangeRecord} (spare : ∀ r ∈ rs, SparesDn r) :
    ∀ e ∈ rs.filterMap (editOf m tables c), e.column ≠ dnColumn := by
  intro e member
  obtain ⟨r, record, edit⟩ := List.mem_filterMap.1 member
  exact column_ne_dn (spare r record) edit

/-! ## A batch -/

theorem outcomes_again (placed : m.Placed) (texts : m.TextDns) (byName : KeyedByName tables)
    {rs : List ChangeRecord} (order : CreatesFirst rs) (spare : ∀ r ∈ rs, SparesDn r) :
    (∀ name, (outcomes tables c (outcomes tables c m rs).2 rs).2.rows name =
      (outcomes tables c m rs).2.rows name) ∧
      ∀ a ∈ (outcomes tables c (outcomes tables c m rs).2 rs).1, a ≠ .created := by
  have textsAfter : (outcomes tables c m rs).2.TextDns := textDns_outcomes texts spare
  have placedAfter : (outcomes tables c m rs).2.Placed := placed_outcomes placed rs
  have spent := spent_outcomes (c := c) texts byName spare
  obtain ⟨news, olds, split, new, old⟩ := split_of_createsFirst order
  have spareNews : ∀ r ∈ news, SparesDn r := fun r member =>
    spare r (split ▸ List.mem_append_left _ member)
  have spareOlds : ∀ r ∈ olds, SparesDn r := fun r member =>
    spare r (split ▸ List.mem_append_right _ member)
  -- the second time: new entries do nothing, and existing ones are edited from there
  obtain ⟨still, noneNew⟩ := outcomes_of_spent textsAfter byName spareNews new fun r member =>
    spent r (split ▸ List.mem_append_left _ member)
  obtain ⟨again, _, noneOld⟩ := outcomes_of_modifies (c := c) placedAfter textsAfter byName
    spareOlds old
  -- the first time: the same edits, from the store that the new entries have left
  have placedMid : (outcomes tables c m news).2.Placed := placed_outcomes placed news
  have textsMid : (outcomes tables c m news).2.TextDns := textDns_outcomes texts spareNews
  obtain ⟨once, edits, _⟩ := outcomes_of_modifies (c := c) placedMid textsMid byName spareOlds old
  have first : (outcomes tables c m rs).2 =
      Edit.run (outcomes tables c m news).2
        (olds.filterMap (editOf (outcomes tables c m news).2 tables c)) := by
    rw [split, outcomes_append, once]
  have same : editOf (outcomes tables c m rs).2 tables c =
      editOf (outcomes tables c m news).2 tables c := by
    rw [split, outcomes_append]
    exact funext edits
  have second : outcomes tables c (outcomes tables c m rs).2 rs =
      ((outcomes tables c (outcomes tables c m rs).2 news).1 ++
        (outcomes tables c (outcomes tables c m rs).2 olds).1,
        Edit.run (outcomes tables c m rs).2
          (olds.filterMap (editOf (outcomes tables c m news).2 tables c))) := by
    conv => lhs; arg 4; rw [split]
    rw [outcomes_append, still, again, same]
  rw [second]
  refine ⟨?_, ?_⟩
  · intro name
    rw [first]
    exact rows_run_again placedMid textsMid (columns_ne_dn spareOlds) name
  · intro a member
    rcases List.mem_append.1 member with member | member
    · exact noneNew a member
    · exact noneOld a member

/-! ## One record -/

theorem value_again (change : Change) (held : Option Value) :
    change.value (some (change.value held)) = change.value held :=
  Option.some.inj (finalValue_again [change] held)

/-- A plan that was carried out is found up to date. -/
theorem planned_carryOut (placed : m.Placed) (texts : m.TextDns) (byName : KeyedByName tables)
    (spares : SparesDn r) {p : Plan} (plan : planned m tables c r = .ok (some p)) {e : Edit}
    (edit : p.edit? = some e) : ∃ p', planned (Edit.carryOut m e) tables c r = .ok (some p') ∧
      p'.row.get? p'.column = some p'.value := by
  obtain ⟨e', edit', leads, _⟩ := carryOut_plan placed texts byName plan
  have same : e' = e := Option.some.inj (edit'.symm.trans edit)
  subst same
  obtain ⟨dn, named, rfl⟩ := Option.map_eq_some_iff.1 edit
  have other := plan_ne_dn spares plan
  simp only [Edit.carryOut, leads]
  by_cases steady : p.row.get? p.column = some (p.change.value (p.row.get? p.column))
  · rw [if_pos steady]
    exact ⟨p, plan, steady⟩
  · have home : p.row.table = p.table.name := placed _ _ (Memory.leader_mem leads).1
    rw [if_neg steady, planned_written placed other, plan]
    refine ⟨_, rfl, ?_⟩
    simp only [Plan.value, Memory.get?_overwrite, home, named, and_self, if_true, value_again]

theorem not_updated_again (placed : m.Placed) (texts : m.TextDns) (byName : KeyedByName tables)
    (spares : SparesDn r) :
    (outcome (outcome m tables c r).2 tables c r).1 ≠ .updated := by
  intro updated
  obtain ⟨p, _, plan, stale, _⟩ := plan_of_updated updated
  rw [outcome_of_modify placed texts byName (modify_of_planned plan)] at plan
  cases before : planned m tables c r with
  | error e =>
    simp [editOf, before] at plan
  | ok found =>
    cases found with
    | none => simp [editOf, before] at plan
    | some q =>
      obtain ⟨e, edit, _⟩ := carryOut_plan placed texts byName before
      obtain ⟨p', plan', steady⟩ := planned_carryOut placed texts byName spares before edit
      simp only [editOf, before, edit, Option.map_some, Option.getD_some] at plan
      rw [plan', Except.ok.injEq, Option.some.injEq] at plan
      rw [← plan] at stale
      exact stale steady

/-! ## The directory -/

/-- A batch applied twice: the second time no row changes and no entry is made, and if it is one
record, none is updated.  If the tables cannot be discovered, both times fail alike. -/
theorem apply_again (d : Directory Memory) (force : Bool) (rs : List ChangeRecord)
    (tidy : Tidy d) (texts : d.store.TextDns) (order : CreatesFirst rs)
    (spare : ∀ r ∈ rs, SparesDn r) :
    let first := apply rs force d
    let second := apply rs force first.state
    (∀ name, second.state.store.rows name = first.state.store.rows name) ∧
      (∀ e, first.result = .error e → second.result = .error e) ∧
      ∀ once, first.result = .ok once → ∃ twice, second.result = .ok twice ∧ twice.created = 0 ∧
        (rs.length = 1 → twice.updated = 0) := by
  rcases Directory.reflect_cases d force with ⟨e, failed⟩ | ⟨d', tables, found, store, known⟩
  · have run := effect_apply_error failed rs
    simp only [state_of_effect run, result_of_effect run]
    exact ⟨fun _ => trivial, fun _ same => same, nofun⟩
  · have tidy' := Directory.tidy_reflect force d tidy
    rw [found] at tidy'
    have placed' : d'.store.Placed := tidy'.placed
    have keyed : KeyedByName tables := tidy'.byName tables known
    have texts' : d'.store.TextDns := store ▸ texts
    have alike := outcomes_alike tables d'.coercion d'.store rs
    have once := effect_apply found known rs
    have twice := effect_apply (reflect_again found alike) known rs
    rw [coercion_alike alike] at twice
    simp only [result_of_effect once, state_of_effect once, result_of_effect twice,
      state_of_effect twice]
    obtain ⟨rows, none⟩ := outcomes_again (c := d'.coercion) placed' texts' keyed order spare
    refine ⟨rows, nofun, ?_⟩
    intro _ _
    refine ⟨_, rfl, ?_, ?_⟩
    · rw [created_reportOf, List.count_eq_zero]
      intro member
      exact none _ member rfl
    · intro single
      obtain ⟨r, rfl⟩ := List.length_eq_one_iff.1 single
      have spares := spare r List.mem_cons_self
      rw [updated_reportOf, List.count_eq_zero]
      intro member
      exact not_updated_again placed' texts' keyed spares (List.mem_singleton.1 member).symm

/-- Two clients that share a `dn`. -/
def twins : List Row :=
  [Memory.client "inum=1,o=jans" "one" ["https://a"], Memory.client "inum=1,o=jans" "other" []]

/-- A new client, a redirect URI for the twins, and a name for the first client of all. -/
def mixedBatch : List ChangeRecord := [
  ⟨"inum=2,o=jans", [("objectClass", ["top", "jansClnt"]), ("displayName", ["two"])]⟩,
  ⟨"inum=1,o=jans", [("changetype", ["modify"]), ("add", ["jansRedirectURI"]),
    ("jansRedirectURI", ["https://b"])]⟩,
  ⟨"o=jans", [("changetype", ["modify"]), ("replace", ["displayName"]),
    ("displayName", ["first"])]⟩]

theorem apply_again_twins :
    let first := apply mixedBatch false (Directory.ofClients twins)
    let second := apply mixedBatch false first.state
    first.result = .ok ⟨1, 2, 0, 0⟩ ∧
      (∀ name, second.state.store.rows name = first.state.store.rows name) ∧
      ∃ twice, second.result = .ok twice ∧ twice.created = 0 := by
  have named : ∀ row ∈ twins, row.dn?.isSome := by decide
  have order : CreatesFirst mixedBatch := by
    simp only [CreatesFirst]
    decide
  have spare : ∀ r ∈ mixedBatch, SparesDn r := by
    simp only [SparesDn]
    decide
  obtain ⟨rows, _, report⟩ := apply_again (Directory.ofClients twins) false mixedBatch
    (Directory.tidy_ofClients _) (Directory.textDns_ofClients named) order spare
  have ran : (apply mixedBatch false (Directory.ofClients twins)).result = .ok ⟨1, 2, 0, 0⟩ := by
    decide +kernel
  obtain ⟨twice, again, created, _⟩ := report _ ran
  exact ⟨ran, rows, twice, again, created⟩

end RelDirectory.Ldif
