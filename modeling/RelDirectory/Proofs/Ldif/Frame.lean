import Mathlib.Data.List.Forall2
import RelDirectory.Proofs.DistinctDns
import RelDirectory.Proofs.Ldif.Along

/-!
# What a batch may touch

A record that is skipped or finds nothing to change leaves the store as it is, also if it failed
on its way.  One that makes an entry appends one row to the table of its class, and one that
updates an entry sets its attribute in rows of the entry's table that are named like the entry
(`wrote_outcome`).  A batch is a chain of such records, its report counts them, and the store has
as many rows more as entries were made (`apply_framed`).  This holds in a tidy directory, and all
calls lead from one to another.
-/
set_option autoImplicit false
namespace RelDirectory

namespace Memory

/-- One row more stands at the end of one table, and all else is as it was. -/
structure Appended (m m' : Memory) (name : String) (row : Row) : Prop extends Alike m m' where
  own : row.table = name
  here : m'.rows name = m.rows name ++ [row]
  elsewhere : ∀ other, other ≠ name → m'.rows other = m.rows other

/-- In some rows of an entry's table that are named like the entry one column holds a value, and
all else is as it was. -/
structure Overwritten (m m' : Memory) (entry : Row) (column : String) (value : Value) : Prop
    extends Alike m m' where
  here : List.Forall₂ (fun before after => after = before ∨
    before.shownDn? = entry.shownDn? ∧ after = before.set column value)
    (m.rows entry.table) (m'.rows entry.table)
  elsewhere : ∀ other, other ≠ entry.table → m'.rows other = m.rows other

variable {m m' : Memory} {tables : Keyed Table}

/-! ## Rows that are counted -/

theorem rowCount_insert {t : Table} {row : Row} (run : m.insert t row = .ok m') :
    m'.rowCount = m.rowCount + 1 := by
  obtain ⟨_, _, ⟨s, found⟩, rfl⟩ := insert_ok run
  obtain ⟨before, behind, rows, replaced⟩ := allRows_setTable found
  have held : m.table t.name = s := by simp [table, found]
  simp only [rowCount, addRow, replaced, held, rows, List.length_append, List.length_singleton]
  omega

theorem rowCount_update {t : Table} {dn column : String} {value : Value} {n : Nat}
    (run : m.update t dn column value = .ok (n, m')) : m'.rowCount = m.rowCount := by
  obtain ⟨_, ⟨s, found⟩, rfl⟩ := update_ok run
  obtain ⟨before, behind, rows, replaced⟩ := allRows_setTable found
  simp only [rowCount, written, replaced, rows, rows_of_get? found, List.length_append,
    List.length_map]

/-! ## What the two writes touch -/

theorem appended_insert {t : Table} {row : Row} (run : m.insert t row = .ok m') :
    Appended m m' t.name { row with table := t.name } := by
  refine ⟨alike_insert run, rfl, ?_, ?_⟩
  all_goals
    obtain ⟨_, _, _, rfl⟩ := insert_ok run
  · rw [rows_addRow, if_pos rfl]
  · intro other different
    rw [rows_addRow, if_neg different]

theorem overwritten_update {t : Table} {dn column : String} {value : Value} {n : Nat}
    {entry : Row} (own : t.name = entry.table)
    (reached : ∀ row ∈ m.rows entry.table, row.dn? = some dn → row.shownDn? = entry.shownDn?)
    (run : m.update t dn column value = .ok (n, m')) :
    Overwritten m m' entry column value := by
  refine ⟨alike_update run, ?_, ?_⟩
  all_goals
    obtain ⟨_, _, rfl⟩ := update_ok run
  · rw [rows_written, if_pos own.symm, List.forall₂_map_right_iff, List.forall₂_same]
    intro row member
    by_cases named : row.dn? = some dn
    · exact Or.inr ⟨reached row member named, if_pos named⟩
    · exact Or.inl (if_neg named)
  · intro other different
    rw [rows_written, if_neg fun same => different (same.trans own)]

/-- The rows that an update for a found entry reaches are named like the entry.  If its `dn` is
no text, the update goes to the name that was asked for; rows with this name would have been found
before any that only ends so. -/
theorem shownDn?_reached (placed : m.Placed) {dn : String} {entry row : Row}
    (found : m.entryRow? tables dn = some entry) (member : row ∈ m.rows entry.table)
    (named : row.dn? = some (entry.dn?.getD dn)) :
    row.shownDn? = entry.shownDn? := by
  rw [shownDn?_of_dn? named]
  cases text : entry.dn? with
  | some own => exact (shownDn?_of_dn? text).symm
  | none =>
    rw [text, Option.getD_none] at named
    obtain ⟨t, known, home, _⟩ := entryRow?_held placed found
    exact (shownDn?_entryRow? known (home ▸ member) (shownDn?_of_dn? named) found).symm

end Memory

namespace Ldif

open Step
open Directory (Tidy)
open Memory (Appended Overwritten)

/-- What a record has done to the store if it came out so. -/
def Wrote (d : Directory Memory) (r : ChangeRecord) (m' : Memory) : Applied → Prop
  | .skipped => m' = d.store
  | .unchanged => m' = d.store
  | .created => ∃ cls row, targetClass? r = some cls ∧ Appended d.store m' cls row
  | .updated => ∃ attr entry value, target? r = some attr ∧
      (Directory.find? r.dn d).result = .ok (some entry) ∧
      Overwritten d.store m' entry attr value

/-- A record was applied: it came out in one way, and what it has done is that and no more. -/
structure Framed (d : Directory Memory) (r : ChangeRecord) (a : Applied) (d' : Directory Memory) :
    Prop where
  ran : effect (applyOrSkip r) d = (.ok a, d')
  failed : ∀ e, (applyRecord r d).result = .error e → a = .skipped
  others : d' = { d with store := d'.store }
  wrote : Wrote d r d'.store a

/-- Records applied one after the other, with what became of each. -/
inductive Batch : Directory Memory → List ChangeRecord → List Applied → Directory Memory → Prop
  | nil {d : Directory Memory} : Batch d [] [] d
  | cons {d d' last : Directory Memory} {r : ChangeRecord} {rs : List ChangeRecord} {a : Applied}
      {as : List Applied} : Framed d r a d' → Batch d' rs as last → Batch d (r :: rs) (a :: as) last

variable {d : Directory Memory} {m : Memory} {tables : Keyed Table} {c : Coercion}
  {r : ChangeRecord}

/-! ## One record -/

/-- A plan that is carried out touches the rows named like the one that was found. -/
theorem overwritten_planned (tidy : Tidy d) (known : d.tables = some tables) {p : Plan} {n : Nat}
    {m' : Memory} (plan : planned d.store tables d.coercion r = .ok (some p))
    (sent : d.store.update p.table (p.row.dn?.getD r.dn) p.column p.value = .ok (n, m')) :
    (Directory.find? r.dn d).result = .ok (some p.row) ∧
      Overwritten d.store m' p.row p.column p.value := by
  obtain ⟨entry, held, _, _⟩ := planned_aim plan
  have own : p.table.name = p.row.table := tidy.byName tables known _ _ held
  have reached : ∀ row ∈ d.store.rows p.row.table,
      row.dn? = some (p.row.dn?.getD r.dn) → row.shownDn? = p.row.shownDn? :=
    fun _ member named => Memory.shownDn?_reached tidy.placed entry member named
  refine ⟨?_, Memory.overwritten_update own reached sent⟩
  rw [result_of_effect (Directory.effect_find? known r.dn), entry]

theorem wrote_outcome (tidy : Tidy d) (known : d.tables = some tables) (r : ChangeRecord) :
    Wrote d r (outcome d.store tables d.coercion r).2 (outcome d.store tables d.coercion r).1 := by
  cases way : (outcome d.store tables d.coercion r).1 with
  | created =>
    obtain ⟨_, t, row, target, _, _, inserted⟩ :=
      insertion_of_created (tidy.byName tables known) way
    exact ⟨t.name, _, target, Memory.appended_insert inserted⟩
  | updated =>
    obtain ⟨p, n, plan, _, sent⟩ := plan_of_updated way
    obtain ⟨found, overwritten⟩ := overwritten_planned tidy known plan sent
    exact ⟨p.column, p.row, p.value, (planned_aim plan).2.2.2, found, overwritten⟩
  | unchanged => exact store_of_neither (by simp [way]) (by simp [way])
  | skipped => exact store_of_neither (by simp [way]) (by simp [way])

theorem framed_outcome (tidy : Tidy d) (known : d.tables = some tables) (r : ChangeRecord) :
    Framed d r (outcome d.store tables d.coercion r).1
      { d with store := (outcome d.store tables d.coercion r).2 } := by
  refine ⟨effect_applyOrSkip known r, ?_, rfl, wrote_outcome tidy known r⟩
  intro e failed
  have ran := result_of_effect (effect_applyRecord known r)
  cases run : applied d.store tables d.coercion r with
  | error e' => simp only [outcome, run]
  | ok o =>
    rw [ran, run] at failed
    cases failed

theorem rowCount_outcome (m : Memory) (tables : Keyed Table) (c : Coercion) (r : ChangeRecord) :
    (outcome m tables c r).2.rowCount =
      m.rowCount + [(outcome m tables c r).1].count .created := by
  rcases outcome_cases m tables c r with ⟨made, _, same⟩ | made | made
  · rw [same, List.count_eq_zero_of_not_mem fun member => made (List.mem_singleton.1 member).symm]
    rfl
  · obtain ⟨_, _, _, _, _, _, _, _, _, inserted, out⟩ := made
    rw [out]
    exact Memory.rowCount_insert inserted
  · obtain ⟨_, _, _, _, _, _, sent, out⟩ := made
    rw [out]
    exact Memory.rowCount_update sent

/-! ## Many records -/

theorem batch_of_along {last : Directory Memory} {rs : List ChangeRecord} {as : List Applied}
    (along : Along Framed d rs as last) : Batch d rs as last := by
  induction along with
  | nil => exact .nil
  | cons _ framed _ ih => exact .cons framed ih

theorem batch_outcomes (tidy : Tidy d) (known : d.tables = some tables) (rs : List ChangeRecord) :
    Batch d rs (outcomes tables d.coercion d.store rs).1
      { d with store := (outcomes tables d.coercion d.store rs).2 } := by
  have kept : Law.Kept Framed := fun _ _ tidy known r => framed_outcome tidy known r
  exact batch_of_along (along_outcomes kept tidy known rs)

theorem rowCount_outcomes (m : Memory) (rs : List ChangeRecord) :
    (outcomes tables c m rs).2.rowCount =
      m.rowCount + (outcomes tables c m rs).1.count .created := by
  induction rs generalizing m with
  | nil => rfl
  | cons r rs ih =>
    have both : (outcomes tables c m (r :: rs)).1 =
        [(outcome m tables c r).1] ++ (outcomes tables c (outcome m tables c r).2 rs).1 := rfl
    rw [both, List.count_append, outcomes_cons, ih, rowCount_outcome, Nat.add_assoc]

theorem length_of_batch {last : Directory Memory} {rs : List ChangeRecord} {as : List Applied}
    (batch : Batch d rs as last) : as.length = rs.length := by
  induction batch with
  | nil => rfl
  | cons _ _ ih => rw [List.length_cons, List.length_cons, ih]

/-- A batch whose tables are found does what its records do, one after the other, and reports
how many came out which way; the store then has one row more for each entry made.  A batch whose
tables are not found fails and does nothing. -/
theorem apply_framed (d : Directory Memory) (force : Bool) (rs : List ChangeRecord)
    (tidy : Tidy d) :
    let found := Directory.reflect force d
    let done := apply rs force d
    (∀ e, found.result = .error e → done.result = .error e ∧ done.state = d) ∧
      (found.result = .ok () → ∃ as report, done.result = .ok report ∧
        found.state.store = d.store ∧ Batch found.state rs as done.state ∧
        report = ⟨as.count .created, as.count .updated, as.count .unchanged, as.count .skipped⟩ ∧
        report.total = rs.length ∧
        done.state.store.rowCount = d.store.rowCount + report.created) := by
  intro discovery done
  rcases Directory.reflect_cases d force with ⟨e, failed⟩ | ⟨d', tables, found, store, known⟩
  · have answer := result_of_effect failed
    have ran := effect_apply_error failed rs
    refine ⟨?_, ?_⟩
    · intro e' same
      rw [answer, Except.error.injEq] at same
      subst same
      exact ⟨result_of_effect ran, state_of_effect ran⟩
    · intro fine
      rw [answer] at fine
      cases fine
  · have answer := result_of_effect found
    have ran := effect_apply found known rs
    have tidy' := Directory.tidy_reflect force d tidy
    rw [found] at tidy'
    have batch := batch_outcomes tidy' known rs
    refine ⟨?_, ?_⟩
    · intro e failed
      rw [answer] at failed
      cases failed
    · intro _
      have start : discovery.state = d' := state_of_effect found
      have state : done.state =
          { d' with store := (outcomes tables d'.coercion d'.store rs).2 } := state_of_effect ran
      refine ⟨(outcomes tables d'.coercion d'.store rs).1, _, result_of_effect ran, ?_, ?_, ?_, ?_,
        ?_⟩
      · rw [start, store]
      · rw [start, state]
        exact batch
      · rw [reportOf, foldl_count]
        simp only [Report.empty, Nat.zero_add]
      · rw [total_reportOf, length_of_batch batch]
      · rw [state, created_reportOf, ← store]
        exact rowCount_outcomes d'.store rs

/-- A new client, a name for the first one, an attribute without a column, and a deletion. -/
def unevenBatch : List ChangeRecord := [
  ⟨"inum=2,o=jans", [("objectClass", ["top", "jansClnt"]), ("displayName", ["two"])]⟩,
  ⟨"inum=1,o=jans", [("changetype", ["modify"]), ("replace", ["displayName"]),
    ("displayName", ["first"])]⟩,
  ⟨"inum=1,o=jans", [("changetype", ["modify"]), ("add", ["nickname"]), ("nickname", ["uno"])]⟩,
  ⟨"inum=1,o=jans", [("changetype", ["delete"])]⟩]

theorem apply_framed_uneven :
    let d := Directory.ofClients [Memory.client "inum=1,o=jans" "one" []]
    let done := apply unevenBatch false d
    Tidy d ∧ done.result = .ok ⟨1, 1, 0, 2⟩ ∧ done.state.store.rowCount = 2 ∧
      ∃ as, Batch (Directory.reflect false d).state unevenBatch as done.state := by
  intro d done
  have tidy : Tidy d := Directory.tidy_ofClients _
  have fine : (Directory.reflect false d).result = .ok () := by decide
  have ran : done.result = .ok ⟨1, 1, 0, 2⟩ := by decide +kernel
  have one : d.store.rowCount = 1 := by decide
  obtain ⟨as, report, answer, _, batch, _, _, rows⟩ := (apply_framed d false unevenBatch tidy).2 fine
  rw [ran, Except.ok.injEq] at answer
  subst answer
  rw [one] at rows
  exact ⟨tidy, ran, rows, as, batch⟩

end Ldif

end RelDirectory
