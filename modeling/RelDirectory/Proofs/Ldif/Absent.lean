import RelDirectory.Proofs.Ldif.Run
import RelDirectory.Proofs.Like

/-!
# Records on entries that are not there

A record that changes an entry goes to the row that is found for its name, which may be one whose
`dn` only ends like it.  If no row has just this `dn`, it is the first such row or nothing: nothing
else is written, and if there is no such row the record is skipped (`apply_absent`).
-/
set_option autoImplicit false
namespace RelDirectory.Ldif

open Step
open Memory (naming)

variable {m : Memory} {tables : Keyed Table} {c : Coercion} {r : ChangeRecord}

/-- The `dn` of a row ends like a name. -/
def EndsLike (dn : String) (row : Row) : Prop :=
  Memory.passes (Directory.endingIn dn) (row.get? dnColumn) = true

/-! ## The row that is found -/

theorem endsLike_of_exactly {dn : String} {row : Row}
    (precise : Memory.passes (Directory.exactly dn) (row.get? dnColumn) = true) :
    EndsLike dn row := by
  have shown : ∀ value : Value, Memory.passes (Directory.exactly dn) (some value) = true →
      Memory.passes (Directory.endingIn dn) (some value) = true := by
    intro value
    cases value with
    | null => exact id
    | _ =>
      intro same
      have display := eq_of_beq same
      simp only [Value.display] at display
      simp only [Memory.passes, Directory.endingIn, Value.display, display]
      exact Like.matchesPattern_ending_self dn
  cases held : row.get? dnColumn with
  | none => simp [held, Memory.passes] at precise
  | some value =>
    rw [held] at precise
    rw [EndsLike, held]
    exact shown value precise

theorem endsLike_of_entryRow? {dn : String} {row : Row}
    (found : m.entryRow? tables dn = some row) :
    ∃ t ∈ naming tables, row ∈ m.rows t.name ∧ EndsLike dn row := by
  obtain ⟨t, named, first⟩ := Memory.entryRow?_mem found
  rcases first with first | first
  · have passed := Memory.passes_of_firstPassing first
    exact ⟨t, named, Memory.mem_of_firstPassing first, endsLike_of_exactly passed⟩
  · exact ⟨t, named, Memory.mem_of_firstPassing first, Memory.passes_of_firstPassing first⟩

theorem entryRow?_none_of_nobody {dn : String}
    (nobody : ∀ t ∈ naming tables, ∀ row ∈ m.rows t.name, ¬ EndsLike dn row) :
    m.entryRow? tables dn = none := by
  cases found : m.entryRow? tables dn with
  | none => rfl
  | some row =>
    obtain ⟨t, named, member, ends⟩ := endsLike_of_entryRow? found
    exact absurd ends (nobody t named row member)

/-- A row that is found under another name than its own is the first that ends like it. -/
theorem firstRow_of_entryRow? {dn own : String} {row : Row}
    (found : m.entryRow? tables dn = some row) (named : row.dn? = some own) (other : own ≠ dn) :
    m.firstRow (Directory.endingIn dn) (naming tables) = some row := by
  simp only [Memory.entryRow?] at found
  split at found
  · cases found
  · rcases Option.or_eq_some_iff.1 found with precise | ⟨_, ending⟩
    · obtain ⟨t, _, first⟩ := Memory.firstRow_mem precise
      have passed := Memory.passes_of_firstPassing first
      rw [Memory.get?_of_dn? named] at passed
      exact absurd (eq_of_beq passed) other
    · exact ending

/-! ## What is written -/

theorem outcome_of_unfound {attr : String} (modify : target? r = some attr)
    (unfound : m.entryRow? tables r.dn = none) : outcome m tables c r = (.skipped, m) := by
  simp only [outcome, applied_of_modify (modify_of_target? modify)]
  cases plan : planned m tables c r with
  | error e => rfl
  | ok found =>
    cases found with
    | none => rfl
    | some p =>
      have entry := (planned_aim plan).1
      rw [unfound] at entry
      cases entry

theorem rows_written_of_fresh {dn : String} (fresh : m.hasDn dn = false) (name column : String)
    (value : Value) (other : String) :
    (m.written name dn column value).rows other = m.rows other := by
  rw [Memory.rows_written]
  split
  · refine (List.map_congr_left ?_).trans (List.map_id' _)
    intro row member
    rw [Memory.setColumn, if_neg (Memory.dn?_ne_of_fresh fresh member)]
  · rfl

theorem rows_outcome_of_absent {attr : String} (modify : target? r = some attr)
    (absent : m.hasDn r.dn = false) :
    (∀ name, (outcome m tables c r).2.rows name = m.rows name) ∨
      ∃ row own t value, m.firstRow (Directory.endingIn r.dn) (naming tables) = some row ∧
        row.dn? = some own ∧ tables.get? row.table = some t ∧
        ∀ name, (outcome m tables c r).2.rows name =
          if name = t.name then (m.rows name).map (Memory.setColumn own attr value)
          else m.rows name := by
  rcases outcome_cases m tables c r with ⟨_, _, same⟩ | ⟨new, _⟩ | made
  · rw [same]
    exact Or.inl fun _ => rfl
  · exact absurd new (modify_of_target? modify)
  · obtain ⟨_, p, n, m', plan, _, sent, out⟩ := made
    obtain ⟨entry, known, _, aimed⟩ := planned_aim plan
    obtain ⟨_, _, rfl⟩ := Memory.update_ok sent
    have column : p.column = attr := Option.some.inj (aimed.symm.trans modify)
    rw [out]
    cases named : p.row.dn? with
    | none => exact Or.inl (rows_written_of_fresh absent _ _ _)
    | some own =>
      obtain ⟨t, _, member, _⟩ := endsLike_of_entryRow? entry
      have other : own ≠ r.dn := by
        rintro rfl
        exact Memory.dn?_ne_of_fresh absent member named
      refine Or.inr ⟨p.row, own, p.table, p.value, firstRow_of_entryRow? entry named other, named,
        known, ?_⟩
      intro name
      rw [Option.getD_some, Memory.rows_written, column]

/-- A record on an existing entry, but for a name that is no row's `dn`: if no row of a table that
names entries ends like it, the record is skipped; otherwise nothing is written but the record's
column, in the rows of one table that have the `dn` of the first such row. -/
theorem apply_absent (d : Directory Memory) (force : Bool) (r : ChangeRecord) (attr : String)
    (modify : target? r = some attr) (absent : d.store.hasDn r.dn = false) :
    let done := apply [r] force d
    (∀ e, (Directory.reflect force d).result = .error e →
      done.result = .error e ∧ done.state = d) ∧
    ((Directory.reflect force d).result = .ok () →
      ∃ report tables, done.result = .ok report ∧ done.state.tables = some tables ∧
        ((∀ t ∈ naming tables, ∀ row ∈ d.store.rows t.name, ¬ EndsLike r.dn row) →
          done.state.store = d.store ∧ report = ⟨0, 0, 0, 1⟩) ∧
        report.created = 0 ∧ report.total = 1 ∧
        ((∀ name, done.state.store.rows name = d.store.rows name) ∨
          ∃ row own t value, d.store.firstRow (Directory.endingIn r.dn) (naming tables) = some row ∧
            row.dn? = some own ∧ tables.get? row.table = some t ∧
            ∀ name, done.state.store.rows name =
              if name = t.name then (d.store.rows name).map (Memory.setColumn own attr value)
              else d.store.rows name)) := by
  intro done
  rcases Directory.reflect_cases d force with ⟨e, failed⟩ | ⟨d', tables, found, store, known⟩
  · have answer := result_of_effect failed
    have ran := effect_apply_error failed [r]
    refine ⟨?_, ?_⟩
    · intro e' same
      rw [answer, Except.error.injEq] at same
      subst same
      exact ⟨result_of_effect ran, state_of_effect ran⟩
    · intro fine
      rw [answer] at fine
      cases fine
  · have answer := result_of_effect found
    have ran := effect_apply found known [r]
    refine ⟨?_, ?_⟩
    · intro e failed
      rw [answer] at failed
      cases failed
    · intro _
      have state : done.state = { d' with store := (outcome d'.store tables d'.coercion r).2 } :=
        state_of_effect ran
      have one : (reportOf [(outcome d'.store tables d'.coercion r).1]).created = 0 := by
        rw [created_reportOf, List.count_eq_zero, List.mem_singleton]
        exact fun made => not_created_of_modify (modify_of_target? modify) made.symm
      refine ⟨_, tables, result_of_effect ran, ?_, ?_, one, ?_, ?_⟩
      · rw [state]
        exact known
      · intro nobody
        rw [← store] at nobody
        have unfound := entryRow?_none_of_nobody nobody
        rw [state, outcomes, outcome_of_unfound (c := d'.coercion) modify unfound]
        exact ⟨store, rfl⟩
      · exact total_reportOf _
      · rw [state, ← store]
        exact rows_outcome_of_absent modify (store ▸ absent)

/-- A client below a container that has no row of its own. -/
def nestedClient : List Row := [Memory.client "inum=1,ou=clients,o=jans" "one" []]

def renameContainer : ChangeRecord :=
  ⟨"ou=clients,o=jans", [("changetype", ["modify"]), ("replace", ["displayName"]),
    ("displayName", ["clients"])]⟩

theorem apply_absent_container :
    let done := apply [renameContainer] false (Directory.ofClients nestedClient)
    target? renameContainer = some "displayName" ∧
      (Directory.ofClients nestedClient).store.hasDn renameContainer.dn = false ∧
      ∃ report, done.result = .ok report ∧ report.created = 0 ∧ report.total = 1 := by
  have aimed : target? renameContainer = some "displayName" := by decide
  have absent : (Directory.ofClients nestedClient).store.hasDn renameContainer.dn = false := by
    decide
  have fine : (Directory.reflect false (Directory.ofClients nestedClient)).result = .ok () := by
    decide
  obtain ⟨report, _, ran, _, _, created, total, _⟩ :=
    (apply_absent (Directory.ofClients nestedClient) false renameContainer "displayName" aimed
      absent).2 fine
  exact ⟨aimed, absent, report, ran, created, total⟩

/-- A record may be applied although no row has its name: the client below gets the new name. -/
theorem not_skipped_of_absent :
    ¬ ∀ (d : Directory Memory) (r : ChangeRecord) (force : Bool), (target? r).isSome →
      d.store.hasDn r.dn = false →
        (apply [r] force d).state.store.rows = d.store.rows ∧
          (apply [r] force d).result = .ok ⟨0, 0, 0, 1⟩ := by
  intro always
  have aimed : (target? renameContainer).isSome := by decide
  have absent : (Directory.ofClients nestedClient).store.hasDn renameContainer.dn = false := by
    decide
  have skipped := (always (Directory.ofClients nestedClient) renameContainer false aimed absent).2
  have written : (apply [renameContainer] false (Directory.ofClients nestedClient)).result =
      .ok ⟨0, 1, 0, 0⟩ := by decide +kernel
  rw [written] at skipped
  exact absurd skipped (by decide)

end RelDirectory.Ldif
