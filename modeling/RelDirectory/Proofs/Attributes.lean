import RelDirectory.Proofs.Ldif.Frame

/-!
# Setting an attribute

An entry that is found has a table and a text as its `dn`, so nothing but a column that the table
lacks can stop a write to it (`setAttribute_cases`).  What is written to another column than `dn`
is read back under the name that was asked for, be it the name of the entry or only the end of it,
and nothing else is touched (`setAttribute_readBack`).
-/
set_option autoImplicit false
namespace RelDirectory.Directory

open Step
open Memory (Overwritten)

/-- Why a column of an entry cannot be set. -/
inductive Blocked (d : Directory Memory) (dn column : String) : Prop
  | undiscovered {e : Failure} (failed : (reflect false d).result = .error e)
  | unlocated (missing : (find? dn d).result = .ok none)
  | lacking {row : Row} {t : Table} (found : (find? dn d).result = .ok (some row))
      (known : (table? row.table d).result = .ok (some t)) (lacks : t.hasColumn column = false)

/-- The entry that is found, its own name, and its table, which has the column. -/
structure Settable (d : Directory Memory) (dn column : String) (d' : Directory Memory)
    (tables : Keyed Table) (row : Row) (own : String) (t : Table) : Prop where
  discovered : effect (reflect false) d = (.ok (), d')
  known : d'.tables = some tables
  store : d'.store = d.store
  entry : d.store.entryRow? tables dn = some row
  found : effect (find? dn) d = (.ok (some row), d')
  named : row.dn? = some own
  held : tables.get? row.table = some t
  home : t.name = row.table
  has : t.hasColumn column = true

variable {d d' : Directory Memory} {tables : Keyed Table} {dn column own : String} {row : Row}
  {t : Table}

/-! ## The entry -/

theorem effect_table?_discovered (discovered : effect (reflect false) d = (.ok (), d'))
    (known : d'.tables = some tables) (name : String) :
    effect (table? name) d = (.ok (tables.get? name), d') := by
  simp only [table?, effect_bind, effect_knownTables_discovered discovered known, effect_pure]

/-- Looking for an entry fails as discovering tables does, finds nothing, or finds it in the tables
that are known from then on. -/
theorem find?_cases (d : Directory Memory) (dn : String) :
    (∃ e, effect (reflect false) d = (.error e, d) ∧ effect (find? dn) d = (.error e, d)) ∨
      ∃ d', d'.store = d.store ∧ (effect (find? dn) d = (.ok none, d') ∨
        ∃ tables row, effect (reflect false) d = (.ok (), d') ∧ d'.tables = some tables ∧
          d.store.entryRow? tables dn = some row ∧
          effect (find? dn) d = (.ok (some row), d')) := by
  cases blank : Text.allBlank dn.toList with
  | true =>
    refine Or.inr ⟨d, rfl, Or.inl ?_⟩
    simp only [find?, blank, if_true, effect_bind, effect_report, effect_pure]
  | false =>
    rcases reflect_cases d false with ⟨e, failed⟩ | ⟨d', tables, discovered, store, known⟩
    · have asked : effect knownTables d = (.error e, d) := by
        simp only [knownTables, effect_bind, failed]
      exact Or.inl ⟨e, failed, effect_find?_error asked blank⟩
    · have asked := effect_knownTables_discovered discovered known
      have ran := effect_find?_asked asked known blank
      rw [store] at ran
      refine Or.inr ⟨d', store, ?_⟩
      cases entry : d.store.entryRow? tables dn with
      | none => exact Or.inl (by rw [ran, entry])
      | some row => exact Or.inr ⟨tables, row, discovered, known, entry, by rw [ran, entry]⟩

theorem effect_entry_found (found : effect (find? dn) d = (.ok (some row), d')) :
    effect (entry dn) d = (.ok row, d') := by
  simp only [entry, effect_bind, found, effect_pure]

theorem not_blocked (can : Settable d dn column d' tables row own t) : ¬ Blocked d dn column := by
  intro blocked
  cases blocked with
  | undiscovered failed =>
    rw [result_of_effect can.discovered] at failed
    cases failed
  | unlocated missing =>
    rw [result_of_effect can.found] at missing
    cases missing
  | lacking found known lacks =>
    rw [result_of_effect can.found, Except.ok.injEq, Option.some.injEq] at found
    subst found
    have ran := effect_table?_discovered can.discovered can.known row.table
    rw [result_of_effect ran, can.held, Except.ok.injEq, Option.some.injEq] at known
    subst known
    rw [can.has] at lacks
    cases lacks

/-! ## The write -/

theorem update_settable (placed : d.store.Placed) (can : Settable d dn column d' tables row own t)
    (value : Value) : ∃ n, d.store.update t own column value =
      .ok (n, d.store.written row.table own column value) := by
  obtain ⟨_, _, home, member⟩ := Memory.entryRow?_held placed can.entry
  obtain ⟨s, stored⟩ := Memory.isStored_of_mem member
  rw [← home, ← can.home] at stored
  have sent : d.store.update t own column value = _ := Memory.update_of_stored can.has stored
  rw [can.home] at sent
  exact ⟨_, sent⟩

theorem effect_setAttribute (placed : d.store.Placed)
    (can : Settable d dn column d' tables row own t) (value : Value) :
    effect (setAttribute dn column value) d =
      (.ok (), { d' with store := d.store.written row.table own column value }) := by
  have entered := effect_entry_found can.found
  have tabled : effect (tableOf row) d' = (.ok t, d') := by
    rw [effect_tableOf can.known, can.held]
  obtain ⟨n, sent⟩ := update_settable placed can value
  simp only [setAttribute, effect_bind, entered, tabled, can.has, if_true, can.named,
    Option.getD_some, updateColumn, effect_onStore, Store.update, Memory.effect_changing,
    can.store, sent, effect_report]

/-- Setting a column fails, which leaves the store as it is, or it writes to the rows of the
entry's table that have the entry's `dn`. -/
theorem setAttribute_cases (tidy : Tidy d) (texts : d.store.TextDns) (dn column : String)
    (value : Value) :
    (Blocked d dn column ∧ ∃ e d', effect (setAttribute dn column value) d = (.error e, d') ∧
        d'.store = d.store) ∨
      ∃ d' tables row own t, Settable d dn column d' tables row own t ∧
        effect (setAttribute dn column value) d =
          (.ok (), { d' with store := d.store.written row.table own column value }) := by
  rcases find?_cases d dn with ⟨e, failed, unfound⟩ | ⟨d', store, unfound | located⟩
  · refine Or.inl ⟨.undiscovered (result_of_effect failed), e, d, ?_, rfl⟩
    simp only [setAttribute, entry, effect_bind, unfound]
  · refine Or.inl ⟨.unlocated (result_of_effect unfound), .noEntry dn, d', ?_, store⟩
    simp only [setAttribute, entry, effect_bind, unfound, effect_fail]
  · obtain ⟨tables, row, discovered, known, found, run⟩ := located
    have byName := (tidy_of_reflect tidy discovered).byName tables known
    obtain ⟨t, own, held, home, named, _⟩ :=
      Memory.entryRow?_leads tidy.placed texts byName found
    cases has : t.hasColumn column with
    | false =>
      have answer := result_of_effect (effect_table?_discovered discovered known row.table)
      rw [held] at answer
      have entered := effect_entry_found run
      have tabled : effect (tableOf row) d' = (.ok t, d') := by
        rw [effect_tableOf known, held]
      refine Or.inl ⟨.lacking (result_of_effect run) answer has, .noColumn t.name column, d', ?_,
        store⟩
      simp only [setAttribute, effect_bind, entered, tabled, has, Bool.false_eq_true, if_false,
        effect_fail]
    | true =>
      have can : Settable d dn column d' tables row own t :=
        ⟨discovered, known, store, found, run, named, held, home, has⟩
      exact Or.inr ⟨d', tables, row, own, t, can, effect_setAttribute tidy.placed can value⟩

/-- What can be set can be set where the tables are known. -/
theorem settable_known (can : Settable d dn column d' tables row own t) :
    Settable d' dn column d' tables row own t := by
  have entry : d'.store.entryRow? tables dn = some row := by
    rw [can.store]
    exact can.entry
  have found := effect_find? can.known dn
  rw [entry] at found
  exact ⟨effect_reflect_known can.known, can.known, rfl, entry, found, can.named, can.held,
    can.home, can.has⟩

/-- What is set can be set again. -/
theorem settable_written (placed : d.store.Placed)
    (can : Settable d dn column d' tables row own t) (other : column ≠ dnColumn) (value : Value) :
    let next := { d' with store := d.store.written row.table own column value }
    Settable next dn column next tables (row.set column value) own t := by
  intro next
  have known : next.tables = some tables := can.known
  have reached : Memory.overwrite row.table own column value row = row.set column value := by
    rw [Memory.overwrite, if_pos rfl, Memory.setColumn, if_pos can.named]
  have entry : next.store.entryRow? tables dn = some (row.set column value) := by
    rw [Memory.entryRow?_written placed other, can.entry, Option.map_some, reached]
  have found := effect_find? known dn
  rw [entry] at found
  have named : (row.set column value).dn? = some own := by
    rw [Row.dn?, Row.get?_set, if_neg other.symm]
    exact can.named
  exact ⟨effect_reflect_known known, known, rfl, entry, found, named, can.held, can.home, can.has⟩

/-- The entry is found again where it was, with the column set. -/
theorem find?_written (tidy : Tidy d) (can : Settable d dn column d' tables row own t)
    (other : column ≠ dnColumn) (value : Value) :
    (find? dn { d' with store := d.store.written row.table own column value }).result =
      .ok (some (row.set column value)) :=
  result_of_effect (settable_written tidy.placed can other value).found

/-- Different values that are set leave different stores. -/
theorem eq_of_written (tidy : Tidy d) (can : Settable d dn column d' tables row own t)
    (other : column ≠ dnColumn) {first second : Value}
    (same : d.store.written row.table own column first =
      d.store.written row.table own column second) : first = second := by
  have found := find?_written tidy can other first
  rw [same, find?_written tidy can other second, Except.ok.injEq, Option.some.injEq] at found
  have held := congrArg (fun r : Row => r.get? column) found
  rw [Row.get?_set, Row.get?_set, if_pos rfl, if_pos rfl] at held
  exact (Option.some.inj held).symm

theorem overwritten_written (placed : d.store.Placed)
    (can : Settable d dn column d' tables row own t) (value : Value) :
    Overwritten d.store (d.store.written row.table own column value) row column value := by
  obtain ⟨n, sent⟩ := update_settable placed can value
  refine Memory.overwritten_update can.home ?_ sent
  intro other _ named
  rw [Memory.shownDn?_of_dn? named, Memory.shownDn?_of_dn? can.named]

/-- A column other than `dn` is set in the entry that is found for a name and in no row that is
named otherwise, and the same name finds the entry with the column set.  It cannot be set exactly
if the tables are not discovered, no entry is found or its table lacks the column, and then the
store stays. -/
theorem setAttribute_readBack (d : Directory Memory) (tidy : Tidy d) (texts : d.store.TextDns)
    (dn column : String) (other : column ≠ dnColumn) (value : Value) :
    let done := setAttribute dn column value d
    (done.result = .ok () → ∃ row, (find? dn d).result = .ok (some row) ∧
        (find? dn done.state).result = .ok (some (row.set column value)) ∧
        Overwritten d.store done.state.store row column value) ∧
      (∀ e, done.result = .error e → done.state.store = d.store) ∧
      ((∃ e, done.result = .error e) ↔ Blocked d dn column) := by
  intro done
  rcases setAttribute_cases tidy texts dn column value with
    ⟨blocked, e, d', run, store⟩ | ⟨d', tables, row, own, t, can, run⟩
  · have answer : done.result = .error e := result_of_effect run
    have state : done.state = d' := state_of_effect run
    refine ⟨?_, ?_, fun _ => blocked, fun _ => ⟨e, answer⟩⟩
    · intro fine
      rw [answer] at fine
      cases fine
    · intro _ _
      rw [state, store]
  · have answer : done.result = .ok () := result_of_effect run
    have state : done.state = _ := state_of_effect run
    refine ⟨?_, ?_, ?_, fun blocked => absurd blocked (not_blocked can)⟩
    · intro _
      rw [state]
      exact ⟨row, result_of_effect can.found, find?_written tidy can other value,
        overwritten_written tidy.placed can value⟩
    · intro e failed
      rw [answer] at failed
      cases failed
    · rintro ⟨e, failed⟩
      rw [answer] at failed
      cases failed

/-- Two clients of one name, and a third whose name ends alike. -/
def namesakes : List Row := [Memory.client "inum=1,o=jans" "one" [],
  Memory.client "inum=1,o=jans" "uno" [], Memory.client "inum=11,o=jans" "eleven" []]

theorem setAttribute_readBack_namesakes :
    let d := ofClients namesakes
    let done := setAttribute "1,o=jans" "displayName" (.text "first") d
    Tidy d ∧ d.store.TextDns ∧ "displayName" ≠ dnColumn ∧ done.result = .ok () ∧
      ∃ row, (find? "1,o=jans" d).result = .ok (some row) ∧
        (find? "1,o=jans" done.state).result =
          .ok (some (row.set "displayName" (.text "first"))) ∧
        Overwritten d.store done.state.store row "displayName" (.text "first") := by
  intro d done
  have tidy : Tidy d := tidy_ofClients namesakes
  have texts : d.store.TextDns := textDns_ofClients (by decide)
  have other : "displayName" ≠ dnColumn := by decide
  have fine : done.result = .ok () := by decide +kernel
  exact ⟨tidy, texts, other, fine,
    (setAttribute_readBack d tidy texts "1,o=jans" "displayName" other (.text "first")).1 fine⟩

end RelDirectory.Directory
