import Mathlib.Data.List.Induction
import RelDirectory.Proofs.Calls
import RelDirectory.Proofs.DistinctDns

/-!
# Distinct names along a run

Along a run of calls the rows keep distinct names exactly as long as no call gives a row the name
of another one (`distinctDns_run_iff`), which only an update of the column `dn` can do.  So calls
that ask for no other `dn` of an entry keep the names distinct (`distinctDns_run`).
-/
set_option autoImplicit false
namespace RelDirectory.Directory

open Step

/-! ## Setting one column of an entry -/

/-- Setting a column of an entry gives a row the name of another one. -/
def SetTakes (d : Directory Memory) (dn column : String) (value : Value) : Prop :=
  ∃ row t, placeOf d dn = some (row, t) ∧ t.hasColumn column = true ∧
    d.store.Takes t.name (row.dn?.getD dn) column value

theorem update_ok_of_takes {m : Memory} {t : Table} {dn column : String} {value : Value}
    (has : t.hasColumn column = true) (takes : m.Takes t.name dn column value) :
    ∃ n m', m.update t dn column value = .ok (n, m') := by
  obtain ⟨_, ⟨row, member, _⟩, _⟩ := takes
  obtain ⟨s, found⟩ := Memory.isStored_of_mem member
  exact ⟨_, _, Memory.update_of_stored has found⟩

theorem distinctDns_setAttribute_iff {d : Directory Memory} (distinct : d.store.DistinctDns)
    (dn column : String) (value : Value) :
    (setAttribute dn column value d).state.store.DistinctDns ↔ ¬ SetTakes d dn column value := by
  rw [store_setAttribute]
  cases place : placeOf d dn with
  | none =>
    refine ⟨fun _ => ?_, fun _ => distinct⟩
    rintro ⟨row, t, place', _⟩
    rw [place] at place'
    cases place'
  | some found =>
    obtain ⟨row, t⟩ := found
    have takes : SetTakes d dn column value ↔
        t.hasColumn column = true ∧ d.store.Takes t.name (row.dn?.getD dn) column value := by
      constructor
      · rintro ⟨row', t', place', both⟩
        rw [place] at place'
        cases place'
        exact both
      · rintro both
        exact ⟨row, t, place, both⟩
    simp only
    rw [takes]
    cases sent : d.store.update t (row.dn?.getD dn) column value with
    | ok outcome =>
      have has := (Memory.update_ok sent).1
      simp only [has, true_and]
      exact Memory.distinctDns_update_iff distinct sent
    | error e =>
      refine ⟨fun _ => ?_, fun _ => distinct⟩
      rintro ⟨has, taken⟩
      obtain ⟨n, m', sent'⟩ := update_ok_of_takes has taken
      rw [sent] at sent'
      cases sent'

/-- Setting another column than `dn` keeps the names distinct. -/
theorem distinctDns_setAttribute {column : String} (other : column ≠ dnColumn)
    (dn : String) (value : Value) :
    Preserves (fun d : Directory Memory => d.store.DistinctDns) (setAttribute dn column value) := by
  intro d distinct
  apply (distinctDns_setAttribute_iff distinct dn column value).2
  rintro ⟨_, _, _, _, column, _⟩
  exact other column

theorem distinctDns_reflect (force : Bool) :
    Preserves (fun d : Directory Memory => d.store.DistinctDns) (reflect force) :=
  preserves_reflect (fun _ _ distinct => distinct) force

/-! ## One call -/

/-- A call on one record, or another call, gives a row the name of another one. -/
def Call.Takes (d : Directory Memory) : Call → Prop
  | .apply records force => ∃ r d' tables p, records = [r] ∧
      effect (reflect force) d = (.ok (), d') ∧ d'.tables = some tables ∧
      Ldif.planned d'.store tables d'.coercion r = .ok (some p) ∧
      d.store.Takes p.table.name (p.row.dn?.getD r.dn) p.column p.value
  | .setAttribute dn column value => SetTakes d dn column value
  | .setConfiguration component value => SetTakes d Configuration.globalDn component value
  | _ => False

theorem distinctDns_outcome_of_unplanned {m : Memory} (distinct : m.DistinctDns)
    {tables : Keyed Table} {c : Coercion} {r : ChangeRecord}
    (unplanned : ∀ p, Ldif.planned m tables c r ≠ .ok (some p)) :
    (Ldif.outcome m tables c r).2.DistinctDns := by
  apply Ldif.outcome_induction distinct
  · intro _ _ _ _ _ _ inserted
    exact Memory.distinctDns_insert distinct inserted
  · intro p _ _ plan _
    exact absurd plan (unplanned p)

/-- The value that a column already has is no other row's name. -/
theorem not_takes_of_held {m : Memory} {name dn column : String} {value : Value} {row : Row}
    (held : row.get? column = some value) : ¬ m.Takes name (row.dn?.getD dn) column value := by
  rintro ⟨rfl, _, new, text, different, _⟩
  apply different
  rw [Row.dn?, held, Option.bind_some, text]
  rfl

theorem distinctDns_outcome_iff {m : Memory} (distinct : m.DistinctDns) (tables : Keyed Table)
    (c : Coercion) (r : ChangeRecord) : (Ldif.outcome m tables c r).2.DistinctDns ↔
      ¬ ∃ p, Ldif.planned m tables c r = .ok (some p) ∧
        m.Takes p.table.name (p.row.dn?.getD r.dn) p.column p.value := by
  -- without a plan a record can only insert, which looks for the name itself
  by_cases planned : ∃ p, Ldif.planned m tables c r = .ok (some p)
  · obtain ⟨p, plan⟩ := planned
    have has := (Ldif.planned_aim plan).2.2.1
    have only : (∃ p, Ldif.planned m tables c r = .ok (some p) ∧
        m.Takes p.table.name (p.row.dn?.getD r.dn) p.column p.value) ↔
        m.Takes p.table.name (p.row.dn?.getD r.dn) p.column p.value := by
      constructor
      · rintro ⟨p', plan', takes⟩
        rw [plan, Except.ok.injEq, Option.some.injEq] at plan'
        rw [plan']
        exact takes
      · exact fun takes => ⟨p, plan, takes⟩
    rw [only, Ldif.outcome_of_planned plan, Ldif.carryOut]
    by_cases held : p.row.get? p.column = some p.value
    · simp only [if_pos held]
      exact ⟨fun _ => not_takes_of_held held, fun _ => distinct⟩
    · simp only [if_neg held]
      cases sent : m.update p.table (p.row.dn?.getD r.dn) p.column p.value with
      | ok outcome => exact Memory.distinctDns_update_iff distinct sent
      | error e =>
        refine ⟨fun _ takes => ?_, fun _ => distinct⟩
        obtain ⟨_, _, sent'⟩ := update_ok_of_takes has takes
        rw [sent] at sent'
        cases sent'
  · have unplanned : ∀ p, Ldif.planned m tables c r ≠ .ok (some p) := fun p plan =>
      planned ⟨p, plan⟩
    refine ⟨fun _ => ?_, fun _ => distinctDns_outcome_of_unplanned distinct unplanned⟩
    rintro ⟨p, plan, _⟩
    exact unplanned p plan

theorem distinctDns_apply_one_iff {d : Directory Memory} (distinct : d.store.DistinctDns)
    (r : ChangeRecord) (force : Bool) :
    (Call.after d (.apply [r] force)).store.DistinctDns ↔ ¬ Call.Takes d (.apply [r] force) := by
  rcases reflect_cases d force with ⟨e, failed⟩ | ⟨d', tables, found, store, known⟩
  · rw [Call.after, state_of_effect (Ldif.effect_apply_error failed [r])]
    refine ⟨fun _ => ?_, fun _ => distinct⟩
    rintro ⟨_, _, _, _, _, found, _⟩
    rw [failed] at found
    cases found
  · have one := distinctDns_outcome_iff (m := d'.store) (store ▸ distinct) tables d'.coercion r
    rw [Call.after, state_of_effect (Ldif.effect_apply found known [r])]
    refine one.trans (not_congr ?_)
    constructor
    · rintro ⟨p, plan, takes⟩
      exact ⟨r, d', tables, p, rfl, found, known, plan, store ▸ takes⟩
    · rintro ⟨r', d'', tables', p, same, found', known', plan, takes⟩
      cases same
      rw [found] at found'
      cases found'
      rw [known] at known'
      cases known'
      exact ⟨p, plan, store ▸ takes⟩

theorem store_apply_nil (d : Directory Memory) (force : Bool) :
    (Call.after d (.apply [] force)).store = d.store := by
  rcases reflect_cases d force with ⟨e, failed⟩ | ⟨d', tables, found, store, known⟩
  · rw [Call.after, state_of_effect (Ldif.effect_apply_error failed [])]
  · rw [Call.after, state_of_effect (Ldif.effect_apply found known [])]
    exact store

theorem distinctDns_insertRow {d : Directory Memory} (distinct : d.store.DistinctDns) (t : Table)
    (row : Row) : (insertRow t row d).state.store.DistinctDns := by
  have ran := Ldif.effect_insertRow (d := d) t row
  cases inserted : d.store.insert t row with
  | ok m =>
    rw [inserted] at ran
    rw [state_of_effect ran]
    exact Memory.distinctDns_insert distinct inserted
  | error e =>
    rw [inserted] at ran
    rw [state_of_effect ran]
    exact distinct

theorem distinctDns_after_iff {d : Directory Memory} (distinct : d.store.DistinctDns) {call : Call}
    (single : call.singles = [call]) :
    (call.after d).store.DistinctDns ↔ ¬ call.Takes d := by
  cases call with
  | apply records force =>
    match records, single with
    | [], _ =>
      rw [store_apply_nil]
      refine ⟨fun _ => ?_, fun _ => distinct⟩
      rintro ⟨_, _, _, _, none, _⟩
      cases none
    | [r], _ => exact distinctDns_apply_one_iff distinct r force
  | insertRow t row => exact ⟨fun _ => id, fun _ => distinctDns_insertRow distinct t row⟩
  | setAttribute dn column value => exact distinctDns_setAttribute_iff distinct dn column value
  | setConfiguration component value =>
    exact distinctDns_setAttribute_iff distinct Configuration.globalDn component value
  | enableScript inum =>
    have column : Configuration.enabledColumn ≠ dnColumn := by decide
    have kept := distinctDns_setAttribute column (Configuration.scriptDn inum) (.int 1) d
      distinct
    exact ⟨fun _ => id, fun _ => kept⟩
  | addClientToScript inum client =>
    have column : Configuration.propertyColumn ≠ dnColumn := by decide
    have sets := distinctDns_setAttribute column (Configuration.scriptDn inum)
    have kept := preserves_addClientToScript (distinctDns_reflect false) inum client sets d distinct
    exact ⟨fun _ => id, fun _ => kept⟩
  | updateAuthDocument entries =>
    have column : Configuration.documentColumn ≠ dnColumn := by decide
    have sets := distinctDns_setAttribute column Configuration.authDn
    have kept := preserves_updateAuthDocument (distinctDns_reflect false) entries sets d distinct
    exact ⟨fun _ => id, fun _ => kept⟩

/-! ## A run -/

theorem mem_singles {call one : Call} (member : one ∈ call.singles) :
    one = call ∧ call.singles = [call] ∨
      ∃ records force r, call = .apply records force ∧ r ∈ records ∧ one = .apply [r] force := by
  cases call with
  | apply records force =>
    cases records with
    | nil => exact Or.inl ⟨List.mem_singleton.1 member, rfl⟩
    | cons r rs =>
      obtain ⟨r', held, rfl⟩ := List.mem_map.1 member
      exact Or.inr ⟨r :: rs, force, r', rfl, held, rfl⟩
  | _ => exact Or.inl ⟨List.mem_singleton.1 member, rfl⟩

theorem run_snoc (d : Directory Memory) (done : List Call) (call : Call) :
    run d (done ++ [call]) = call.after (run d done) := by
  rw [run_append]
  rfl

theorem distinctDns_steps_iff {d : Directory Memory} (distinct : d.store.DistinctDns)
    {steps : List Call} (single : ∀ call ∈ steps, call.singles = [call]) :
    (∀ done, done <+: steps → (run d done).store.DistinctDns) ↔
      ∀ done call, done ++ [call] <+: steps → ¬ call.Takes (run d done) := by
  have alone : ∀ {done call}, done ++ [call] <+: steps → call.singles = [call] := fun front =>
    single _ (front.subset (by simp))
  constructor
  · intro always done call front
    have before := always done ((List.prefix_append done [call]).trans front)
    have behind := always (done ++ [call]) front
    rw [run_snoc] at behind
    exact (distinctDns_after_iff before (alone front)).1 behind
  · -- from the end: the last call runs on a store whose names are still distinct
    intro free done
    induction done using List.reverseRecOn with
    | nil => exact fun _ => distinct
    | append_singleton done call ih =>
      intro front
      have before := ih ((List.prefix_append done [call]).trans front)
      rw [run_snoc]
      exact (distinctDns_after_iff before (alone front)).2 (free done call front)

theorem singles_of_mem_flatMap {calls : List Call} {one : Call}
    (member : one ∈ calls.flatMap Call.singles) : one.singles = [one] := by
  obtain ⟨whole, _, part⟩ := List.mem_flatMap.1 member
  rcases mem_singles part with ⟨rfl, single⟩ | ⟨_, _, _, _, _, rfl⟩
  · exact single
  · rfl

/-- Along a run, batches being taken apart, the names stay distinct exactly as long as no call
takes a name. -/
theorem distinctDns_run_iff (d : Directory Memory) (distinct : d.store.DistinctDns)
    (calls : List Call) : run d (calls.flatMap Call.singles) = run d calls ∧
      ((∀ done, done <+: calls.flatMap Call.singles → (run d done).store.DistinctDns) ↔
        ∀ done call, done ++ [call] <+: calls.flatMap Call.singles →
          ¬ call.Takes (run d done)) :=
  ⟨run_singles d calls, distinctDns_steps_iff distinct fun _ => singles_of_mem_flatMap⟩

def twoClients : List Row :=
  [Memory.client "inum=1,o=jans" "one" [], Memory.client "inum=2,o=jans" "two" []]

theorem distinctDns_twoClients : (ofClients twoClients).store.DistinctDns := by decide

/-- A record that gives the first client the name of the second one. -/
def takeName : ChangeRecord :=
  ⟨"inum=1,o=jans", [("changetype", ["modify"]), ("replace", ["dn"]), ("dn", ["inum=2,o=jans"])]⟩

theorem distinctDns_run_iff_twoClients : (ofClients twoClients).store.DistinctDns ∧
    ((∀ done, done <+: [Call.apply [takeName] false] →
        (run (ofClients twoClients) done).store.DistinctDns) ↔
      ∀ done call, done ++ [call] <+: [Call.apply [takeName] false] →
        ¬ call.Takes (run (ofClients twoClients) done)) :=
  ⟨distinctDns_twoClients, (distinctDns_run_iff (ofClients twoClients) distinctDns_twoClients
    [Call.apply [takeName] false]).2⟩

/-- Calls alone do not keep the names distinct: an update may take one. -/
theorem not_distinctDns_run : ¬ ∀ (d : Directory Memory) (calls : List Call),
    d.store.DistinctDns → (run d calls).store.DistinctDns := by
  intro always
  have kept := always (ofClients twoClients) [.apply [takeName] false] distinctDns_twoClients
  have lost : ¬ (run (ofClients twoClients) [.apply [takeName] false]).store.DistinctDns := by
    decide +kernel
  exact lost kept

/-- A call that asks for no other `dn` of an entry that is there. -/
def Call.SparesDn : Call → Prop
  | .apply records _ => ∀ r ∈ records, Ldif.target? r ≠ some dnColumn
  | .setAttribute _ column _ => column ≠ dnColumn
  | .setConfiguration component _ => component ≠ dnColumn
  | _ => True

theorem not_takes_of_sparesDn {d : Directory Memory} {call : Call} (spares : call.SparesDn) :
    ¬ call.Takes d := by
  cases call with
  | apply records force =>
    rintro ⟨r, _, _, p, rfl, _, _, plan, column, _⟩
    exact spares r List.mem_cons_self (column ▸ (Ldif.planned_aim plan).2.2.2)
  | setAttribute dn column value =>
    rintro ⟨_, _, _, _, same, _⟩
    exact spares same
  | setConfiguration component value =>
    rintro ⟨_, _, _, _, same, _⟩
    exact spares same
  | _ => exact fun never => never

theorem sparesDn_of_mem_singles {call one : Call} (spares : call.SparesDn)
    (member : one ∈ call.singles) : one.SparesDn := by
  rcases mem_singles member with ⟨rfl, _⟩ | ⟨records, force, r, rfl, held, rfl⟩
  · exact spares
  · intro s only
    rw [List.mem_singleton.1 only]
    exact spares r held

/-- Calls that ask for no other `dn` of an entry keep the names of the rows distinct. -/
theorem distinctDns_run (d : Directory Memory) (distinct : d.store.DistinctDns)
    {calls : List Call} (spare : ∀ call ∈ calls, call.SparesDn) :
    (run d calls).store.DistinctDns := by
  have single : ∀ one ∈ calls.flatMap Call.singles, one.singles = [one] := fun _ =>
    singles_of_mem_flatMap
  have steps := distinctDns_steps_iff distinct single
  rw [← run_singles]
  refine steps.2 ?_ _ (List.prefix_refl _)
  intro done call front
  have member : call ∈ calls.flatMap Call.singles := front.subset (by simp)
  obtain ⟨whole, held, part⟩ := List.mem_flatMap.1 member
  exact not_takes_of_sparesDn (sparesDn_of_mem_singles (spare whole held) part)

end RelDirectory.Directory
