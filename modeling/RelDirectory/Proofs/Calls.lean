import RelDirectory.Proofs.Ldif.Run
import RelDirectory.Proofs.Lookups

/-!
# Runs of calls

The calls that write to the store of a directory, one after the other.  A batch of records can be
taken apart into its records (`run_singles`).  Every call leaves a directory `Tidy`, and so does a
run of calls (`tidy_run`): rows stand in the table that they name, and known tables stand under
their own names.
-/
set_option autoImplicit false
namespace RelDirectory.Directory

open Step

/-- The calls that write to the store. -/
inductive Call where
  | apply (records : List ChangeRecord) (force : Bool)
  | insertRow (t : Table) (row : Row)
  | setAttribute (dn column : String) (value : Value)
  | setConfiguration (component : String) (value : Value)
  | enableScript (inum : String)
  | addClientToScript (inum client : String)
  | updateAuthDocument (entries : List (String × Json))

namespace Call

/-- The directory after a call, whether it fails or not. -/
def after (d : Directory Memory) : Call → Directory Memory
  | .apply records force => (Ldif.apply records force d).state
  | .insertRow t row => (Directory.insertRow t row d).state
  | .setAttribute dn column value => (Directory.setAttribute dn column value d).state
  | .setConfiguration component value => (Directory.setConfiguration component value d).state
  | .enableScript inum => (Directory.enableScript inum d).state
  | .addClientToScript inum client => (Directory.addClientToScript inum client d).state
  | .updateAuthDocument entries => (Directory.updateAuthDocument entries d).state

/-- A call on one record for each record of a batch. -/
def singles : Call → List Call
  | .apply (r :: rs) force => (r :: rs).map fun r => .apply [r] force
  | call => [call]

end Call

/-- The directory after calls one after the other. -/
def run (d : Directory Memory) (calls : List Call) : Directory Memory := calls.foldl Call.after d

/-! ## Batches taken apart -/

theorem after_apply_cons (d : Directory Memory) (force : Bool) (r : ChangeRecord)
    (rs : List ChangeRecord) :
    Call.after (Call.after d (.apply [r] force)) (.apply rs force) =
      Call.after d (.apply (r :: rs) force) := by
  rcases reflect_cases d force with ⟨e, failed⟩ | ⟨d', tables, found, _, known⟩
  · have alone := state_of_effect (Ldif.effect_apply_error failed [r])
    have rest := state_of_effect (Ldif.effect_apply_error failed rs)
    have whole := state_of_effect (Ldif.effect_apply_error failed (r :: rs))
    simp only [Call.after, alone, rest, whole]
  · have alike := Ldif.outcomes_alike tables d'.coercion d'.store [r]
    have alone := state_of_effect (Ldif.effect_apply found known [r])
    have rest := state_of_effect (Ldif.effect_apply (Ldif.reflect_again found alike) known rs)
    have whole := state_of_effect (Ldif.effect_apply found known (r :: rs))
    rw [Ldif.coercion_alike alike] at rest
    rw [Call.after, Call.after, Call.after, alone, rest, whole]
    rfl

theorem run_append (d : Directory Memory) (calls others : List Call) :
    run d (calls ++ others) = run (run d calls) others := List.foldl_append

theorem run_singles_one (d : Directory Memory) (call : Call) :
    run d call.singles = call.after d := by
  cases call with
  | apply records force =>
    cases records with
    | nil => rfl
    | cons r rs =>
      -- on the records after the first, each of which goes on where the one before stopped
      induction rs generalizing d r with
      | nil => rfl
      | cons next rest ih =>
        have later := ih (Call.after d (.apply [r] force)) next
        rw [after_apply_cons] at later
        exact later
  | _ => rfl

theorem run_singles (d : Directory Memory) (calls : List Call) :
    run d (calls.flatMap Call.singles) = run d calls := by
  induction calls generalizing d with
  | nil => rfl
  | cons call rest ih =>
    rw [List.flatMap_cons, run_append, run_singles_one, ih]
    rfl

/-! ## What every run keeps -/

theorem run_induction {P : Directory Memory → Prop} {d : Directory Memory}
    (step : ∀ d call, P d → P (Call.after d call)) (start : P d) (calls : List Call) :
    P (run d calls) := by
  induction calls generalizing d with
  | nil => exact start
  | cons call rest ih => exact ih (step d call start)

theorem tidy_updateColumn (t : Table) (dn column : String) (value : Value) :
    Preserves Tidy (updateColumn t dn column value) := by
  intro d tidy
  simp only [updateColumn, effect_onStore, Store.update, Memory.effect_changing]
  cases sent : d.store.update t dn column value with
  | error e => exact tidy
  | ok outcome =>
    obtain ⟨n, m⟩ := outcome
    obtain ⟨_, _, rfl⟩ := Memory.update_ok sent
    exact ⟨Memory.placed_written tidy.placed _ _ _ _, tidy.byName⟩

theorem tidy_insertRow (t : Table) (row : Row) : Preserves Tidy (insertRow t row) := by
  intro d tidy
  rw [Ldif.effect_insertRow]
  cases inserted : d.store.insert t row with
  | error e => exact tidy
  | ok m =>
    obtain ⟨_, _, _, rfl⟩ := Memory.insert_ok inserted
    exact ⟨Memory.placed_addRow tidy.placed _, tidy.byName⟩

theorem tidy_setAttribute (dn column : String) (value : Value) :
    Preserves Tidy (setAttribute dn column value) :=
  preserves_setAttribute (tidy_reflect false) tidy_updateColumn dn column value

theorem tidy_apply (records : List ChangeRecord) (force : Bool) :
    Preserves Tidy (Ldif.apply records force) := by
  intro d tidy
  rcases reflect_cases d force with ⟨e, failed⟩ | ⟨d', tables, found, _, known⟩
  · rw [Ldif.effect_apply_error failed]
    exact tidy
  · have tidy' := tidy_of_reflect tidy found
    rw [Ldif.effect_apply found known]
    exact ⟨Ldif.placed_outcomes tidy'.placed records, tidy'.byName⟩

theorem tidy_after (d : Directory Memory) (call : Call) (tidy : Tidy d) :
    Tidy (call.after d) := by
  cases call with
  | apply records force => exact tidy_apply records force d tidy
  | insertRow t row => exact tidy_insertRow t row d tidy
  | setAttribute dn column value => exact tidy_setAttribute dn column value d tidy
  | setConfiguration component value =>
    exact tidy_setAttribute Configuration.globalDn component value d tidy
  | enableScript inum =>
    have sets := tidy_setAttribute (Configuration.scriptDn inum) Configuration.enabledColumn
    exact sets (.int 1) d tidy
  | addClientToScript inum client =>
    have sets := tidy_setAttribute (Configuration.scriptDn inum) Configuration.propertyColumn
    exact preserves_addClientToScript (tidy_reflect false) inum client sets d tidy
  | updateAuthDocument entries =>
    have sets := tidy_setAttribute Configuration.authDn Configuration.documentColumn
    exact preserves_updateAuthDocument (tidy_reflect false) entries sets d tidy

theorem tidy_run {d : Directory Memory} (tidy : Tidy d) (calls : List Call) :
    Tidy (run d calls) := run_induction tidy_after tidy calls

end RelDirectory.Directory
