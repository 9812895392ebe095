import RelDirectory.Proofs.Ldif.Run
import RelDirectory.Proofs.Lookups

/-!
# Laws for each record of a batch

A law that every record keeps, from whatever tidy directory it starts, holds `Along` each batch:
between the directories that its records lead through, one after the other.
-/
set_option autoImplicit false
namespace RelDirectory.Ldif

open Step
open Directory (Tidy)

/-- What may hold of a directory, a record, what became of it and the directory after it. -/
abbrev Law : Type := Directory Memory → ChangeRecord → Applied → Directory Memory → Prop

/-- The law holds for each of the records, applied one after the other. -/
inductive Along (law : Law) :
    Directory Memory → List ChangeRecord → List Applied → Directory Memory → Prop
  | nil {d : Directory Memory} : Along law d [] [] d
  | cons {d d' last : Directory Memory} {r : ChangeRecord} {rs : List ChangeRecord} {a : Applied}
      {as : List Applied} : effect (applyOrSkip r) d = (.ok a, d') → law d r a d' →
      Along law d' rs as last → Along law d (r :: rs) (a :: as) last

/-- What the law says of a directory that knows its tables. -/
def Law.Kept (law : Law) : Prop :=
  ∀ (d : Directory Memory) (tables : Keyed Table), Tidy d → d.tables = some tables → ∀ r,
    law d r (outcome d.store tables d.coercion r).1
      { d with store := (outcome d.store tables d.coercion r).2 }

variable {law : Law} {d : Directory Memory} {tables : Keyed Table}

theorem along_outcomes (kept : law.Kept) (tidy : Tidy d) (known : d.tables = some tables)
    (rs : List ChangeRecord) :
    Along law d rs (outcomes tables d.coercion d.store rs).1
      { d with store := (outcomes tables d.coercion d.store rs).2 } := by
  induction rs generalizing d with
  | nil => exact .nil
  | cons r rs ih =>
    have tidy' : Tidy { d with store := (outcome d.store tables d.coercion r).2 } :=
      ⟨placed_outcome tidy.placed, tidy.byName⟩
    have rest := ih tidy' known
    rw [coercion_alike (outcome_alike d.store tables d.coercion r)] at rest
    exact .cons (effect_applyOrSkip known r) (kept d tables tidy known r) rest

theorem along_apply (kept : law.Kept) (tidy : Tidy d) {force : Bool}
    (found : (Directory.reflect force d).result = .ok ()) (rs : List ChangeRecord) :
    ∃ as, (apply rs force d).result = .ok (reportOf as) ∧
      Along law (Directory.reflect force d).state rs as (apply rs force d).state := by
  rcases Directory.reflect_cases d force with ⟨e, failed⟩ | ⟨d', tables, run, _, known⟩
  · rw [result_of_effect failed] at found
    cases found
  · have tidy' := Directory.tidy_of_reflect tidy run
    have ran := effect_apply run known rs
    refine ⟨_, result_of_effect ran, ?_⟩
    rw [state_of_effect run, state_of_effect ran]
    exact along_outcomes kept tidy' known rs

theorem along_one {last : Directory Memory} {r : ChangeRecord} {as : List Applied}
    (along : Along law d [r] as last) : ∃ a, as = [a] ∧ law d r a last := by
  cases along with
  | cons _ held rest =>
    cases rest
    exact ⟨_, rfl, held⟩

theorem created_of_reportOf {a : Applied} (report : reportOf [a] = ⟨1, 0, 0, 0⟩) :
    a = .created := by
  revert report
  cases a <;> decide

end RelDirectory.Ldif
