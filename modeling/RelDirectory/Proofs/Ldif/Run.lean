import RelDirectory.Proofs.Ldif.Creation

/-!
# Batches of records

What one record keeps, a batch keeps: the tables of the store (`outcomes_alike`), the place of
every row (`placed_outcomes`), and, if no record touches an attribute `dn`, every name
(`outcomes_grown`).  Applying a batch discovers the tables and then does what `outcomes` says
(`effect_apply`).
-/
set_option autoImplicit false
namespace RelDirectory.Ldif

open Step
open Memory (Alike Grown)

variable {m : Memory} {tables : Keyed Table} {c : Coercion} {r : ChangeRecord}

/-! ## One record -/

theorem outcome_alike (m : Memory) (tables : Keyed Table) (c : Coercion) (r : ChangeRecord) :
    Alike m (outcome m tables c r).2 := by
  apply outcome_induction (Memory.alike_refl m)
  · intro _ _ _ _ _ _ inserted
    exact Memory.alike_insert inserted
  · intro _ _ _ _ sent
    exact Memory.alike_update sent

theorem outcome_grown (spares : SparesDn r) : Grown m (outcome m tables c r).2 := by
  apply outcome_induction (Memory.grown_refl m)
  · intro _ _ _ _ _ _ inserted
    exact Memory.grown_insert inserted
  · intro p _ _ plan sent
    exact Memory.grown_update (plan_ne_dn spares plan) sent

theorem placed_outcome (placed : m.Placed) : (outcome m tables c r).2.Placed := by
  apply outcome_induction placed
  · intro _ _ _ _ _ _ inserted
    obtain ⟨_, _, _, rfl⟩ := Memory.insert_ok inserted
    exact Memory.placed_addRow placed _
  · intro _ _ _ _ sent
    obtain ⟨_, _, rfl⟩ := Memory.update_ok sent
    exact Memory.placed_written placed _ _ _ _

theorem textDns_outcome (texts : m.TextDns) (spares : SparesDn r) :
    (outcome m tables c r).2.TextDns := by
  apply outcome_induction texts
  · intro cls t row _ new draft inserted
    obtain ⟨_, _, _, rfl⟩ := Memory.insert_ok inserted
    have drafted : row.dn? = some r.dn := dn?_drafted (spares.1 new) draft
    have named : ({ row with table := t.name } : Row).dn? = some r.dn := drafted
    exact Memory.textDns_addRow texts named
  · intro p _ _ plan sent
    obtain ⟨_, _, rfl⟩ := Memory.update_ok sent
    exact Memory.textDns_written texts (plan_ne_dn spares plan) _ _ _

/-! ## Many records -/

theorem outcomes_cons (m : Memory) (rs : List ChangeRecord) : outcomes tables c m (r :: rs) =
    ((outcome m tables c r).1 :: (outcomes tables c (outcome m tables c r).2 rs).1,
      (outcomes tables c (outcome m tables c r).2 rs).2) := rfl

theorem outcomes_append (m : Memory) (rs others : List ChangeRecord) :
    outcomes tables c m (rs ++ others) =
      ((outcomes tables c m rs).1 ++ (outcomes tables c (outcomes tables c m rs).2 others).1,
        (outcomes tables c (outcomes tables c m rs).2 others).2) := by
  induction rs generalizing m with
  | nil => rfl
  | cons r rs ih => simp only [List.cons_append, outcomes_cons, ih]

theorem outcomes_induction {P : Memory → Prop} {rs : List ChangeRecord}
    (step : ∀ r ∈ rs, ∀ m, P m → P (outcome m tables c r).2) (start : P m) :
    P (outcomes tables c m rs).2 := by
  induction rs generalizing m with
  | nil => exact start
  | cons r rs ih =>
    obtain ⟨here, there⟩ := List.forall_mem_cons.1 step
    exact ih there (here m start)

theorem outcomes_alike (tables : Keyed Table) (c : Coercion) (m : Memory)
    (rs : List ChangeRecord) : Alike m (outcomes tables c m rs).2 := by
  apply outcomes_induction _ (Memory.alike_refl m)
  intro r _ m' soFar
  exact Memory.alike_trans soFar (outcome_alike m' tables c r)

theorem outcomes_grown {rs : List ChangeRecord} (spare : ∀ r ∈ rs, SparesDn r) :
    Grown m (outcomes tables c m rs).2 := by
  apply outcomes_induction _ (Memory.grown_refl m)
  intro r member m' soFar
  exact Memory.grown_trans soFar (outcome_grown (spare r member))

theorem placed_outcomes (placed : m.Placed) (rs : List ChangeRecord) :
    (outcomes tables c m rs).2.Placed :=
  outcomes_induction (fun _ _ _ held => placed_outcome held) placed

theorem textDns_outcomes (texts : m.TextDns) {rs : List ChangeRecord}
    (spare : ∀ r ∈ rs, SparesDn r) : (outcomes tables c m rs).2.TextDns :=
  outcomes_induction (fun r member _ held => textDns_outcome held (spare r member)) texts

/-! ## The directory computes it -/

variable {d : Directory Memory}

/-- Values are converted in the same way for a later state of the store. -/
theorem coercion_alike (alike : Alike d.store m) :
    Directory.coercion { d with store := m } = d.coercion :=
  congrArg (Coercion.mk d.catalog) alike.backend

theorem effect_applyRecords (known : d.tables = some tables) (report : Report)
    (rs : List ChangeRecord) : effect (applyRecords report rs) d =
      (.ok ((outcomes tables d.coercion d.store rs).1.foldl Report.count report),
        { d with store := (outcomes tables d.coercion d.store rs).2 }) := by
  induction rs generalizing d report with
  | nil => rfl
  | cons r rs ih =>
    -- the rest runs on the store that the first record leaves, which converts values alike
    have rest := ih (d := { d with store := (outcome d.store tables d.coercion r).2 }) known
      (report.count (outcome d.store tables d.coercion r).1)
    rw [coercion_alike (outcome_alike d.store tables d.coercion r)] at rest
    simp only [applyRecords, effect_bind, effect_applyOrSkip known, rest, outcomes_cons,
      List.foldl_cons]

/-- The report on a batch that found its tables. -/
def reportOf (applied : List Applied) : Report := applied.foldl Report.count .empty

theorem effect_apply {d' : Directory Memory} {force : Bool}
    (discovered : effect (Directory.reflect force) d = (.ok (), d'))
    (known : d'.tables = some tables) (rs : List ChangeRecord) :
    effect (apply rs force) d =
      (.ok (reportOf (outcomes tables d'.coercion d'.store rs).1),
        { d' with store := (outcomes tables d'.coercion d'.store rs).2 }) := by
  simp only [apply, effect_bind, discovered, effect_applyRecords known, effect_report, effect_pure,
    reportOf]

/-- A batch whose tables cannot be discovered fails and changes nothing. -/
theorem effect_apply_error {force : Bool} {e : Failure}
    (undiscovered : effect (Directory.reflect force) d = (.error e, d))
    (rs : List ChangeRecord) : effect (apply rs force) d = (.error e, d) := by
  simp only [apply, effect_bind, undiscovered]

/-- Discovery finds the same tables once more, whatever rows were written in the meantime. -/
theorem reflect_again {d' : Directory Memory} {force : Bool} {m : Memory}
    (discovered : effect (Directory.reflect force) d = (.ok (), d')) (alike : Alike d'.store m) :
    effect (Directory.reflect force) { d' with store := m } = (.ok (), { d' with store := m }) := by
  rw [Directory.effect_reflect] at discovered ⊢
  by_cases kept : (d.tables.isSome && !force) = true
  · rw [if_pos kept] at discovered
    cases discovered
    rw [if_pos kept]
  · rw [if_neg kept, Directory.effect_discover] at discovered
    cases answer : d.store.reflect with
    | error e =>
      rw [answer] at discovered
      cases discovered
    | ok found =>
      rw [answer] at discovered
      cases discovered
      split
      · rfl
      · simp only [Directory.effect_discover, Memory.reflect_alike alike, answer]

/-! ## Counting -/

theorem foldl_count (report : Report) (applied : List Applied) :
    applied.foldl Report.count report =
      ⟨report.created + applied.count .created, report.updated + applied.count .updated,
        report.unchanged + applied.count .unchanged, report.skipped + applied.count .skipped⟩ := by
  induction applied generalizing report with
  | nil => rfl
  | cons a rest ih =>
    rw [List.foldl_cons, ih]
    cases a <;> simp [Report.count, Nat.add_assoc, Nat.add_comm 1]

theorem created_reportOf (applied : List Applied) :
    (reportOf applied).created = applied.count .created := by
  rw [reportOf, foldl_count]
  exact Nat.zero_add _

theorem updated_reportOf (applied : List Applied) :
    (reportOf applied).updated = applied.count .updated := by
  rw [reportOf, foldl_count]
  exact Nat.zero_add _

theorem total_reportOf (applied : List Applied) : (reportOf applied).total = applied.length := by
  have general : ∀ report : Report,
      (applied.foldl Report.count report).total = report.total + applied.length := by
    induction applied with
    | nil => exact fun _ => rfl
    | cons a rest ih =>
      intro report
      rw [List.foldl_cons, ih, List.length_cons]
      cases a <;> simp only [Report.count, Report.total] <;> omega
  exact (general .empty).trans (Nat.zero_add _)

end RelDirectory.Ldif
