import RelDirectory.Proofs.Ldif.Outcome

/-!
# What a record can write

`outcome_cases` lists all that a change record can do to the store: nothing, the insertion of one
drafted row, or the update of one column.  Which of them it was can be read off what became of the
record (`insertion_of_created`, `plan_of_updated`, `store_of_neither`), and what insertions and
updates keep a record keeps (`outcome_induction`).  A plan is aimed at the row found for the
record's name and at that row's table (`planned_aim`).
-/
set_option autoImplicit false
namespace RelDirectory.Ldif

open Directory (KeyedByName)

variable {m : Memory} {tables : Keyed Table} {c : Coercion} {r : ChangeRecord}

/-! ## Plans -/

theorem located_some {dn : String} {row : Row} {t : Table}
    (found : located m tables dn = .ok (some (row, t))) :
    m.entryRow? tables dn = some row ∧ tables.get? row.table = some t := by
  simp only [located] at found
  cases entry : m.entryRow? tables dn with
  | none => simp [entry] at found
  | some row' =>
    simp only [entry] at found
    cases table : tables.get? row'.table with
    | none => simp [table] at found
    | some t' =>
      simp only [table, Except.ok.injEq, Option.some.injEq, Prod.mk.injEq] at found
      obtain ⟨rfl, rfl⟩ := found
      exact ⟨rfl, table⟩

theorem plannedAdd_ok {name : String} {p : Plan}
    (plan : plannedAdd m tables c r name = .ok (some p)) :
    located m tables r.dn = .ok (some (p.row, p.table)) ∧ p.column = name ∧
      ∃ values column, changedValues r name = .ok values ∧ p.table.column? name = some column ∧
        addition c column name values = .ok p.change := by
  simp only [plannedAdd] at plan
  obtain ⟨values, given, plan⟩ := bind_ok plan
  obtain ⟨found, place, plan⟩ := bind_ok plan
  cases found with
  | none => cases plan
  | some found =>
    obtain ⟨row, t⟩ := found
    simp only at plan
    cases column : t.column? name with
    | none => simp [column] at plan
    | some held =>
      simp only [column] at plan
      obtain ⟨change, added, plan⟩ := bind_ok plan
      cases plan
      exact ⟨place, rfl, values, held, given, column, added⟩

theorem plannedReplace_ok {name : String} {p : Plan}
    (plan : plannedReplace m tables c r name = .ok (some p)) :
    located m tables r.dn = .ok (some (p.row, p.table)) ∧ p.column = name ∧
      p.table.hasColumn name = true ∧ ∃ values value, changedValues r name = .ok values ∧
        c.toColumn name values = .ok value ∧ p.change = .set value := by
  simp only [plannedReplace] at plan
  obtain ⟨values, given, plan⟩ := bind_ok plan
  obtain ⟨value, converted, plan⟩ := bind_ok plan
  obtain ⟨found, place, plan⟩ := bind_ok plan
  cases found with
  | none => cases plan
  | some found =>
    obtain ⟨row, t⟩ := found
    simp only at plan
    split at plan
    · rename_i has
      cases plan
      exact ⟨place, rfl, has, values, value, given, mapError_ok converted, rfl⟩
    · cases plan

/-- The attribute that a record on an existing entry changes. -/
def target? (r : ChangeRecord) : Option String :=
  match r.operation with
  | .add name => some name
  | .replace name => some name
  | _ => none

theorem modify_of_target? {attr : String} (modify : target? r = some attr) :
    r.operation ≠ .create := by
  intro new
  simp [target?, new] at modify

/-- A plan is aimed at the row found for the record's name, at the table of that row and at the
record's attribute, which is a column of the table. -/
theorem planned_aim {p : Plan} (plan : planned m tables c r = .ok (some p)) :
    m.entryRow? tables r.dn = some p.row ∧ tables.get? p.row.table = some p.table ∧
      p.table.hasColumn p.column = true ∧ target? r = some p.column := by
  cases kind : r.operation with
  | add name =>
    simp only [planned, target?, kind] at plan ⊢
    obtain ⟨place, rfl, _, column, _, held, _⟩ := plannedAdd_ok plan
    have has : p.table.hasColumn p.column = true := by simp [Table.hasColumn, held]
    exact ⟨(located_some place).1, (located_some place).2, has, rfl⟩
  | replace name =>
    simp only [planned, target?, kind] at plan ⊢
    obtain ⟨place, rfl, has, _⟩ := plannedReplace_ok plan
    exact ⟨(located_some place).1, (located_some place).2, has, rfl⟩
  | create => simp [planned, kind] at plan
  | unsupported kind' => simp [planned, kind] at plan

/-! ## All that a record can do -/

theorem createdIn_cases {t : Table} {cls : String} {o : Applied × Memory}
    (run : createdIn m tables c t cls r = .ok o) :
    o = (.unchanged, m) ∨
      ∃ row m', holds m tables r.dn t.name = .ok false ∧ drafted c t cls r = .ok row ∧
        m.insert t row = .ok m' ∧ o = (.created, m') := by
  simp only [createdIn] at run
  obtain ⟨present, held, run⟩ := bind_ok run
  cases present with
  | true =>
    cases run
    exact Or.inl rfl
  | false =>
    obtain ⟨row, draft, run⟩ := bind_ok run
    obtain ⟨m', inserted, run⟩ := bind_ok run
    cases run
    exact Or.inr ⟨row, m', held, draft, inserted, rfl⟩

theorem creation_cases {o : Applied × Memory} (run : creation m tables c r = .ok o) :
    (o.1 ≠ .created ∧ o.1 ≠ .updated ∧ o.2 = m) ∨
      ∃ cls t row m', targetClass? r = some cls ∧ tables.get? cls = some t ∧
        holds m tables r.dn t.name = .ok false ∧ drafted c t cls r = .ok row ∧
        m.insert t row = .ok m' ∧ o = (.created, m') := by
  simp only [creation] at run
  cases cls : targetClass? r with
  | none =>
    simp only [cls] at run
    cases run
    exact Or.inl ⟨by simp, by simp, rfl⟩
  | some name =>
    simp only [cls] at run
    cases known : tables.get? name with
    | none =>
      simp only [known] at run
      cases run
      exact Or.inl ⟨by simp, by simp, rfl⟩
    | some t =>
      simp only [known] at run
      rcases createdIn_cases run with rfl | ⟨row, m', absent, draft, inserted, rfl⟩
      · exact Or.inl ⟨by simp, by simp, rfl⟩
      · exact Or.inr ⟨name, t, row, m', rfl, known, absent, draft, inserted, rfl⟩

theorem carryOut_cases {dn : String} {p : Plan} {o : Applied × Memory}
    (run : carryOut m dn p = .ok o) :
    o = (.unchanged, m) ∨
      (p.row.get? p.column ≠ some p.value ∧ ∃ n m',
        m.update p.table (p.row.dn?.getD dn) p.column p.value = .ok (n, m') ∧
          o = (.updated, m')) := by
  simp only [carryOut] at run
  split at run
  · cases run
    exact Or.inl rfl
  · rename_i stale
    cases sent : m.update p.table (p.row.dn?.getD dn) p.column p.value with
    | error e =>
      rw [sent] at run
      cases run
    | ok o' =>
      rw [sent] at run
      cases run
      exact Or.inr ⟨stale, o'.1, o'.2, rfl, rfl⟩

/-- A plan for a stored table with the column is carried out. -/
theorem carryOut_stored {p : Plan} {s : MemoryTable} (has : p.table.hasColumn p.column = true)
    (stored : m.tables.get? p.table.name = some s) (dn : String) :
    carryOut m dn p = .ok (if p.row.get? p.column = some p.value then (.unchanged, m)
      else (.updated, m.written p.table.name (p.row.dn?.getD dn) p.column p.value)) := by
  rw [carryOut, Memory.update_of_stored has stored]
  split <;> rfl

theorem applied_of_modify (modify : r.operation ≠ .create) :
    applied m tables c r = pursued m r.dn (planned m tables c r) := by
  cases kind : r.operation with
  | create => exact absurd kind modify
  | _ => simp only [applied, kind]

theorem modify_of_planned {p : Plan} (plan : planned m tables c r = .ok (some p)) :
    r.operation ≠ .create := by
  intro new
  simp [planned, new] at plan

theorem outcome_of_planned {p : Plan} (plan : planned m tables c r = .ok (some p)) :
    outcome m tables c r =
      match carryOut m r.dn p with
      | .ok o => o
      | .error _ => (.skipped, m) := by
  cases run : carryOut m r.dn p <;>
    simp only [outcome, applied_of_modify (modify_of_planned plan), plan, pursued, run]

/-- A record leaves the store as it is, inserts the row drafted for it, or carries out the plan
made for it. -/
theorem outcome_cases (m : Memory) (tables : Keyed Table) (c : Coercion) (r : ChangeRecord) :
    ((outcome m tables c r).1 ≠ .created ∧ (outcome m tables c r).1 ≠ .updated ∧
        (outcome m tables c r).2 = m) ∨
      (r.operation = .create ∧ ∃ cls t row m', targetClass? r = some cls ∧
        tables.get? cls = some t ∧ holds m tables r.dn t.name = .ok false ∧
        drafted c t cls r = .ok row ∧ m.insert t row = .ok m' ∧
        outcome m tables c r = (.created, m')) ∨
      (r.operation ≠ .create ∧ ∃ p n m', planned m tables c r = .ok (some p) ∧
        p.row.get? p.column ≠ some p.value ∧
        m.update p.table (p.row.dn?.getD r.dn) p.column p.value = .ok (n, m') ∧
        outcome m tables c r = (.updated, m')) := by
  cases run : applied m tables c r with
  | error e =>
    have out : outcome m tables c r = (.skipped, m) := by simp only [outcome, run]
    rw [out]
    exact Or.inl ⟨by simp, by simp, rfl⟩
  | ok o =>
    have out : outcome m tables c r = o := by simp only [outcome, run]
    rw [out]
    by_cases new : r.operation = .create
    · simp only [applied, new] at run
      rcases creation_cases run with still | made
      · exact Or.inl still
      · exact Or.inr (Or.inl ⟨new, made⟩)
    · rw [applied_of_modify new] at run
      cases aim : planned m tables c r with
      | error e =>
        rw [aim] at run
        cases run
      | ok found =>
        rw [aim] at run
        cases found with
        | none =>
          cases run
          exact Or.inl ⟨by simp, by simp, rfl⟩
        | some p =>
          rcases carryOut_cases run with rfl | ⟨stale, n, m', sent, rfl⟩
          · exact Or.inl ⟨by simp, by simp, rfl⟩
          · exact Or.inr (Or.inr ⟨new, p, n, m', rfl, stale, sent, rfl⟩)

theorem insertion_of_created (byName : KeyedByName tables)
    (made : (outcome m tables c r).1 = .created) :
    r.operation = .create ∧ ∃ t row, targetClass? r = some t.name ∧
      tables.get? t.name = some t ∧ drafted c t t.name r = .ok row ∧
        m.insert t row = .ok (outcome m tables c r).2 := by
  rcases outcome_cases m tables c r with ⟨still, _, _⟩ | created | ⟨_, _, _, _, _, _, _, out⟩
  · exact absurd made still
  · obtain ⟨new, cls, t, row, m', target, held, _, draft, inserted, out⟩ := created
    have own : t.name = cls := byName cls t held
    subst own
    rw [out]
    exact ⟨new, t, row, target, held, draft, inserted⟩
  · rw [out] at made
    cases made

theorem plan_of_updated (updated : (outcome m tables c r).1 = .updated) :
    ∃ p n, planned m tables c r = .ok (some p) ∧ p.row.get? p.column ≠ some p.value ∧
      m.update p.table (p.row.dn?.getD r.dn) p.column p.value =
        .ok (n, (outcome m tables c r).2) := by
  rcases outcome_cases m tables c r with ⟨_, still, _⟩ | created | changed
  · exact absurd updated still
  · obtain ⟨_, _, _, _, _, _, _, _, _, _, out⟩ := created
    rw [out] at updated
    cases updated
  · obtain ⟨_, p, n, m', plan, stale, sent, out⟩ := changed
    rw [out]
    exact ⟨p, n, plan, stale, sent⟩

theorem store_of_neither (notMade : (outcome m tables c r).1 ≠ .created)
    (notUpdated : (outcome m tables c r).1 ≠ .updated) : (outcome m tables c r).2 = m := by
  rcases outcome_cases m tables c r with ⟨_, _, same⟩ | created | changed
  · exact same
  · obtain ⟨_, _, _, _, _, _, _, _, _, _, out⟩ := created
    rw [out] at notMade
    exact absurd rfl notMade
  · obtain ⟨_, _, _, _, _, _, _, out⟩ := changed
    rw [out] at notUpdated
    exact absurd rfl notUpdated

/-- What holds of a store, and after every insertion and update that a record can ask for, holds
after the record. -/
theorem outcome_induction {P : Memory → Prop} (still : P m)
    (inserted : ∀ cls t row m', r.operation = .create → drafted c t cls r = .ok row →
      m.insert t row = .ok m' → P m')
    (updated : ∀ p n m', planned m tables c r = .ok (some p) →
      m.update p.table (p.row.dn?.getD r.dn) p.column p.value = .ok (n, m') → P m') :
    P (outcome m tables c r).2 := by
  rcases outcome_cases m tables c r with ⟨_, _, same⟩ | made | made
  · rw [same]
    exact still
  · obtain ⟨new, cls, t, row, m', _, _, _, draft, insertion, out⟩ := made
    rw [out]
    exact inserted cls t row m' new draft insertion
  · obtain ⟨_, p, n, m', plan, _, sent, out⟩ := made
    rw [out]
    exact updated p n m' plan sent

theorem not_created_of_modify (modify : r.operation ≠ .create) :
    (outcome m tables c r).1 ≠ .created := by
  intro made
  rcases outcome_cases m tables c r with ⟨still, _, _⟩ | ⟨new, _⟩ | updated
  · exact still made
  · exact modify new
  · obtain ⟨_, _, _, _, _, _, _, out⟩ := updated
    rw [out] at made
    cases made

/-- A record on no existing entry that makes no entry does nothing. -/
theorem outcome_still (aim : target? r = none) (notMade : (outcome m tables c r).1 ≠ .created) :
    (outcome m tables c r).2 = m := by
  refine store_of_neither notMade fun updated => ?_
  obtain ⟨p, _, plan, _⟩ := plan_of_updated updated
  have aimed := (planned_aim plan).2.2.2
  rw [aim] at aimed
  cases aimed

end RelDirectory.Ldif
