import RelDirectory.Proofs.Ldif.Change
import RelDirectory.Proofs.Ldif.Creation

/-!
# Records as edits

A record on an existing entry does to the rows what an `Edit` of one column in the rows of one
table with one `dn` does (`outcome_of_modify`).  Which edit that is does not change while other
columns than `dn` are written (`editOf_carryOut`), so a batch of such records is a list of edits.
-/
set_option autoImplicit false
namespace RelDirectory.Ldif

open Directory (KeyedByName)
open Memory (overwrite)

/-- A change of one column in the rows of a table that have one `dn`. -/
structure Edit where
  table : String
  dn : String
  column : String
  change : Change

namespace Edit

/-- The edit made: the first of its rows decides whether there is anything to write. -/
def carryOut (m : Memory) (e : Edit) : Memory :=
  match m.leader e.table e.dn with
  | none => m
  | some first =>
    if first.get? e.column = some (e.change.value (first.get? e.column)) then m
    else m.written e.table e.dn e.column (e.change.value (first.get? e.column))

def run (m : Memory) (edits : List Edit) : Memory := edits.foldl carryOut m

/-- The changes that edits make in a column of the rows with one `dn`. -/
def changesAt (name dn column : String) (edits : List Edit) : List Change :=
  (edits.filter fun e => e.table = name ∧ e.dn = dn ∧ e.column = column).map (·.change)

variable {m : Memory} {e : Edit}

theorem placed_carryOut (placed : m.Placed) (e : Edit) : (carryOut m e).Placed := by
  simp only [carryOut]
  split
  · exact placed
  · split
    · exact placed
    · exact Memory.placed_written placed _ _ _ _

end Edit

/-! ## The edit that a record makes -/

section Records

variable {m : Memory} {tables : Keyed Table} {c : Coercion} {r : ChangeRecord}

def Plan.edit? (p : Plan) : Option Edit :=
  p.row.dn?.map fun dn => ⟨p.table.name, dn, p.column, p.change⟩

/-- The edit that a record makes; none if it is skipped. -/
def editOf (m : Memory) (tables : Keyed Table) (c : Coercion) (r : ChangeRecord) : Option Edit :=
  match planned m tables c r with
  | .ok (some p) => p.edit?
  | _ => none

theorem column_ne_dn (spares : SparesDn r) {e : Edit} (edit : editOf m tables c r = some e) :
    e.column ≠ dnColumn := by
  simp only [editOf] at edit
  split at edit
  · rename_i p plan
    obtain ⟨dn, _, rfl⟩ := Option.map_eq_some_iff.1 edit
    exact plan_ne_dn spares plan
  · cases edit

/-- A plan is carried out as the edit that it stands for. -/
theorem carryOut_plan (placed : m.Placed) (texts : m.TextDns) (byName : KeyedByName tables)
    {p : Plan} (plan : planned m tables c r = .ok (some p)) :
    ∃ e, p.edit? = some e ∧ m.leader e.table e.dn = some p.row ∧
      carryOut m r.dn p = .ok (if p.row.get? p.column = some p.value then .unchanged else .updated,
        Edit.carryOut m e) := by
  obtain ⟨entry, known, has, _⟩ := planned_aim plan
  obtain ⟨t, dn, known', home, named, leads⟩ := Memory.entryRow?_leads placed texts byName entry
  have same : p.table = t := Option.some.inj (known.symm.trans known')
  have leads' : m.leader p.table.name dn = some p.row := by rw [same, home]; exact leads
  refine ⟨⟨p.table.name, dn, p.column, p.change⟩, by simp [Plan.edit?, named], leads', ?_⟩
  obtain ⟨s, found⟩ := Memory.isStored_of_mem (List.mem_of_find?_eq_some leads')
  have value : p.change.value (p.row.get? p.column) = p.value := rfl
  simp only [carryOut_stored has found, Edit.carryOut, leads', named, Option.getD_some, value]
  by_cases steady : p.row.get? p.column = some p.value
  · simp only [if_pos steady]
  · simp only [if_neg steady]

theorem outcome_of_modify (placed : m.Placed) (texts : m.TextDns) (byName : KeyedByName tables)
    (modify : r.operation ≠ .create) :
    (outcome m tables c r).2 = ((editOf m tables c r).map (Edit.carryOut m)).getD m := by
  simp only [outcome, applied_of_modify modify, editOf]
  cases plan : planned m tables c r with
  | error e => rfl
  | ok found =>
    cases found with
    | none => rfl
    | some p =>
      obtain ⟨e, edit, _, run⟩ := carryOut_plan placed texts byName plan
      simp only [pursued, run, edit]
      rfl

/-! ## Records meet the same edits after a write -/

theorem located_written (placed : m.Placed) {column : String} (other : column ≠ dnColumn)
    (name dn : String) (value : Value) (asked : String) :
    located (m.written name dn column value) tables asked =
      (located m tables asked).map
        (Option.map fun found => (overwrite name dn column value found.1, found.2)) := by
  simp only [located, Memory.entryRow?_written placed other]
  cases m.entryRow? tables asked with
  | none => rfl
  | some row =>
    simp only [Option.map_some, Memory.table_overwrite]
    cases tables.get? row.table <;> rfl

theorem planned_written (placed : m.Placed) {column : String} (other : column ≠ dnColumn)
    (name dn : String) (value : Value) :
    planned (m.written name dn column value) tables c r =
      (planned m tables c r).map
        (Option.map fun p => { p with row := overwrite name dn column value p.row }) := by
  -- what can fail does not look at the row's values, so it fails after the write as before
  cases kind : r.operation with
  | create => simp [planned, kind, Except.map]
  | unsupported word => simp [planned, kind, Except.map]
  | add attr =>
    simp only [planned, kind, plannedAdd, located_written placed other]
    cases changedValues r attr with
    | error e => rfl
    | ok values =>
      simp only [ok_bind]
      cases located m tables r.dn with
      | error e => rfl
      | ok found =>
        cases found with
        | none => rfl
        | some found =>
          simp only [Except.map, Option.map_some, ok_bind]
          cases found.2.column? attr with
          | none => rfl
          | some held =>
            simp only
            cases addition c held attr values <;> rfl
  | replace attr =>
    simp only [planned, kind, plannedReplace, located_written placed other]
    cases changedValues r attr with
    | error e => rfl
    | ok values =>
      simp only [ok_bind]
      cases (c.toColumn attr values).mapError Failure.coercion with
      | error e => rfl
      | ok value =>
        simp only [ok_bind]
        cases located m tables r.dn with
        | error e => rfl
        | ok found =>
          cases found with
          | none => rfl
          | some found =>
            simp only [Except.map, Option.map_some, ok_bind]
            split <;> rfl

theorem editOf_written (placed : m.Placed) {column : String} (other : column ≠ dnColumn)
    (name dn : String) (value : Value) :
    editOf (m.written name dn column value) tables c r = editOf m tables c r := by
  simp only [editOf, planned_written placed other]
  cases planned m tables c r with
  | error e => rfl
  | ok found =>
    cases found with
    | none => rfl
    | some p =>
      simp only [Except.map, Option.map_some, Plan.edit?, Row.dn?,
        Memory.get?_dn_overwrite other]

theorem editOf_carryOut (placed : m.Placed) {e : Edit} (other : e.column ≠ dnColumn) :
    editOf (Edit.carryOut m e) tables c r = editOf m tables c r := by
  simp only [Edit.carryOut]
  split
  · rfl
  · split
    · rfl
    · exact editOf_written placed other _ _ _

end Records

end RelDirectory.Ldif
