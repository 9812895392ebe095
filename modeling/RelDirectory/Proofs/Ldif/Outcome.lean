import RelDirectory.Ldif.Apply
import RelDirectory.Proofs.Locator

/-!
# What becomes of a record

Once the tables are known, what a change record does to the store in memory is a function of the
store, the tables and the catalog.  `planned` is the write that a record on an existing entry
asks for, `creation` the new row of a record for a new entry, and `outcome` what becomes of any
record.  `effect_applyOrSkip` and `effect_applyRecords` say that the directory computes just
this.
-/
set_option autoImplicit false
namespace RelDirectory.Ldif

open Step

/-- How a record changes a column: a new value, or more items for its container. -/
inductive Change where
  | set (value : Value)
  | join (values : List String)

/-- The value that the column has after the change. -/
def Change.value (held : Option Value) : Change → Value
  | .set value => value
  | .join values => .container (addItems ((held.bind Value.items?).getD []) values)

/-- A change of one column, and the row and the table at which it is aimed. -/
structure Plan where
  row : Row
  table : Table
  column : String
  change : Change

def Plan.value (p : Plan) : Value := p.change.value (p.row.get? p.column)

def located (m : Memory) (tables : Keyed Table) (dn : String) :
    Except Failure (Option (Row × Table)) :=
  match m.entryRow? tables dn with
  | none => .ok none
  | some row =>
    match tables.get? row.table with
    | some t => .ok (some (row, t))
    | none => .error (.noTable row.table)

/-- The change that adding values makes to a column. -/
def addition (c : Coercion) (column : Column) (name : String) (values : List String) :
    Except Failure Change :=
  if column.isStructured then .ok (.join values)
  else ((c.toColumn name values).mapError .coercion).map .set

def plannedAdd (m : Memory) (tables : Keyed Table) (c : Coercion) (r : ChangeRecord)
    (name : String) : Except Failure (Option Plan) := do
  let values ← changedValues r name
  match ← located m tables r.dn with
  | none => pure none
  | some (row, t) =>
    match t.column? name with
    | none => .error (.noColumn t.name name)
    | some column =>
      let change ← addition c column name values
      pure (some ⟨row, t, name, change⟩)

def plannedReplace (m : Memory) (tables : Keyed Table) (c : Coercion) (r : ChangeRecord)
    (name : String) : Except Failure (Option Plan) := do
  let values ← changedValues r name
  let value ← (c.toColumn name values).mapError .coercion
  match ← located m tables r.dn with
  | none => pure none
  | some (row, t) =>
    if t.hasColumn name then pure (some ⟨row, t, name, .set value⟩)
    else .error (.noColumn t.name name)

/-- What a record asks of an existing entry; nothing if there is no such entry. -/
def planned (m : Memory) (tables : Keyed Table) (c : Coercion) (r : ChangeRecord) :
    Except Failure (Option Plan) :=
  match r.operation with
  | .add name => plannedAdd m tables c r name
  | .replace name => plannedReplace m tables c r name
  | _ => .ok none

/-- Carries out a plan for the entry `dn`, unless the column already holds the value. -/
def carryOut (m : Memory) (dn : String) (p : Plan) : Except Failure (Applied × Memory) :=
  if p.row.get? p.column = some p.value then .ok (.unchanged, m)
  else (m.update p.table (p.row.dn?.getD dn) p.column p.value).map fun o => (.updated, o.2)

/-- A plan, or the lack of one, carried out. -/
def pursued (m : Memory) (dn : String) : Except Failure (Option Plan) →
    Except Failure (Applied × Memory)
  | .error e => .error e
  | .ok none => .ok (.skipped, m)
  | .ok (some p) => carryOut m dn p

/-- Whether a table holds a row with just this `dn`. -/
def holds (m : Memory) (tables : Keyed Table) (dn name : String) : Except Failure Bool :=
  match tables.get? name with
  | none => .ok false
  | some t => (m.select t [⟨dnColumn, Directory.exactly dn⟩] (some 1)).map fun rows => !rows.isEmpty

/-- The row with the attributes that the table has columns for. -/
def filled (c : Coercion) (t : Table) (row : Row) :
    List (String × List String) → Except Failure Row
  | [] => .ok row
  | (name, values) :: rest =>
    if t.hasColumn name then do
      let value ← (c.toColumn name values).mapError .coercion
      filled c t (row.set name value) rest
    else filled c t row rest

def drafted (c : Coercion) (t : Table) (cls : String) (r : ChangeRecord) :
    Except Failure Row := do
  let leaf ← (Dn.leaf r.dn).mapError (.badName r.dn)
  let row ← filled c t (namedRow t r.dn leaf cls) r.dataAttributes
  pure (fillContainers row t.structuredColumns)

def createdIn (m : Memory) (tables : Keyed Table) (c : Coercion) (t : Table) (cls : String)
    (r : ChangeRecord) : Except Failure (Applied × Memory) := do
  if ← holds m tables r.dn t.name then pure (.unchanged, m)
  else do
    let row ← drafted c t cls r
    let next ← m.insert t row
    pure (.created, next)

def creation (m : Memory) (tables : Keyed Table) (c : Coercion) (r : ChangeRecord) :
    Except Failure (Applied × Memory) :=
  match targetClass? r with
  | none => .ok (.skipped, m)
  | some cls =>
    match tables.get? cls with
    | none => .ok (.skipped, m)
    | some t => createdIn m tables c t cls r

def applied (m : Memory) (tables : Keyed Table) (c : Coercion) (r : ChangeRecord) :
    Except Failure (Applied × Memory) :=
  match r.operation with
  | .create => creation m tables c r
  | _ => pursued m r.dn (planned m tables c r)

/-- What becomes of a record, and of the store; a record that cannot be applied is skipped. -/
def outcome (m : Memory) (tables : Keyed Table) (c : Coercion) (r : ChangeRecord) :
    Applied × Memory :=
  match applied m tables c r with
  | .ok o => o
  | .error _ => (.skipped, m)

def outcomes (tables : Keyed Table) (c : Coercion) (m : Memory) :
    List ChangeRecord → List Applied × Memory
  | [] => ([], m)
  | r :: rs =>
    let first := outcome m tables c r
    let rest := outcomes tables c first.2 rs
    (first.1 :: rest.1, rest.2)

/-! ## The directory computes it -/

section Effects

variable {d : Directory Memory} {tables : Keyed Table}

theorem effect_locate (known : d.tables = some tables) (dn : String) :
    effect (locate dn) d = (located d.store tables dn, d) := by
  simp only [locate, located, effect_bind, Directory.effect_find? known]
  cases d.store.entryRow? tables dn with
  | none => rfl
  | some row =>
    simp only [effect_bind, Directory.effect_tableOf known]
    cases tables.get? row.table <;> rfl

theorem effect_coerce (name : String) (values : List String) :
    effect (Directory.coerce name values) d =
      ((d.coercion.toColumn name values).mapError .coercion, d) := by
  simp only [Directory.coerce, effect_bind, effect_current, effect_ofExcept]

theorem effect_writeColumn (t : Table) (row : Row) (dn column : String) (value : Value) :
    effect (writeColumn t row dn column value) d =
      if row.get? column = some value then (.ok .unchanged, d)
      else
        match d.store.update t (row.dn?.getD dn) column value with
        | .ok (_, m) => (.ok .updated, { d with store := m })
        | .error e => (.error e, d) := by
  have sent : effect (Directory.updateColumn t (row.dn?.getD dn) column value) d =
      match d.store.update t (row.dn?.getD dn) column value with
      | .ok (n, m) => (.ok n, { d with store := m })
      | .error e => (.error e, d) := by
    simp only [Directory.updateColumn, Directory.effect_onStore, Store.update,
      Memory.effect_changing]
    cases d.store.update t (row.dn?.getD dn) column value <;> rfl
  simp only [writeColumn]
  split
  · simp
  · simp only [effect_bind, sent]
    cases d.store.update t (row.dn?.getD dn) column value <;> rfl

/-- What carrying out a plan gives, put back into the directory. -/
def putBack (d : Directory Memory) :
    Except Failure (Applied × Memory) → Except Failure Applied × Directory Memory
  | .ok (a, m) => (.ok a, { d with store := m })
  | .error e => (.error e, d)

theorem effect_carryOut (dn : String) (p : Plan) :
    effect (writeColumn p.table p.row dn p.column p.value) d =
      putBack d (carryOut d.store dn p) := by
  rw [effect_writeColumn, carryOut]
  split
  · rfl
  · cases d.store.update p.table (p.row.dn?.getD dn) p.column p.value <;> rfl

theorem effect_addAttribute (known : d.tables = some tables) (r : ChangeRecord) (name : String) :
    effect (addAttribute r name) d =
      putBack d (pursued d.store r.dn (plannedAdd d.store tables d.coercion r name)) := by
  simp only [addAttribute, plannedAdd, effect_bind, effect_ofExcept]
  cases changedValues r name with
  | error e => rfl
  | ok values =>
    simp only [effect_locate known, ok_bind]
    cases located d.store tables r.dn with
    | error e => rfl
    | ok found =>
      cases found with
      | none => rfl
      | some found =>
        obtain ⟨row, t⟩ := found
        simp only [ok_bind]
        cases t.column? name with
        | none => rfl
        | some column =>
          simp only [addition]
          split
          · exact effect_carryOut r.dn ⟨row, t, name, .join values⟩
          · rw [effect_bind, effect_coerce]
            cases (d.coercion.toColumn name values).mapError Failure.coercion with
            | error e => rfl
            | ok value => exact effect_carryOut r.dn ⟨row, t, name, .set value⟩

theorem effect_replaceAttribute (known : d.tables = some tables) (r : ChangeRecord)
    (name : String) : effect (replaceAttribute r name) d =
      putBack d (pursued d.store r.dn (plannedReplace d.store tables d.coercion r name)) := by
  simp only [replaceAttribute, plannedReplace, effect_bind, effect_ofExcept]
  cases changedValues r name with
  | error e => rfl
  | ok values =>
    -- the value is converted before the entry is looked for, other than in an addition
    simp only [effect_coerce, ok_bind]
    cases (d.coercion.toColumn name values).mapError Failure.coercion with
    | error e => rfl
    | ok value =>
      simp only [effect_locate known, ok_bind]
      cases located d.store tables r.dn with
      | error e => rfl
      | ok found =>
        cases found with
        | none => rfl
        | some found =>
          obtain ⟨row, t⟩ := found
          simp only [ok_bind]
          split
          · exact effect_carryOut r.dn ⟨row, t, name, .set value⟩
          · rfl

theorem effect_existsIn (known : d.tables = some tables) (dn name : String) :
    effect (Directory.existsIn dn name) d = (holds d.store tables dn name, d) := by
  simp only [Directory.existsIn, holds, effect_bind, effect_report, Directory.effect_table? known]
  cases tables.get? name with
  | none => rfl
  | some t =>
    simp only [effect_bind, Directory.effect_select]
    cases d.store.select t [⟨dnColumn, Directory.exactly dn⟩] (some 1) <;> rfl

theorem effect_fillRow (t : Table) (row : Row) (attributes : List (String × List String)) :
    effect (fillRow t row attributes) d = (filled d.coercion t row attributes, d) := by
  induction attributes generalizing row with
  | nil => rfl
  | cons held rest ih =>
    obtain ⟨name, values⟩ := held
    simp only [fillRow, filled]
    split
    · simp only [effect_bind, effect_coerce]
      cases (d.coercion.toColumn name values).mapError Failure.coercion with
      | error e => rfl
      | ok value => exact ih (row.set name value)
    · simp only [effect_bind, effect_report, ih]

theorem effect_insertRow (t : Table) (row : Row) :
    effect (Directory.insertRow t row) d =
      match d.store.insert t row with
      | .ok m => (.ok (), { d with store := m })
      | .error e => (.error e, d) := by
  simp only [Directory.insertRow, Directory.effect_onStore, Store.insert, Memory.effect_changing]
  cases d.store.insert t row <;> rfl

theorem effect_createIn (known : d.tables = some tables) (t : Table) (cls : String)
    (r : ChangeRecord) : effect (createIn t cls r) d =
      putBack d (createdIn d.store tables d.coercion t cls r) := by
  simp only [createIn, createdIn, effect_bind, effect_existsIn known]
  cases holds d.store tables r.dn t.name with
  | error e => rfl
  | ok present =>
    cases present with
    | true => rfl
    | false =>
      simp only [ok_bind, drafted, effect_bind, effect_ofExcept, Bool.false_eq_true, if_false]
      cases (Dn.leaf r.dn).mapError (Failure.badName r.dn) with
      | error e => rfl
      | ok leaf =>
        simp only [ok_bind, effect_fillRow]
        cases filled d.coercion t (namedRow t r.dn leaf cls) r.dataAttributes with
        | error e => rfl
        | ok row =>
          simp only [ok_bind, effect_report, effect_insertRow, pure, Except.pure]
          cases d.store.insert t (fillContainers row t.structuredColumns) <;> rfl

theorem effect_createEntry (known : d.tables = some tables) (r : ChangeRecord) :
    effect (createEntry r) d = putBack d (creation d.store tables d.coercion r) := by
  simp only [createEntry, creation]
  cases targetClass? r with
  | none => rfl
  | some cls =>
    simp only [effect_bind, Directory.effect_table? known]
    cases tables.get? cls with
    | none => rfl
    | some t => exact effect_createIn known t cls r

theorem effect_applyRecord (known : d.tables = some tables) (r : ChangeRecord) :
    effect (applyRecord r) d = putBack d (applied d.store tables d.coercion r) := by
  simp only [applyRecord, applied, planned]
  cases r.operation with
  | create => exact effect_createEntry known r
  | add name => exact effect_addAttribute known r name
  | replace name => exact effect_replaceAttribute known r name
  | unsupported kind => rfl

/-- Applying a record does to the store what `outcome` says, and nothing else. -/
theorem effect_applyOrSkip (known : d.tables = some tables) (r : ChangeRecord) :
    effect (applyOrSkip r) d =
      (.ok (outcome d.store tables d.coercion r).1,
        { d with store := (outcome d.store tables d.coercion r).2 }) := by
  simp only [applyOrSkip, outcome, effect_bind, effect_attempt, effect_applyRecord known]
  cases applied d.store tables d.coercion r <;> rfl

end Effects

end RelDirectory.Ldif
