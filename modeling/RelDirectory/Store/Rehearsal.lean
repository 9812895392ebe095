import RelDirectory.Store.Memory

/-!
# Rehearsing on the store in memory

A store in memory that stands in for a database: it notes the statements that the database would
be sent, and it can be told to fail on certain tables and to answer raw statements with given
rows.
-/
set_option autoImplicit false
namespace RelDirectory

/-- The tables on which each kind of call fails, and the rows that raw statements give. -/
structure Faults where
  select : List String
  insert : List String
  update : List String
  raw : Option (List Row)

def Faults.none : Faults := ⟨[], [], [], .none⟩

/-- A statement with the values bound in it. -/
structure Sent where
  statement : String
  parameters : List Value

structure Rehearsal where
  memory : Memory
  /-- Whether statements are noted. -/
  noting : Bool
  faults : Faults
  sent : List Sent

namespace Rehearsal

/-- Notes a statement, if statements are noted; one that cannot be built fails. -/
def note (statement : Backend → Except Identifier.Fault String) (parameters : List Value) :
    Step Rehearsal Unit := fun r =>
  if r.noting then
    match statement r.memory.backend with
    | .error fault => ⟨.error (.badIdentifier fault), r, []⟩
    | .ok text => ⟨.ok (), { r with sent := r.sent ++ [⟨text, parameters⟩] }, []⟩
  else ⟨.ok (), r, []⟩

/-- Fails if the table is among those that `chosen` lists. -/
def inject (chosen : Faults → List String) (context table : String) : Step Rehearsal Unit :=
  fun r =>
    if (chosen r.faults).contains table then
      ⟨.error (.query (context ++ table) "injected failure"), r, []⟩
    else ⟨.ok (), r, []⟩

def onMemory {α : Type} (x : Step Memory α) : Step Rehearsal α :=
  Step.onPart Rehearsal.memory (fun m r => { r with memory := m }) x

def select (t : Table) (predicates : List Predicate) (limit : Option Nat) :
    Step Rehearsal (List Row) := do
  note (Statement.select · t predicates limit) (predicates.map Predicate.operand)
  inject Faults.select "selecting from " t.name
  onMemory (Store.select t predicates limit)

def insert (t : Table) (row : Row) : Step Rehearsal Unit := do
  note (Statement.insert · t row) row.values.values
  inject Faults.insert "inserting into " t.name
  onMemory (Store.insert t row)

def update (t : Table) (dn column : String) (value : Value) : Step Rehearsal Nat := do
  note (Statement.update · t column) [value, .text dn]
  inject Faults.update "updating " t.name
  onMemory (Store.update t dn column value)

def execute (statement : String) (fetch : Fetch) : Step Rehearsal (List Row) := do
  note (fun _ => .ok statement) []
  let r ← Step.current
  match r.faults.raw with
  | some rows => pure (fetch.ofRows rows)
  | none => onMemory (Store.execute statement fetch)

instance : Store Rehearsal where
  backend r := r.memory.backend
  ping := do
    note (fun _ => .ok "PING") []
    onMemory Store.ping
  reflect := do
    note (fun _ => .ok "REFLECT") []
    onMemory Store.reflect
  select := select
  insert := insert
  update := update
  execute := execute

end Rehearsal

end RelDirectory
