import RelDirectory.Store
import RelDirectory.Store.Like

/-!
# The store in memory

Tables with their rows in order of insertion.  A table that is not there and a column that the
table has not are failures, as in a database, and a row is refused if any row of any table has
its `dn`.  Statements of a backend's own are not understood.
-/
set_option autoImplicit false
namespace RelDirectory

/-- A table's description, if it is registered, and its rows. -/
structure MemoryTable where
  description : Option Table
  rows : List Row
deriving DecidableEq

structure Memory where
  backend : Backend
  tables : Keyed MemoryTable
  reachable : Bool

namespace Memory

def new (b : Backend) : Memory := ⟨b, .empty, true⟩

def table (m : Memory) (name : String) : MemoryTable := (m.tables.get? name).getD ⟨none, []⟩

def rows (m : Memory) (name : String) : List Row := (m.table name).rows

def setTable (m : Memory) (name : String) (t : MemoryTable) : Memory :=
  { m with tables := m.tables.insert name t }

/-- Registers a table, its rows staying. -/
def addTable (m : Memory) (t : Table) : Memory :=
  m.setTable t.name { m.table t.name with description := some t }

/-- Adds a row without any check. -/
def addRow (m : Memory) (r : Row) : Memory :=
  let t := m.table r.table
  m.setTable r.table { t with rows := t.rows ++ [r] }

def setReachable (m : Memory) (reachable : Bool) : Memory := { m with reachable := reachable }

def allRows (m : Memory) : List Row := m.tables.values.flatMap (·.rows)

def rowCount (m : Memory) : Nat := m.allRows.length

def checkReachable (m : Memory) (context : String) : Except Failure Unit :=
  if m.reachable then .ok () else .error (.connection context "server has gone away")

def checkColumn (t : Table) (column : String) : Except Failure Unit :=
  if t.hasColumn column then .ok () else .error (.noColumn t.name column)

def checkColumns (t : Table) : List String → Except Failure Unit
  | [] => .ok ()
  | column :: columns => do
    checkColumn t column
    checkColumns t columns

/-- Whether a value passes a test; null passes none. -/
def passes (test : Test) : Option Value → Bool
  | none => false
  | some .null => false
  | some value =>
    match test with
    | .equals expected => value.display == expected.display
    | .like pattern => Like.matchesPattern pattern value.display

def satisfies (r : Row) (p : Predicate) : Bool := passes p.test (r.get? p.column)

def satisfiesAll (predicates : List Predicate) (r : Row) : Bool := predicates.all (satisfies r)

def upTo (limit : Option Nat) (rows : List Row) : List Row :=
  match limit with
  | some n => rows.take n
  | none => rows

def stored (m : Memory) (t : Table) : Except Failure MemoryTable :=
  match m.tables.get? t.name with
  | some stored => .ok stored
  | none => .error (.noTable t.name)

def reflect (m : Memory) : Except Failure (List Table) := do
  m.checkReachable "reflecting tables"
  pure (m.tables.values.filterMap (·.description))

def select (m : Memory) (t : Table) (predicates : List Predicate) (limit : Option Nat) :
    Except Failure (List Row) := do
  checkColumns t (predicates.map (·.column))
  let stored ← m.stored t
  pure (upTo limit (stored.rows.filter (satisfiesAll predicates)))

/-- Whether some row of some table has this `dn`. -/
def hasDn (m : Memory) (dn : String) : Bool := m.allRows.any fun r => r.dn? == some dn

def checkUnique (m : Memory) (t : Table) (r : Row) : Except Failure Unit :=
  match r.dn? with
  | none => .ok ()
  | some dn =>
    if m.hasDn dn then
      .error (.query ("inserting into " ++ t.name) ("Duplicate entry '" ++ dn ++ "' for key 'dn'"))
    else .ok ()

def insert (m : Memory) (t : Table) (r : Row) : Except Failure Memory := do
  checkColumns t r.values.keys
  m.checkUnique t r
  let stored ← m.stored t
  pure (m.setTable t.name { stored with rows := stored.rows ++ [{ r with table := t.name }] })

def setColumn (dn column : String) (value : Value) (r : Row) : Row :=
  if r.dn? = some dn then r.set column value else r

def update (m : Memory) (t : Table) (dn column : String) (value : Value) :
    Except Failure (Nat × Memory) := do
  checkColumn t column
  let stored ← m.stored t
  let affected := stored.rows.countP fun r => r.dn? == some dn
  pure (affected,
    m.setTable t.name { stored with rows := stored.rows.map (setColumn dn column value) })

def execute (statement : String) : Except Failure (List Row) :=
  .error (.query "executing raw statement"
    ("raw statements are not supported in memory: " ++ statement))

/-- A step that only looks. -/
def looking {α : Type} (f : Memory → Except Failure α) : Step Memory α := fun m => ⟨f m, m, []⟩

/-- A step that changes the store if it succeeds. -/
def changing {α : Type} (f : Memory → Except Failure (α × Memory)) : Step Memory α := fun m =>
  match f m with
  | .error e => ⟨.error e, m, []⟩
  | .ok (value, next) => ⟨.ok value, next, []⟩

instance : Store Memory where
  backend m := m.backend
  ping := looking (checkReachable · "ping")
  reflect := looking reflect
  select t predicates limit := looking (select · t predicates limit)
  insert t r := changing fun m => (m.insert t r).map ((), ·)
  update t dn column value := changing (update · t dn column value)
  execute statement _ := looking fun _ => execute statement

end Memory

end RelDirectory
