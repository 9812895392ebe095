import RelDirectory.Coercion
import RelDirectory.Store

/-!
# The directory

A store seen as a directory: the catalog that converts values, and the tables found in the
store, which are discovered when they are first needed and then kept.
-/
set_option autoImplicit false
namespace RelDirectory

structure Directory (σ : Type) where
  store : σ
  catalog : Catalog
  /-- The tables by name, once they have been discovered. -/
  tables : Option (Keyed Table)

namespace Directory

variable {σ : Type}

def new (store : σ) (catalog : Catalog) : Directory σ := ⟨store, catalog, none⟩

def onStore {α : Type} (x : Step σ α) : Step (Directory σ) α :=
  Step.onPart Directory.store (fun s d => { d with store := s }) x

variable [Store σ]

def backend (d : Directory σ) : Backend := Store.backend d.store

def coercion (d : Directory σ) : Coercion := ⟨d.catalog, d.backend⟩

def ping : Step (Directory σ) Unit := onStore Store.ping

def insertRow (table : Table) (row : Row) : Step (Directory σ) Unit :=
  onStore (Store.insert table row)

def updateColumn (table : Table) (dn column : String) (value : Value) :
    Step (Directory σ) Nat :=
  onStore (Store.update table dn column value)

/-- The column value of an attribute's values. -/
def coerce (name : String) (values : List String) : Step (Directory σ) Value := do
  let d ← Step.current
  Step.ofExcept ((d.coercion.toColumn name values).mapError .coercion)

/-! ## Discovery -/

def keyed (tables : List Table) : Keyed Table := .ofList (tables.map fun t => (t.name, t))

/-- Asks the store for its tables and keeps them. -/
def discover : Step (Directory σ) Unit := do
  Step.report (.info .reflector "Reflecting database tables")
  let found ← onStore Store.reflect
  let tables := keyed found
  Step.report (.info .reflector ("Reflected " ++ toString tables.size ++ " tables"))
  let d ← Step.current
  Step.replace { d with tables := some tables }

/-- Discovers the tables unless they are known, or in any case if `forced`. -/
def reflect (forced : Bool) : Step (Directory σ) Unit := do
  let d ← Step.current
  if d.tables.isSome && !forced then pure () else discover

def knownTables : Step (Directory σ) (Keyed Table) := do
  reflect false
  let d ← Step.current
  pure (d.tables.getD .empty)

def table? (name : String) : Step (Directory σ) (Option Table) := do
  let tables ← knownTables
  pure (tables.get? name)

/-- Whether the table exists: if it is not known the store is asked anew, and a table found there
joins the known ones.  A store that does not answer has no table. -/
def tableExists (name : String) : Step (Directory σ) Bool := do
  let d ← Step.current
  if (d.tables.map (·.contains name)).getD false then pure true
  else
    match ← Step.attempt (onStore Store.reflect) with
    | .error e =>
      Step.report (.debug .reflector ("Table lookup for " ++ name ++ " failed: " ++ e.message))
      pure false
    | .ok found =>
      match found.find? (·.name == name) with
      | none => pure false
      | some t =>
        let d ← Step.current
        Step.replace { d with tables := d.tables.map (·.insert t.name t) }
        pure true

/-! ## Entries by name -/

/-- The first row that passes the test on its `dn`; a table that cannot be asked is passed over. -/
def firstIn (dn : String) (test : Test) : List Table → Step (Directory σ) (Option Row)
  | [] => pure none
  | t :: ts => do
    match ← Step.attempt (onStore (Store.select t [⟨dnColumn, test⟩] (some 1))) with
    | .ok (row :: _) =>
      Step.report (.debug .locator ("Found " ++ dn ++ " in " ++ t.name))
      pure (some row)
    | .ok [] => firstIn dn test ts
    | .error e =>
      Step.report (.error .locator
        ("Looking up " ++ dn ++ " in " ++ t.name ++ " failed: " ++ e.message))
      firstIn dn test ts

def exactly (dn : String) : Test := .equals (.text dn)

def endingIn (dn : String) : Test := .like ("%" ++ dn)

/-- The row of an entry: of all tables in order of name the first row with just this `dn`, else
the first whose `dn` ends like this.  A blank name has none. -/
def find? (dn : String) : Step (Directory σ) (Option Row) :=
  if Text.allBlank dn.toList then do
    Step.report (.debug .locator "Empty dn matches no entry")
    pure none
  else do
    let tables ← knownTables
    let named := tables.values.filter (·.hasColumn dnColumn)
    match ← firstIn dn (exactly dn) named with
    | some row => pure (some row)
    | none => firstIn dn (endingIn dn) named

/-- Whether the table has a row with just this `dn`. -/
def existsIn (dn table : String) : Step (Directory σ) Bool := do
  Step.report (.debug .locator ("Checking dn " ++ dn ++ " exists in table " ++ table))
  match ← table? table with
  | none => pure false
  | some t => do
    let rows ← onStore (Store.select t [⟨dnColumn, exactly dn⟩] (some 1))
    pure (!rows.isEmpty)

/-- The row of an entry; a failure is reported and finds nothing. -/
def findOrReport (dn : String) : Step (Directory σ) (Option Row) := do
  Step.report (.info .locator ("Querying RDBM for dn " ++ dn))
  match ← Step.attempt (find? dn) with
  | .ok found => pure found
  | .error e =>
    Step.report (.error .locator ("Querying dn " ++ dn ++ " failed: " ++ e.message))
    pure none

/-- The row of an entry that has to be there. -/
def entry (dn : String) : Step (Directory σ) Row := do
  match ← find? dn with
  | some row => pure row
  | none => Step.fail (.noEntry dn)

/-- The table of a row. -/
def tableOf (row : Row) : Step (Directory σ) Table := do
  match ← table? row.table with
  | some t => pure t
  | none => Step.fail (.noTable row.table)

/-- Sets one column of an entry, which is updated under the `dn` that it has in the store. -/
def setAttribute (dn column : String) (value : Value) : Step (Directory σ) Unit := do
  let row ← entry dn
  let t ← tableOf row
  if t.hasColumn column then do
    let target := row.dn?.getD dn
    let affected ← updateColumn t target column value
    Step.report (.debug .directory
      ("Set " ++ column ++ " on " ++ target ++ " (" ++ toString affected ++ " row(s))"))
  else Step.fail (.noColumn t.name column)

end Directory

end RelDirectory
