import RelDirectory.Directory
import RelDirectory.Ldif.Reader

/-!
# Applying change records

Records are applied one after the other.  One that cannot be applied is reported and skipped;
only tables that cannot be discovered stop a batch.
-/
set_option autoImplicit false
namespace RelDirectory

/-- What became of a record. -/
inductive Applied where
  | created
  | updated
  | unchanged
  | skipped
deriving DecidableEq

/-- How many records came out which way. -/
structure Report where
  created : Nat
  updated : Nat
  unchanged : Nat
  skipped : Nat
deriving DecidableEq

namespace Report

def empty : Report := ⟨0, 0, 0, 0⟩

def total (r : Report) : Nat := r.created + r.updated + r.unchanged + r.skipped

def count (r : Report) : Applied → Report
  | .created => { r with created := r.created + 1 }
  | .updated => { r with updated := r.updated + 1 }
  | .unchanged => { r with unchanged := r.unchanged + 1 }
  | .skipped => { r with skipped := r.skipped + 1 }

def add (r s : Report) : Report :=
  ⟨r.created + s.created, r.updated + s.updated, r.unchanged + s.unchanged,
    r.skipped + s.skipped⟩

def display (r : Report) : String :=
  toString r.created ++ " created, " ++ toString r.updated ++ " updated, " ++
    toString r.unchanged ++ " unchanged, " ++ toString r.skipped ++ " skipped"

end Report

namespace Ldif

variable {σ : Type} [Store σ]

/-- The values that a record gives for the attribute it changes. -/
def changedValues (r : ChangeRecord) (name : String) : Except Failure (List String) :=
  match r.values? name with
  | some (v :: vs) => .ok (v :: vs)
  | _ => .error (.coercion (.badValue name ""))

/-- The row of a record's entry and its table. -/
def locate (dn : String) : Step (Directory σ) (Option (Row × Table)) := do
  match ← Directory.find? dn with
  | none => pure none
  | some row =>
    let t ← Directory.tableOf row
    pure (some (row, t))

def missing (dn : String) : Step (Directory σ) Applied := do
  Step.report (.warn .ldifApply ("Can't find current value for " ++ dn ++ ", skipping"))
  pure .skipped

/-- Writes a column unless it already holds the value. -/
def writeColumn (t : Table) (row : Row) (dn column : String) (value : Value) :
    Step (Directory σ) Applied :=
  if row.get? column = some value then do
    Step.report (.debug .ldifApply (column ++ " on " ++ dn ++ " already up to date"))
    pure .unchanged
  else do
    let target := row.dn?.getD dn
    let _ ← Directory.updateColumn t target column value
    Step.report (.debug .ldifApply ("Updated " ++ column ++ " on " ++ target))
    pure .updated

/-- The items with each value added that is not among them. -/
def addItems (items : List Json) (values : List String) : List Json :=
  values.foldl (fun items v =>
    if items.contains (.string v) then items else items ++ [.string v]) items

/-- The items that a row's column holds. -/
def heldItems (row : Row) (column : String) : List Json :=
  ((row.get? column).bind Value.items?).getD []

/-- Adds values to a container; a column of another kind takes the first one. -/
def addAttribute (r : ChangeRecord) (name : String) : Step (Directory σ) Applied := do
  let values ← Step.ofExcept (changedValues r name)
  match ← locate r.dn with
  | none => missing r.dn
  | some (row, t) =>
    match t.column? name with
    | none => Step.fail (.noColumn t.name name)
    | some column =>
      let value ←
        if column.isStructured then pure (.container (addItems (heldItems row name) values))
        else Directory.coerce name values
      writeColumn t row r.dn name value

def replaceAttribute (r : ChangeRecord) (name : String) : Step (Directory σ) Applied := do
  let values ← Step.ofExcept (changedValues r name)
  let value ← Directory.coerce name values
  match ← locate r.dn with
  | none => missing r.dn
  | some (row, t) =>
    if t.hasColumn name then writeColumn t row r.dn name value
    else Step.fail (.noColumn t.name name)

/-- The class whose table holds the entry: the last one but `top`.  A bare container has none. -/
def targetClass? (r : ChangeRecord) : Option String :=
  match r.classes.filter fun c => !Text.sameLetters c "top" with
  | [] => none
  | [only] => if Text.sameLetters only "organizationalUnit" then none else some only
  | many => many.getLast?

/-- The row with the attributes that the table has columns for. -/
def fillRow (t : Table) (row : Row) :
    List (String × List String) → Step (Directory σ) Row
  | [] => pure row
  | (name, values) :: rest =>
    if t.hasColumn name then do
      let value ← Directory.coerce name values
      fillRow t (row.set name value) rest
    else do
      Step.report (.debug .ldifApply
        (t.name ++ " has no column " ++ name ++ ", dropping it"))
      fillRow t row rest

/-- The row with an empty container in each structured column that it lacks. -/
def fillContainers (row : Row) (columns : List Column) : Row :=
  columns.foldl (fun row c =>
    if row.contains c.name then row else row.set c.name .emptyContainer) row

/-- The columns that name a new row. -/
def namedRow (t : Table) (dn leaf cls : String) : Row :=
  (((Row.empty t.name).set dnColumn (.text dn)).set docIdColumn (.text leaf)).set classColumn
    (.text cls)

def createIn (t : Table) (cls : String) (r : ChangeRecord) : Step (Directory σ) Applied := do
  if ← Directory.existsIn r.dn t.name then
    let d ← Step.current
    Step.report (.info .ldifApply
      ("DN " ++ r.dn ++ " exists in " ++ d.backend.name ++ ", skipping"))
    pure .unchanged
  else
    let leaf ← Step.ofExcept ((Dn.leaf r.dn).mapError (.badName r.dn))
    let filled ← fillRow t (namedRow t r.dn leaf cls) r.dataAttributes
    let row := fillContainers filled t.structuredColumns
    Step.report (.info .ldifApply ("Adding " ++ r.dn))
    Directory.insertRow t row
    pure .created

def createEntry (r : ChangeRecord) : Step (Directory σ) Applied := do
  match targetClass? r with
  | none =>
    Step.report (.debug .ldifApply (r.dn ++ " is not stored as a row, skipping"))
    pure .skipped
  | some cls =>
    match ← Directory.table? cls with
    | none =>
      Step.report (.warn .ldifApply
        ("No table for objectClass " ++ cls ++ ", skipping " ++ r.dn))
      pure .skipped
    | some t => createIn t cls r

def applyRecord (r : ChangeRecord) : Step (Directory σ) Applied :=
  match r.operation with
  | .create => createEntry r
  | .add name => addAttribute r name
  | .replace name => replaceAttribute r name
  | .unsupported kind => do
    Step.report (.warn .ldifApply ("Unsupported change type " ++ kind ++ " for " ++ r.dn))
    pure .skipped

/-- Applies a record; one that fails is skipped. -/
def applyOrSkip (r : ChangeRecord) : Step (Directory σ) Applied := do
  match ← Step.attempt (applyRecord r) with
  | .ok applied => pure applied
  | .error e =>
    Step.report (.warn .ldifApply ("Skipping " ++ r.dn ++ ": " ++ e.message))
    pure .skipped

def applyRecords (report : Report) : List ChangeRecord → Step (Directory σ) Report
  | [] => pure report
  | r :: rs => do
    let applied ← applyOrSkip r
    applyRecords (report.count applied) rs

/-- Applies records in order, after discovering the tables anew if `force` says so. -/
def apply (records : List ChangeRecord) (force : Bool) : Step (Directory σ) Report := do
  Directory.reflect force
  let report ← applyRecords .empty records
  Step.report (.info .ldifApply
    ("Applied " ++ toString report.total ++ " record(s): " ++ report.display))
  pure report

/-- Applies the records of change files, each file being read when its turn comes.  The tables
are discovered anew at most for the first. -/
def importFiles (files : Reader) (report : Report) :
    List String → Bool → Step (Directory σ) Report
  | [], _ => pure report
  | path :: paths, force => do
    Step.report (.info .ldifApply ("Importing ldif file " ++ path))
    let (records, log) := load files path
    Step.reportAll log
    let records ← Step.ofExcept records
    let applied ← apply records force
    importFiles files (report.add applied) paths false

end Ldif

end RelDirectory
