import RelDirectory.Value
import RelDirectory.Text.Blank
import RelDirectory.Text.Case

/-!
# Tables and rows

One table for each object class, described by the columns that the database reports, and the
rows stored in it.  Three columns have a fixed meaning: `dn` names the entry, `doc_id` is the
value of its first name component and `objectClass` is the table's name.
-/
set_option autoImplicit false
namespace RelDirectory

def dnColumn : String := "dn"

def docIdColumn : String := "doc_id"

def classColumn : String := "objectClass"

/-- How directory values become the value of a column. -/
inductive ColumnKind where
  | boolean
  | integer
  | timestamp
  | structured
  | text
deriving DecidableEq, Repr

/-- The kind for a type name, blanks around it and letter case aside. -/
def ColumnKind.ofTypeName (name : String) : ColumnKind :=
  let token := String.ofList (Text.upper (Text.trim name.toList))
  if token = "SMALLINT" then .boolean
  else if token = "INT" ∨ token = "INTEGER" then .integer
  else if token ∈ ["DATETIME(3)", "DATETIME", "TIMESTAMP", "TIMESTAMP WITHOUT TIME ZONE"] then
    .timestamp
  else if token = "JSON" ∨ token = "JSONB" then .structured
  else .text

structure Column where
  name : String
  dataType : String
deriving DecidableEq

namespace Column

def kind (c : Column) : ColumnKind := .ofTypeName c.dataType

def isStructured (c : Column) : Bool := c.kind == .structured

/-- The types whose values a database compares as plain strings. -/
def textTypes : List String :=
  ["varchar", "char", "text", "tinytext", "mediumtext", "longtext", "character varying",
   "character", "bpchar", "name"]

def isTextual (c : Column) : Bool := textTypes.contains (Text.lower c.dataType)

end Column

structure Table where
  name : String
  columns : List Column
deriving DecidableEq

namespace Table

instance : Inhabited Table := ⟨⟨"", []⟩⟩

def column? (t : Table) (name : String) : Option Column := t.columns.find? (·.name == name)

def hasColumn (t : Table) (name : String) : Bool := (t.column? name).isSome

def structuredColumns (t : Table) : List Column := t.columns.filter (·.isStructured)

/-- One reported column: its table, its name and its type. -/
structure ColumnReport where
  table : String
  column : String
  dataType : String

/-- The tables of a report, each run of reports on one table making one table. -/
def ofReports : List ColumnReport → List Table
  | [] => []
  | r :: rest =>
    let column : Column := ⟨r.column, r.dataType⟩
    match rest, ofReports rest with
    | next :: _, t :: ts =>
      if next.table = r.table then { t with columns := column :: t.columns } :: ts
      else ⟨r.table, [column]⟩ :: t :: ts
    | _, ts => ⟨r.table, [column]⟩ :: ts

end Table

/-- A row read from a table or meant for it. -/
structure Row where
  table : String
  values : Keyed Value
deriving DecidableEq

namespace Row

instance : Inhabited Row := ⟨⟨"", .empty⟩⟩

def empty (table : String) : Row := ⟨table, .empty⟩

def set (r : Row) (column : String) (value : Value) : Row :=
  { r with values := r.values.insert column value }

def get? (r : Row) (column : String) : Option Value := r.values.get? column

def contains (r : Row) (column : String) : Bool := r.values.contains column

def dn? (r : Row) : Option String := (r.get? dnColumn).bind Value.text?

def docId? (r : Row) : Option String := (r.get? docIdColumn).bind Value.text?

def class? (r : Row) : Option String := (r.get? classColumn).bind Value.text?

def toJson (r : Row) : Json := .ofKeyed (r.values.map Value.toJson)

@[simp] theorem get?_set (r : Row) (column other : String) (value : Value) :
    (r.set column value).get? other = if other = column then some value else r.get? other := by
  simp [set, get?]

@[simp] theorem table_set (r : Row) (column : String) (value : Value) :
    (r.set column value).table = r.table := rfl

end Row

end RelDirectory
