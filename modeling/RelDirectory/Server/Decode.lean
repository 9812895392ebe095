import RelDirectory.Json.Parser
import RelDirectory.Server
import RelDirectory.Text.Calendar
import RelDirectory.Word64

/-!
# Values of replies

How a reply's value becomes a column value, by the type that the server gives the column.  A
value that the type's decoder does not take becomes null and is reported.
-/
set_option autoImplicit false
namespace RelDirectory.Server

/-- What the type of a column makes of its values. -/
inductive Decoding where
  | truth
  | whole
  | json
  | moment
  | date
  | text
  | bytes
  | nothing
deriving DecidableEq

def mysqlWhole : List String := ["TINYINT", "SMALLINT", "MEDIUMINT", "INT", "BIGINT"]

def mysqlText : List String :=
  ["CHAR", "VARCHAR", "TINYTEXT", "TEXT", "MEDIUMTEXT", "LONGTEXT", "ENUM"]

def mysqlNothing : List String :=
  ["TIMESTAMP", "TIME", "YEAR", "DECIMAL", "FLOAT", "DOUBLE", "BIT", "SET"]

def pgsqlText : List String := ["TEXT", "VARCHAR", "CHAR", "NAME", "UNKNOWN"]

def pgsqlNothing : List String :=
  ["NUMERIC", "UUID", "BYTEA", "OID", "\"CHAR\"", "FLOAT4", "FLOAT8", "TIME"]

/-- The type's name as the server reports it, and what it makes of values.  A type that is not
listed counts as text. -/
def typeOf (b : Backend) (type : String) : String × Decoding :=
  match b with
  | .mysql =>
    if type = "BOOLEAN" then (type, .truth)
    else if mysqlWhole.contains type ∨ (mysqlWhole.map (· ++ " UNSIGNED")).contains type then
      (type, .whole)
    else if type = "JSON" then (type, .json)
    else if type = "DATETIME" then (type, .moment)
    else if type = "DATE" then (type, .date)
    else if mysqlText.contains type then (type, .text)
    else if ["BINARY", "VARBINARY", "BLOB"].contains type then (type, .bytes)
    else if mysqlNothing.contains type then (type, .nothing)
    else ("VARCHAR", .text)
  | .pgsql =>
    if type = "BOOL" then (type, .truth)
    else if type = "INT" then ("INT4", .whole)
    else if ["INT2", "INT4", "INT8"].contains type then (type, .whole)
    else if type = "JSON" ∨ type = "JSONB" then (type, .json)
    else if type = "TIMESTAMP" ∨ type = "TIMESTAMPTZ" then (type, .moment)
    else if type = "DATE" then (type, .date)
    else if pgsqlText.contains type then (type, .text)
    else if pgsqlNothing.contains type then (type, .nothing)
    else ("TEXT", .text)

/-- Text from bytes; one backend takes any bytes, the other only UTF-8. -/
def textOf (b : Backend) (content : List UInt8) : Option String :=
  match b with
  | .mysql => some (Text.Utf8.decodeLossy content)
  | .pgsql => Text.Utf8.decode? content

/-- The value of a cell that is not null, if the type's decoder takes it. -/
def decode? (b : Backend) (d : Decoding) (c : Cell) : Option Value :=
  match d, c with
  | .truth, .bool truth => some (.int (if truth then 1 else 0))
  | .truth, .int n => some (.int (if n ≠ 0 then 1 else 0))
  | .whole, .int n => some (.int (Word64.wrap n))
  | .json, .bytes content => do
    let text ← Text.Utf8.decode? content
    pure (.json (← Json.parse? text))
  | .moment, .bytes content => do
    let text ← Text.Utf8.decode? content
    let (date, time) ← Text.Calendar.moment? text.toList
    pure (.text (String.ofList (date.chars ++ [' '] ++ time.chars)))
  | .date, .bytes content => do
    let text ← Text.Utf8.decode? content
    let date ← Text.Calendar.date? text.toList
    pure (.text (String.ofList date.chars))
  | .text, .bytes content => (textOf b content).map .text
  | .bytes, .bytes content => (textOf b content).map .text
  | _, _ => none

end RelDirectory.Server
