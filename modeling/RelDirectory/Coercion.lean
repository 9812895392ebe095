import RelDirectory.Catalog
import RelDirectory.Table
import RelDirectory.Text.Digits
import RelDirectory.Timestamp

/-!
# From directory values to columns and back

An attribute's column type decides how its list of values becomes one column value: a container
takes all of them, every other kind the first.
-/
set_option autoImplicit false
namespace RelDirectory

/-- A catalog read for one backend. -/
structure Coercion where
  catalog : Catalog
  backend : Backend

namespace Coercion

inductive Fault where
  | noType (name : String)
  | badValue (name value : String)
deriving DecidableEq

def columnType (c : Coercion) (name : String) : Except Fault String :=
  match c.catalog.columnType? name c.backend with
  | some type => .ok type
  | none => .error (.noType name)

def kind (c : Coercion) (name : String) : Except Fault ColumnKind :=
  (c.columnType name).map ColumnKind.ofTypeName

/-- The words for true, compared in lower case. -/
def truthyWords : List String := ["1", "on", "true", "yes", "ok"]

def isTruthy (s : String) : Bool := truthyWords.contains (Text.lower s)

/-- The column value for a kind. -/
def valueFor (name : String) (kind : ColumnKind) (values : List String) :
    Except Fault Value :=
  match kind, values with
  | .structured, values => .ok (Value.ofStrings values)
  | _, [] => .error (.badValue name "")
  | .boolean, first :: _ => .ok (.int (if isTruthy first then 1 else 0))
  | .integer, first :: _ =>
    match Text.int64? (Text.trim first.toList) with
    | some n => .ok (.int n)
    | none => .error (.badValue name first)
  | .timestamp, first :: _ => .ok (.text (Timestamp.toColumn first))
  | .text, first :: _ => .ok (.text first)

def toColumn (c : Coercion) (name : String) (values : List String) : Except Fault Value := do
  valueFor name (← c.kind name) values

/-- The text of a container's item. -/
def itemText : Json → String
  | .string s => s
  | item => item.compact

/-- The directory values of a column value. -/
def valuesFor (kind : ColumnKind) (value : Value) : List String :=
  match kind, value with
  | _, .null => []
  | .boolean, .int n => [if n ≠ 0 then "true" else "false"]
  | .timestamp, .text s => [Timestamp.toDirectory s]
  | _, .json document =>
    match (Value.json document).items? with
    | some items => items.map itemText
    | none => [document.compact]
  | _, other => [other.display]

def toDirectory (c : Coercion) (name : String) (value : Value) :
    Except Fault (List String) := do
  pure (valuesFor (← c.kind name) value)

end Coercion

end RelDirectory
