import RelDirectory.Identifier
import RelDirectory.Table

/-!
# Statements

Conditions on a row, and the text of the statements that select, insert and update rows in a
backend's dialect.  Values never enter the text: each has a placeholder, in the order in which
the values are bound.
-/
set_option autoImplicit false
namespace RelDirectory

/-- What a condition asks of a column. -/
inductive Test where
  | equals (value : Value)
  | like (pattern : String)
deriving DecidableEq

structure Predicate where
  column : String
  test : Test
deriving DecidableEq

/-- The value that is bound for the condition. -/
def Predicate.operand (p : Predicate) : Value :=
  match p.test with
  | .equals value => value
  | .like pattern => .text pattern

namespace Statement

/-- Reported types that cannot stand in a cast. -/
def uncastable : List String := ["USER-DEFINED", "ARRAY"]

def needsCast (c : Column) : Bool := !c.isTextual && !uncastable.contains c.dataType

/-- The place of the parameter with this index, counted from one; parameters are bound as text,
so where the backend does not convert them they are cast to the column's type. -/
def placeholder (b : Backend) (index : Nat) (column : Option Column) : String :=
  match b with
  | .mysql => "?"
  | .pgsql =>
    match column.filter needsCast with
    | some c => "$" ++ toString index ++ "::" ++ c.dataType
    | none => "$" ++ toString index

/-- The left-hand side of a pattern match on a quoted column. -/
def likeOperand (b : Backend) (quoted : String) (column : Option Column) : String :=
  match b with
  | .mysql => quoted
  | .pgsql => if (column.filter fun c => !c.isTextual).isSome then quoted ++ "::text" else quoted

def clause (b : Backend) (table : Table) (index : Nat) (p : Predicate) :
    Except Identifier.Fault String := do
  let column := table.column? p.column
  let quoted ← Identifier.quote b p.column
  pure <| match p.test with
    | .equals _ => quoted ++ " = " ++ placeholder b index column
    | .like _ => likeOperand b quoted column ++ " LIKE " ++ placeholder b index none

def clauses (b : Backend) (table : Table) :
    Nat → List Predicate → Except Identifier.Fault (List String)
  | _, [] => .ok []
  | index, p :: ps => do
    let first ← clause b table index p
    let others ← clauses b table (index + 1) ps
    pure (first :: others)

def select (b : Backend) (table : Table) (predicates : List Predicate) (limit : Option Nat) :
    Except Identifier.Fault String := do
  let quoted ← Identifier.quote b table.name
  let conditions ← clauses b table 1 predicates
  let wanted := if conditions.isEmpty then "" else " WHERE " ++ " AND ".intercalate conditions
  let upTo := match limit with
    | some n => " LIMIT " ++ toString n
    | none => ""
  pure ("SELECT * FROM " ++ quoted ++ wanted ++ upTo)

def columnTexts (b : Backend) (table : Table) :
    Nat → List String → Except Identifier.Fault (List (String × String))
  | _, [] => .ok []
  | index, name :: names => do
    let quoted ← Identifier.quote b name
    let others ← columnTexts b table (index + 1) names
    pure ((quoted, placeholder b index (table.column? name)) :: others)

/-- The columns of the row in order of name. -/
def insert (b : Backend) (table : Table) (row : Row) : Except Identifier.Fault String := do
  let texts ← columnTexts b table 1 row.values.keys
  let quoted ← Identifier.quote b table.name
  pure ("INSERT INTO " ++ quoted ++ " (" ++ ", ".intercalate (texts.map (·.1)) ++ ") VALUES (" ++
    ", ".intercalate (texts.map (·.2)) ++ ")")

/-- One column of the rows with one `dn`. -/
def update (b : Backend) (table : Table) (column : String) : Except Identifier.Fault String := do
  let quoted ← Identifier.quote b table.name
  let target ← Identifier.quote b column
  let dn ← Identifier.quote b dnColumn
  pure ("UPDATE " ++ quoted ++ " SET " ++ target ++ " = " ++
    placeholder b 1 (table.column? column) ++ " WHERE " ++ dn ++ " = " ++
    placeholder b 2 (table.column? dnColumn))

end Statement

end RelDirectory
