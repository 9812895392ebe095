/-!
# Relational backends

The two kinds of database a directory can stand on, their names and their usual ports.
-/
set_option autoImplicit false
namespace RelDirectory

inductive Backend where
  | mysql
  | pgsql
deriving DecidableEq, Repr

namespace Backend

/-- The backend whose column types stand in where another backend has none. -/
def canonical : Backend := .mysql

instance : Inhabited Backend := ⟨.mysql⟩

def name : Backend → String
  | .mysql => "mysql"
  | .pgsql => "pgsql"

/-- The name in running text. -/
def title : Backend → String
  | .mysql => "MySQL"
  | .pgsql => "PostgreSQL"

/-- The names by which settings may call a backend. -/
def ofName? : String → Option Backend
  | "mysql" => some .mysql
  | "pgsql" => some .pgsql
  | "postgres" => some .pgsql
  | "postgresql" => some .pgsql
  | _ => none

def defaultPort : Backend → Nat
  | .mysql => 3306
  | .pgsql => 5432

end Backend

end RelDirectory
