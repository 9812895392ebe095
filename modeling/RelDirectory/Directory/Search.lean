import RelDirectory.Directory
import RelDirectory.Filter

/-!
# Searching

Running a filter or a statement.  Neither fails: what goes wrong is reported and becomes an
outcome of its own, so that it differs from finding nothing.
-/
set_option autoImplicit false
namespace RelDirectory

/-- How far below its base a search goes; the rows found do not depend on it. -/
inductive Scope where
  | base
  | oneLevel
  | subtree
deriving DecidableEq

namespace Scope

instance : Inhabited Scope := ⟨.oneLevel⟩

def default : Scope := .oneLevel

def ofName? (name : String) : Option Scope :=
  match Text.lower name with
  | "base" => some .base
  | "one" => some .oneLevel
  | "onelevel" => some .oneLevel
  | "level" => some .oneLevel
  | "sub" => some .subtree
  | "subtree" => some .subtree
  | _ => none

def name : Scope → String
  | .base => "base"
  | .oneLevel => "one"
  | .subtree => "sub"

end Scope

inductive QueryOutcome where
  | rows (rows : List Row)
  | failed (message : String)
deriving DecidableEq

namespace QueryOutcome

def rows? : QueryOutcome → Option (List Row)
  | .rows found => some found
  | .failed _ => none

end QueryOutcome

namespace Directory

variable {σ : Type} [Store σ]

def failed (context message : String) : Step (Directory σ) QueryOutcome := do
  Step.report (.error .search ("ERROR " ++ context ++ ": " ++ message))
  pure (.failed message)

/-- Runs a query on its table. -/
def runQuery (q : Filter.Query) (many : Bool) : Step (Directory σ) QueryOutcome := do
  match ← Step.attempt (table? q.table) with
  | .error e => failed "reflecting tables" e.message
  | .ok none => failed "searching" (Failure.noTable q.table).message
  | .ok (some t) =>
    match q.predicates.find? fun p => !t.hasColumn p.column with
    | some p => failed "compiling filter" (Failure.noColumn t.name p.column).message
    | none =>
      let limit := if many then none else some 1
      match ← Step.attempt (onStore (Store.select t q.predicates limit)) with
      | .error e => failed "executing search" e.message
      | .ok rows =>
        Step.report (.debug .search ("Search returned " ++ toString rows.length ++ " row(s)"))
        pure (.rows rows)

/-- The rows that a filter selects, or the first of them. -/
def search (base filter : String) (scope : Scope) (many : Bool) :
    Step (Directory σ) QueryOutcome := do
  Step.report (.info .search
    ("Searching database for dn " ++ base ++ " with filter " ++ filter ++ " (scope " ++
      scope.name ++ ")"))
  let parsed := Filter.parse filter
  if parsed = .unsupported then
    Step.report (.warn .search ("Unsupported filter " ++ filter))
  match parsed.query? with
  | none => failed "compiling filter" ("filter " ++ filter ++ " names no objectClass")
  | some q => runQuery q many

/-- Runs a statement of the backend's own. -/
def execute (statement : String) (fetch : Fetch) : Step (Directory σ) QueryOutcome := do
  let d ← Step.current
  Step.report (.info .search ("Executing " ++ d.backend.name ++ " Query: " ++ statement))
  match ← Step.attempt (onStore (Store.execute statement fetch)) with
  | .ok rows => pure (.rows rows)
  | .error e => failed "executing query" e.message

end Directory

end RelDirectory
