import RelDirectory.Statement
import RelDirectory.Step

/-!
# Stores

What a directory needs of a relational store: a state of type `σ` on which it selects, inserts
and updates rows, discovers the tables there are, and runs statements of the backend's own.
-/
set_option autoImplicit false
namespace RelDirectory

/-- How many rows of a statement are wanted. -/
inductive Fetch where
  | none
  | one
  | all
deriving DecidableEq

/-- As many of the rows as are wanted. -/
def Fetch.ofRows {α : Type} : Fetch → List α → List α
  | .none, _ => []
  | .one, rows => rows.take 1
  | .all, rows => rows

class Store (σ : Type) where
  backend : σ → Backend
  /-- A round trip that shows whether the store answers. -/
  ping : Step σ Unit
  /-- The tables with their columns. -/
  reflect : Step σ (List Table)
  /-- The rows that satisfy all conditions, up to a limit. -/
  select : Table → List Predicate → Option Nat → Step σ (List Row)
  insert : Table → Row → Step σ Unit
  /-- Sets one column of the rows with one `dn`, and counts them. -/
  update : Table → String → String → Value → Step σ Nat
  /-- Runs a statement as it is. -/
  execute : String → Fetch → Step σ (List Row)

end RelDirectory
