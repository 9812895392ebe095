import RelDirectory.Json.Document

/-!
# Documents of a fixed shape

Decoders for documents whose members are known by name.  Such an object may have other members,
which are ignored, but none of the known ones twice; it may also be written as an array of the
members in their order.
-/
set_option autoImplicit false
namespace RelDirectory.Json.Document

def text? : Document → Option String
  | .string s => s
  | _ => none

def truth? : Document → Option Bool
  | .bool b => some b
  | _ => none

/-- A whole number from 0 to `greatest`. -/
def natUpTo? (greatest : Nat) : Document → Option Nat
  | .number (some (.int n)) => if 0 ≤ n ∧ n ≤ greatest then some n.toNat else none
  | _ => none

def list? {α : Type} (decode : Document → Option α) : Document → Option (List α)
  | .array items => items.mapM decode
  | _ => none

/-- An object with any keys, the last of equal ones staying. -/
def keyed? {α : Type} (decode : Document → Option α) : Document → Option (Keyed α)
  | .object fields => do
    let entries ← fields.mapM fun (key, item) => do
      let key ← key
      let value ← decode item
      pure (key, value)
    pure (Keyed.ofList entries)
  | _ => none

/-- The members of an object of fixed shape. -/
abbrev Members := String → Option Document

def lookup (fields : List (Option String × Document)) : Members := fun name =>
  (fields.find? fun f => f.1 == some name).map (·.2)

def lookupAt (names : List String) (items : List Document) : Members := fun name =>
  ((names.zip items).find? fun f => f.1 == name).map (·.2)

def members? (names : List String) : Document → Option Members
  | .object fields =>
    let keys := fields.map (·.1)
    if keys.contains none ∨ names.any (fun name => 1 < keys.count (some name)) then none
    else some (lookup fields)
  | .array items => if names.length < items.length then none else some (lookupAt names items)
  | _ => none

/-- A member that has to be there. -/
def required {α : Type} (decode : Document → Option α) (members : Members) (name : String) :
    Option α := do
  decode (← members name)

/-- A member that may be missing. -/
def optional {α : Type} (missing : α) (decode : Document → Option α) (members : Members)
    (name : String) : Option α :=
  match members name with
  | some d => decode d
  | none => some missing

/-- A value or null. -/
def nullable {α : Type} (decode : Document → Option α) : Document → Option (Option α)
  | .null => some none
  | d => (decode d).map some

end RelDirectory.Json.Document
