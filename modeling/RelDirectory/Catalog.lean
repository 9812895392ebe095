import RelDirectory.Backend
import RelDirectory.Keyed

/-!
# The attribute catalog

Which syntax each directory attribute has, and which column type stands for a syntax or for a
single attribute on each backend.
-/
set_option autoImplicit false
namespace RelDirectory

structure AttributeDefinition where
  names : List String
  oid : String
  multivalued : Bool
deriving DecidableEq

structure ColumnType where
  name : String
  size : Option Nat
deriving DecidableEq

/-- The column type of each backend, by the backend's name. -/
abbrev TypeRule := Keyed ColumnType

namespace TypeRule

/-- The type on `b`, else the canonical backend's. -/
def forBackend (rule : TypeRule) (b : Backend) : Option ColumnType :=
  (rule.get? b.name).orElse fun _ => rule.get? Backend.canonical.name

end TypeRule

structure Catalog where
  attributes : List AttributeDefinition
  syntaxTypes : Keyed TypeRule
  attributeTypes : Keyed TypeRule
  legacySyntax : Keyed String

namespace Catalog

/-- The syntax of attributes with several values. -/
def structuredSyntax : String := "JSON"

/-- The syntax of attributes that nothing declares. -/
def directoryString : String := "1.3.6.1.4.1.1466.115.121.1.15"

/-- The last definition that has the name. -/
def attribute? (c : Catalog) (name : String) : Option AttributeDefinition :=
  c.attributes.reverse.find? (·.names.contains name)

def syntaxOf (c : Catalog) (name : String) : String :=
  match c.attribute? name with
  | some definition => if definition.multivalued then structuredSyntax else definition.oid
  | none => (c.legacySyntax.get? name).getD directoryString

/-- The column type of an attribute: its own rule if it has one, else the rule of its syntax. -/
def columnType? (c : Catalog) (name : String) (b : Backend) : Option String := do
  let rule ← match c.attributeTypes.get? name with
    | some rule => some rule
    | none => c.syntaxTypes.get? (c.syntaxOf name)
  let type ← TypeRule.forBackend rule b
  pure type.name

end Catalog

end RelDirectory
