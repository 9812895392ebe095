import RelDirectory.Json.Decode
import RelDirectory.Json.Parser
import RelDirectory.Log
import RelDirectory.Settings

/-!
# Schema documents

A catalog is merged from schema documents, which list attribute definitions, and from three
mapping documents: types by syntax, types by attribute, and the syntax of attributes that no
schema document declares.
-/
set_option autoImplicit false
namespace RelDirectory

open Json.Document (required optional nullable members? text? truth? natUpTo? list? keyed?)

def AttributeDefinition.ofDocument? (d : Json.Document) : Option AttributeDefinition := do
  let m ← members? ["names", "syntax", "multivalued"] d
  let names ← required (list? text?) m "names"
  let oid ← required text? m "syntax"
  let multivalued ← optional false truth? m "multivalued"
  pure ⟨names, oid, multivalued⟩

def ColumnType.greatestSize : Nat := 0xFFFFFFFF

def ColumnType.ofDocument? (d : Json.Document) : Option ColumnType := do
  let m ← members? ["type", "size"] d
  let name ← required text? m "type"
  let size ← optional none (nullable (natUpTo? greatestSize)) m "size"
  pure ⟨name, size⟩

def TypeRule.ofDocument? : Json.Document → Option TypeRule := keyed? ColumnType.ofDocument?

namespace Catalog

def definitions? (d : Json.Document) : Option (List AttributeDefinition) := do
  let m ← members? ["attributeTypes"] d
  required (list? AttributeDefinition.ofDocument?) m "attributeTypes"

/-- The content of the document at a path. -/
def load {α : Type} (read : Reader) (decode : Json.Document → Option α) (path : String) :
    Except Failure α :=
  match read.text path with
  | .error cause => .error (.document path (.unreadable cause))
  | .ok text =>
    match (Json.Document.parse? text).bind decode with
    | some content => .ok content
    | none => .error (.document path .malformed)

def loadedEvent (path : String) (definitions : List AttributeDefinition) : Event :=
  .debug .catalog ("Loaded " ++ toString definitions.length ++ " attribute types from " ++ path)

/-- The definitions of all schema documents, in order; what was loaded before a failure is in
the log. -/
def loadAll (read : Reader) : List String → Except Failure (List AttributeDefinition) × Log
  | [] => (.ok [], [])
  | path :: paths =>
    match load read definitions? path with
    | .error e => (.error e, [])
    | .ok definitions =>
      let (rest, log) := loadAll read paths
      (rest.map (definitions ++ ·), loadedEvent path definitions :: log)

def readyEvent (c : Catalog) : Event :=
  .info .catalog ("Schema catalog ready: " ++ toString c.attributes.length ++
    " attribute types, " ++ toString c.syntaxTypes.size ++ " syntax mappings")

/-- The catalog of some schema documents, in order, and the mapping documents. -/
def loadFrom (read : Reader) (schemaFiles : List String) (mapping : MappingFiles) :
    Except Failure Catalog × Log :=
  let reading := Event.info .catalog "Reading directory schema"
  let (definitions, log) := loadAll read schemaFiles
  let catalog : Except Failure Catalog := do
    let attributes ← definitions
    let syntaxTypes ← load read (keyed? TypeRule.ofDocument?) mapping.syntaxTypes
    let attributeTypes ← load read (keyed? TypeRule.ofDocument?) mapping.attributeTypes
    let legacySyntax ← load read (keyed? text?) mapping.legacySyntax
    pure ⟨attributes, syntaxTypes, attributeTypes, legacySyntax⟩
  match catalog with
  | .error e => (.error e, reading :: log)
  | .ok c => (.ok c, reading :: log ++ [readyEvent c])

/-- The catalog that the settings name. -/
def loadFor (read : Reader) (s : SchemaSettings) : Except Failure Catalog × Log :=
  loadFrom read s.schemaFiles s.mappingFiles

end Catalog

end RelDirectory
