import RelDirectory.Json.Decode
import RelDirectory.Settings

/-!
# Settings as JSON

Reading settings from a JSON value and writing them as one.
-/
set_option autoImplicit false
namespace RelDirectory

open Json.Document (required optional nullable members? text? natUpTo? list?)

/-- A backend's name, alone or as the only key of an object with nothing under it. -/
def Backend.ofDocument? : Json.Document → Option Backend
  | .string (some name) => Backend.ofName? name
  | .object [(some name, .null)] => Backend.ofName? name
  | _ => none

def ConnectionSettings.ofDocument? (d : Json.Document) : Option ConnectionSettings := do
  let m ← members? ["type", "host", "port", "database", "user", "password"] d
  let backend ← optional .mysql Backend.ofDocument? m "type"
  let host ← optional defaultHost text? m "host"
  let port ← optional none (nullable (natUpTo? Settings.greatestPort)) m "port"
  let database ← required text? m "database"
  let user ← required text? m "user"
  let password ← optional "" text? m "password"
  pure ⟨backend, host, port, database, user, password⟩

def SchemaSettings.ofDocument? (d : Json.Document) : Option SchemaSettings := do
  let m ← members? ["schema_dir", "static_dir", "extra_files"] d
  let schemaDir ← optional defaultSchemaDir text? m "schema_dir"
  let staticDir ← optional defaultStaticDir text? m "static_dir"
  let extraFiles ← optional [] (list? text?) m "extra_files"
  pure ⟨schemaDir, staticDir, extraFiles⟩

def Settings.ofDocument? (d : Json.Document) : Option Settings := do
  let m ← members? ["rdbm", "schema"] d
  let connection ← required ConnectionSettings.ofDocument? m "rdbm"
  let schema ← optional .default SchemaSettings.ofDocument? m "schema"
  pure ⟨connection, schema⟩

def ConnectionSettings.toJson (c : ConnectionSettings) : Json :=
  let port := match c.port with
    | some n => [("port", Json.ofInt n)]
    | none => []
  .ofFields ([("type", .string c.backend.name), ("host", .string c.host)] ++ port ++
    [("database", .string c.database), ("user", .string c.user),
      ("password", .string c.password)])

def SchemaSettings.toJson (s : SchemaSettings) : Json :=
  .ofFields [("schema_dir", .string s.schemaDir), ("static_dir", .string s.staticDir),
    ("extra_files", .array (s.extraFiles.map .string))]

def Settings.toJson (s : Settings) : Json :=
  .ofFields [("rdbm", s.connection.toJson), ("schema", s.schema.toJson)]

end RelDirectory
