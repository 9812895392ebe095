import RelDirectory.Settings
import RelDirectory.Yaml.Node

/-!
# Settings as YAML

Reading settings from a YAML text.  A field that wants text takes any scalar as it is written; a
port is a plain whole number, and a plain null or nothing leaves it open.  Other fields are
ignored, but none of the known ones may come twice.
-/
set_option autoImplicit false
namespace RelDirectory

namespace Yaml.Node

def text? : Node → Option String
  | .scalar _ text => some text
  | _ => none

/-- Nothing written counts as an empty list or map. -/
def list? {α : Type} (decode : Node → Option α) : Node → Option (List α)
  | .list items => items.mapM decode
  | .scalar true "" => some []
  | _ => none

abbrev Members := String → Option Node

/-- The members of a map with text keys, each of the known names at most once. -/
def members? (names : List String) (d : Node) : Option Members := do
  let entries ← match d with
    | .map entries => some entries
    | .scalar true "" => some []
    | _ => none
  let fields ← entries.mapM fun (key, value) => do pure (← key.text?, value)
  let keys := fields.map (·.1)
  if names.any fun name => 1 < keys.count name then none
  else pure fun name => (fields.find? (·.1 == name)).map (·.2)

def required {α : Type} (decode : Node → Option α) (members : Members) (name : String) :
    Option α := do
  decode (← members name)

def optional {α : Type} (missing : α) (decode : Node → Option α) (members : Members)
    (name : String) : Option α :=
  match members name with
  | some d => decode d
  | none => some missing

def nullWords : List String := ["", "~", "null", "Null", "NULL"]

/-- A value, or a plain word for none. -/
def nullable {α : Type} (decode : Node → Option α) : Node → Option (Option α)
  | .scalar true text =>
    if nullWords.contains text then some none else (decode (.scalar true text)).map some
  | d => (decode d).map some

def digitsOf? (base : Nat) (cs : List Char) : Option Nat := do
  let digits ← cs.mapM Text.hexValue?
  if digits.isEmpty || digits.any (base ≤ ·) then none else pure (Text.ofDigits base digits)

/-- A whole number as written: with a sign `+` or none, to base 16, 8, 2 or 10.  A leading zero
before further digits makes a decimal number text. -/
def wholeNumber? (cs : List Char) : Option Nat :=
  let digits := if cs.head? = some '+' then cs.drop 1 else cs
  let based : Option Nat :=
    match digits with
    | '0' :: 'x' :: ds => digitsOf? 16 ds
    | '0' :: 'o' :: ds => digitsOf? 8 ds
    | '0' :: 'b' :: ds => digitsOf? 2 ds
    | _ => none
  based.orElse fun _ =>
    match digits with
    | '0' :: d :: ds => if (d :: ds).all Text.isDigit then none else digitsOf? 10 digits
    | _ => digitsOf? 10 digits

def natUpTo? (greatest : Nat) : Node → Option Nat
  | .scalar true text => (wholeNumber? text.toList).filter (· ≤ greatest)
  | _ => none

end Yaml.Node

open Yaml.Node (required optional nullable members? text? natUpTo? list?)

def Backend.ofYaml? (d : Yaml.Node) : Option Backend := d.text?.bind Backend.ofName?

def ConnectionSettings.ofYaml? (d : Yaml.Node) : Option ConnectionSettings := do
  let m ← members? ["type", "host", "port", "database", "user", "password"] d
  let backend ← optional .mysql Backend.ofYaml? m "type"
  let host ← optional defaultHost text? m "host"
  let port ← optional none (nullable (natUpTo? Settings.greatestPort)) m "port"
  let database ← required text? m "database"
  let user ← required text? m "user"
  let password ← optional "" text? m "password"
  pure ⟨backend, host, port, database, user, password⟩

def SchemaSettings.ofYaml? (d : Yaml.Node) : Option SchemaSettings := do
  let m ← members? ["schema_dir", "static_dir", "extra_files"] d
  let schemaDir ← optional defaultSchemaDir text? m "schema_dir"
  let staticDir ← optional defaultStaticDir text? m "static_dir"
  let extraFiles ← optional [] (list? text?) m "extra_files"
  pure ⟨schemaDir, staticDir, extraFiles⟩

namespace Settings

def ofYaml? (d : Yaml.Node) : Option Settings := do
  let m ← members? ["rdbm", "schema"] d
  let connection ← required ConnectionSettings.ofYaml? m "rdbm"
  let schema ← optional .default SchemaSettings.ofYaml? m "schema"
  pure ⟨connection, schema⟩

/-- The valid settings of a YAML text. -/
def read (text : String) : Except Failure Settings :=
  match (Yaml.Node.parse? text).bind ofYaml? with
  | none => .error .yaml
  | some s =>
    match s.validate with
    | .error fault => .error (.settings fault)
    | .ok () => .ok s

/-- The valid settings of the YAML file at a path. -/
def load (files : Reader) (path : String) : Except Failure Settings :=
  match files.text path with
  | .error fault => .error (.file fault)
  | .ok text => read text

end Settings

end RelDirectory
