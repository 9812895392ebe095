import RelDirectory.Failure

/-!
# Settings

Which database a directory stands on and where its schema documents lie.
-/
set_option autoImplicit false
namespace RelDirectory

structure ConnectionSettings where
  backend : Backend
  host : String
  port : Option Nat
  database : String
  user : String
  password : String
deriving DecidableEq

namespace ConnectionSettings

def defaultHost : String := "localhost"

/-- The port to connect to. -/
def effectivePort (c : ConnectionSettings) : Nat := c.port.getD c.backend.defaultPort

/-- The address without the password, for logs. -/
def maskedAddress (c : ConnectionSettings) : String :=
  let scheme := match c.backend with
    | .mysql => "mysql"
    | .pgsql => "postgres"
  let options := match c.backend with
    | .mysql => "?charset=utf8mb4"
    | .pgsql => ""
  scheme ++ "://" ++ c.user ++ ":****@" ++ c.host ++ ":" ++ toString c.effectivePort ++ "/" ++
    c.database ++ options

/-- All fields but the password on one line. -/
def masked (c : ConnectionSettings) : String :=
  let kind := match c.backend with
    | .mysql => "Mysql"
    | .pgsql => "Pgsql"
  "RdbmConfig \x7b type: " ++ kind ++ ", host: " ++ Text.quoted c.host ++ ", port: " ++
    toString c.effectivePort ++ ", database: " ++ Text.quoted c.database ++ ", user: " ++
    Text.quoted c.user ++ ", password: \"[REDACTED]\" \x7d"

end ConnectionSettings

/-- Where the three mapping documents lie. -/
structure MappingFiles where
  syntaxTypes : String
  attributeTypes : String
  legacySyntax : String

structure SchemaSettings where
  schemaDir : String
  staticDir : String
  extraFiles : List String
deriving DecidableEq

namespace SchemaSettings

def defaultSchemaDir : String := "/opt/jans/jans-setup/schema"

def defaultStaticDir : String := "/opt/jans/jans-setup/static/rdbm"

def default : SchemaSettings := ⟨defaultSchemaDir, defaultStaticDir, []⟩

/-- The schema documents in the order in which they are merged. -/
def schemaFiles (s : SchemaSettings) : List String :=
  (["jans_schema.json", "custom_schema.json"] ++ s.extraFiles).map (joinPath s.schemaDir)

def syntaxTypesFile (s : SchemaSettings) : String :=
  joinPath s.staticDir "ldap_sql_data_type_mapping.json"

def attributeTypesFile (s : SchemaSettings) : String := joinPath s.staticDir "sql_data_types.json"

def legacySyntaxFile (s : SchemaSettings) : String :=
  joinPath s.staticDir "opendj_attributes_syntax.json"

def mappingFiles (s : SchemaSettings) : MappingFiles :=
  ⟨s.syntaxTypesFile, s.attributeTypesFile, s.legacySyntaxFile⟩

end SchemaSettings

structure Settings where
  connection : ConnectionSettings
  schema : SchemaSettings
deriving DecidableEq

namespace Settings

def validate (s : Settings) : Except SettingsFault Unit :=
  if s.connection.host = "" then .error (.missing "rdbm.host")
  else if s.connection.database = "" then .error (.missing "rdbm.database")
  else if s.connection.user = "" then .error (.missing "rdbm.user")
  else if s.connection.port = some 0 then .error .zeroPort
  else if s.schema.extraFiles.contains "" then .error .emptyExtraFile
  else .ok ()

def greatestPort : Nat := 65535

end Settings

end RelDirectory
