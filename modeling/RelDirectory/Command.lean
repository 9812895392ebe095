import RelDirectory.Catalog.Document
import RelDirectory.Command.Options
import RelDirectory.Directory.Search
import RelDirectory.Ldif.Apply
import RelDirectory.Settings.Yaml
import RelDirectory.Store.Session

/-!
# Running commands

What a command prints, reports and ends with, given the files it may read and the server that
its settings lead to.
-/
set_option autoImplicit false
namespace RelDirectory

/-- Where a command runs. -/
structure Surroundings where
  files : Reader
  /-- Opens the file for the diagnostic log. -/
  openLog : String → Except FileFault Unit
  server : Server
  /-- How long a round trip to the database takes, in milliseconds. -/
  latency : Nat

/-- What a command has done so far. -/
structure Console where
  output : String
  asked : List ServerEvent

/-- How a command ended. -/
structure Ending where
  code : Nat
  output : String
  /-- What is printed as an error, if anything. -/
  failure : Option String
  log : Log
  asked : List ServerEvent
  /-- The file that the log is added to. -/
  logFile : Option String

namespace Command

def print (line : String) : Step Console Unit := fun c =>
  ⟨.ok (), { c with output := c.output ++ line ++ "\n" }, []⟩

/-- A result that comes with a log of its own. -/
def logged {α : Type} (result : Except Failure α × Log) : Step Console α := fun c =>
  ⟨result.1, c, result.2⟩

def catalog (here : Surroundings) (s : Settings) : Step Console Catalog :=
  logged (Catalog.loadFor here.files s.schema)

/-- Opens the directory that the settings name and runs a step on it. -/
def onDirectory {α : Type} (here : Surroundings) (s : Settings)
    (x : Step (Directory Session) α) : Step Console α := do
  let c ← catalog here s
  let opening := Session.connect here.server s.connection
  Step.reportAll opening.log
  match opening.session with
  | .error e => fun console => ⟨.error e, { console with asked := opening.asked }, []⟩
  | .ok session => fun console =>
    let o := x (Directory.new session c)
    ⟨o.result, { console with asked := o.state.store.asked }, o.log⟩

def printRow (row : Row) : Step Console Unit := print row.toJson.compact

def printRows : List Row → Step Console Unit
  | [] => pure ()
  | row :: rows => do
    printRow row
    printRows rows

/-- Prints the rows of an outcome; a failed one fails in the given context. -/
def printOutcome (context : String) : QueryOutcome → Step Console Unit
  | .rows rows => printRows rows
  | .failed message => Step.fail (.query context message)

def showType (here : Surroundings) (s : Settings) (asJson : Bool) (name : String) :
    Step Console Unit := do
  let c ← catalog here s
  let b := s.connection.backend
  let oid := c.syntaxOf name
  let coercion : Coercion := ⟨c, b⟩
  let type ← Step.ofExcept ((coercion.columnType name).mapError .coercion)
  if asJson then
    print (Json.ofFields [("attribute", .string name), ("syntax", .string oid),
      ("backend", .string b.name), ("type", .string type)]).pretty
  else do
    print name
    print ("  Syntax: " ++ oid)
    print ("  Type (" ++ b.name ++ "): " ++ type)

def showValue (here : Surroundings) (s : Settings) (name : String) (values : List String) :
    Step Console Unit := do
  let c ← catalog here s
  let coercion : Coercion := ⟨c, s.connection.backend⟩
  let value ← Step.ofExcept ((coercion.toColumn name values).mapError .coercion)
  print value.toJson.compact

def checkHealth (here : Surroundings) (s : Settings) (asJson : Bool) : Step Console Unit := do
  onDirectory here s Directory.ping
  let b := s.connection.backend
  if asJson then
    print (Json.ofFields [("healthy", .bool true), ("backend", .string b.name),
      ("latency_ms", .ofInt here.latency)]).pretty
  else do
    print "Health Check Results:"
    print ("  Database (" ++ b.name ++ "): OK (" ++ toString here.latency ++ "ms)")

def printTables : List Table → Step Console Unit
  | [] => pure ()
  | t :: ts => do
    print ("  " ++ t.name ++ " (" ++ toString t.columns.length ++ " columns)")
    printTables ts

def listTables (here : Surroundings) (s : Settings) (asJson : Bool) : Step Console Unit := do
  let tables ← onDirectory here s Directory.knownTables
  if asJson then
    print (Json.array (tables.values.map fun t =>
      Json.ofFields [("table", .string t.name), ("columns", .ofInt t.columns.length)])).pretty
  else do
    print (toString tables.size ++ " tables:")
    printTables tables.values

def runSearch (here : Surroundings) (s : Settings) (base filter scope : String) (many : Bool) :
    Step Console Unit := do
  match Scope.ofName? scope with
  | none => Step.fail (.settings (.badScope scope))
  | some scope =>
    let outcome ← onDirectory here s (Directory.search base filter scope many)
    printOutcome "search" outcome

def showEntry (here : Surroundings) (s : Settings) (dn : String) : Step Console Unit := do
  match ← onDirectory here s (Directory.findOrReport dn) with
  | some row => printRow row
  | none => Step.fail (.noEntry dn)

def reportJson (r : Report) : Json :=
  .object [("created", .ofInt r.created), ("updated", .ofInt r.updated),
    ("unchanged", .ofInt r.unchanged), ("skipped", .ofInt r.skipped)]

def runImport (here : Surroundings) (s : Settings) (asJson : Bool) (paths : List String)
    (force : Bool) : Step Console Unit := do
  let report ← onDirectory here s (Ldif.importFiles here.files .empty paths force)
  if asJson then print (reportJson report).pretty
  else do
    print "Import completed!"
    print ("  Files: " ++ toString paths.length)
    print ("  Created: " ++ toString report.created)
    print ("  Updated: " ++ toString report.updated)
    print ("  Unchanged: " ++ toString report.unchanged)
    print ("  Skipped: " ++ toString report.skipped)

def fetchOf (mode : String) : Except SettingsFault Fetch :=
  let lowered := Text.lower mode
  if lowered = "none" then .ok .none
  else if lowered = "one" then .ok .one
  else if lowered = "all" then .ok .all
  else .error (.badFetch lowered)

def runStatement (here : Surroundings) (s : Settings) (statement mode : String) :
    Step Console Unit := do
  let fetch ← Step.ofExcept ((fetchOf mode).mapError .settings)
  let outcome ← onDirectory here s (Directory.execute statement fetch)
  printOutcome "exec" outcome

def runWith (here : Surroundings) (s : Settings) (asJson : Bool) : Command → Step Console Unit
  | .attrType name => showType here s asJson name
  | .coerce name values => showValue here s name values
  | .healthCheck => checkHealth here s asJson
  | .reflect => listTables here s asJson
  | .search base filter scope many => runSearch here s base filter scope many
  | .dnExists dn => showEntry here s dn
  | .importFiles paths force => runImport here s asJson paths force
  | .execute statement mode => runStatement here s statement mode

def steps (here : Surroundings) (o : Options) : Step Console Unit := do
  let s ← Step.ofExcept (Settings.load here.files o.config)
  Step.report (.info .command ("Loaded configuration from " ++ Text.quotedPath o.config))
  runWith here s o.outputJson o.command

def endingOf (logFile : Option String) (o : Outcome Console Unit) : Ending :=
  match o.result with
  | .ok () => ⟨0, o.state.output, none, o.log, o.state.asked, logFile⟩
  | .error e => ⟨e.exitCode, o.state.output, some e.detailed, o.log, o.state.asked, logFile⟩

def versionText : String := "ldap-rdbm 0.1.0\n"

def usageText : String :=
  "Usage: ldap-rdbm [OPTIONS] <COMMAND>\n\n" ++
  "Commands: health-check, reflect, attr-type, coerce, search, dn-exists, import, exec, help\n"

/-- Runs options; a diagnostic log that cannot be opened stops everything. -/
def runOptions (here : Surroundings) (o : Options) : Ending :=
  let openLog := match o.diagnosticLog with
    | some path => (here.openLog path).mapError fun fault =>
        Failure.settings (.noLogFile path fault)
    | none => .ok ()
  match openLog with
  | .error e => endingOf none ⟨.error e, ⟨"", []⟩, []⟩
  | .ok () => endingOf o.diagnosticLog (steps here o ⟨"", []⟩)

/-- Runs a command line. -/
def run (here : Surroundings) (args : List String) : Ending :=
  match Options.read args with
  | .error .help => ⟨0, usageText, none, [], [], none⟩
  | .error .version => ⟨0, versionText, none, [], [], none⟩
  | .error .usage => ⟨2, "", some usageText, [], [], none⟩
  | .ok o => runOptions here o

/-- The files that a command reads besides its settings. -/
def filesRead (s : Settings) (c : Command) : List String :=
  s.schema.schemaFiles ++
    [s.schema.syntaxTypesFile, s.schema.attributeTypesFile, s.schema.legacySyntaxFile] ++
    match c with
    | .importFiles paths _ => paths
    | _ => []

end Command

end RelDirectory
