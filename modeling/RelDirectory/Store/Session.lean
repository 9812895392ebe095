import RelDirectory.Server.Decode
import RelDirectory.Settings
import RelDirectory.Store

/-!
# Sessions

A store that is a session with a database server.  Each call sends one statement in the
backend's dialect and makes rows of the reply; a call whose statement cannot be built sends
nothing.
-/
set_option autoImplicit false
namespace RelDirectory

structure Session where
  backend : Backend
  script : Script
  /-- What the server was asked, in order. -/
  asked : List ServerEvent

namespace Session

def origin : Backend → Origin
  | .mysql => .mysqlSession
  | .pgsql => .pgsqlSession

def reflectionQuery : Backend → String
  | .mysql => "\n    SELECT
        CAST(TABLE_NAME AS CHAR(255)) AS TABLE_NAME,
        CAST(COLUMN_NAME AS CHAR(255)) AS COLUMN_NAME,
        CAST(DATA_TYPE AS CHAR(255)) AS DATA_TYPE
    FROM INFORMATION_SCHEMA.COLUMNS
    WHERE TABLE_SCHEMA = DATABASE()
    ORDER BY TABLE_NAME, ORDINAL_POSITION
"
  | .pgsql => "\n    SELECT
        table_name::text AS table_name,
        column_name::text AS column_name,
        data_type::text AS data_type
    FROM information_schema.columns
    WHERE table_schema = current_schema()
    ORDER BY table_name, ordinal_position
"

/-- The columns of the reflection query: table, column and type. -/
def reflectionColumns : Backend → List String
  | .mysql => ["TABLE_NAME", "COLUMN_NAME", "DATA_TYPE"]
  | .pgsql => ["table_name", "column_name", "data_type"]

/-- A value as a parameter: one backend takes JSON as the text of it. -/
def bind (b : Backend) : Value → Value
  | .json document =>
    match b with
    | .mysql => .text document.compact
    | .pgsql => .json document
  | value => value

def ask (e : ServerEvent) : Step Session Unit := fun s =>
  ⟨.ok (), { s with asked := s.asked ++ [e] }, []⟩

/-- The next reply of the script. -/
def nextReply : Step Session ServerReply := fun s =>
  match s.script.replies with
  | [] => ⟨.ok (.error Script.exhausted), s, []⟩
  | reply :: replies => ⟨.ok reply, { s with script := { s.script with replies := replies } }, []⟩

/-- Sends a statement; an error that comes back fails in the given context. -/
def send (statement : String) (parameters : List Value) (context : String) :
    Step Session ServerReply := do
  let s ← Step.current
  ask (.execute statement (parameters.map (bind s.backend)))
  match ← nextReply with
  | .error e => Step.fail (.query context (e.display s.backend))
  | reply => pure reply

/-- The columns and rows of a reply. -/
def resultOf : ServerReply → List ResultColumn × List (List Cell)
  | .rows columns rows => (columns, rows)
  | _ => ([], [])

def undecoded (b : Backend) (type : String) (index : Nat) : Event :=
  .debug (origin b) ("Could not decode " ++ type ++ " column " ++ toString index ++
    ": error occurred while decoding")

/-- Adds a row's values to it, each under its column's name. -/
def fillRow (b : Backend) : Nat → List (ResultColumn × Cell) → Row → Row × Log
  | _, [], row => (row, [])
  | index, (column, cell) :: rest, row =>
    let (type, decoding) := Server.typeOf b column.type
    let (value, log) : Value × Log :=
      if cell = .null then (.null, [])
      else
        match Server.decode? b decoding cell with
        | some value => (value, [])
        | none => (.null, [undecoded b type index])
    let (row, log') := fillRow b (index + 1) rest (row.set column.name value)
    (row, log ++ log')

def rowsOf (b : Backend) (table : String) (columns : List ResultColumn) :
    List (List Cell) → List Row × Log
  | [] => ([], [])
  | cells :: rest =>
    let (row, log) := fillRow b 0 (columns.zip cells) (.empty table)
    let (rows, log') := rowsOf b table columns rest
    (row :: rows, log ++ log')

/-- Makes rows of cells and reports the values that could not be decoded. -/
def decodeRows (table : String) (columns : List ResultColumn) (cells : List (List Cell)) :
    Step Session (List Row) := do
  let s ← Step.current
  let (rows, log) := rowsOf s.backend table columns cells
  Step.reportAll log
  pure rows

/-- Builds a statement and reports it. -/
def build (statement : Backend → Except Identifier.Fault String) : Step Session String := do
  let s ← Step.current
  let text ← Step.ofExcept ((statement s.backend).mapError .badIdentifier)
  Step.report (.debug (origin s.backend) text)
  pure text

/-! ## Discovery -/

/-- The text in the last column of the name. -/
def metadataText (b : Backend) (cells : List (ResultColumn × Cell)) (name : String) :
    Except String String :=
  match cells.reverse.find? fun c => c.1.name == name with
  | none => .error ("no column found for name: " ++ name)
  | some (column, cell) =>
    let text? := match (Server.typeOf b column.type).2, cell with
      | .text, .bytes content => Text.Utf8.decode? content
      | _, _ => none
    match text? with
    | some text => .ok text
    | none => .error ("error occurred while decoding column " ++ Text.quoted name)

def columnReport (b : Backend) (cells : List (ResultColumn × Cell)) :
    Except String Table.ColumnReport :=
  match reflectionColumns b with
  | [table, column, type] => do
    let table ← metadataText b cells table
    let column ← metadataText b cells column
    let type ← metadataText b cells type
    pure ⟨table, column, type⟩
  | _ => .error ""

def reflect : Step Session (List Table) := do
  let s ← Step.current
  let b := s.backend
  let reply ← send (reflectionQuery b) [] ("reflecting " ++ b.title ++ " tables")
  let (columns, rows) := resultOf reply
  let reports ← Step.ofExcept
    ((rows.mapM fun cells => columnReport b (columns.zip cells)).mapError
      (.query ("reading " ++ b.title ++ " column metadata")))
  pure (Table.ofReports reports)

/-! ## Calls -/

def ping : Step Session Unit := do
  ask .ping
  let s ← Step.current
  match s.script.ping with
  | some e => Step.fail (.connection ("pinging " ++ s.backend.title ++ " session")
      (e.display s.backend))
  | none => pure ()

def select (t : Table) (predicates : List Predicate) (limit : Option Nat) :
    Step Session (List Row) := do
  let text ← build (Statement.select · t predicates limit)
  let reply ← send text (predicates.map Predicate.operand) ("selecting from " ++ t.name)
  let (columns, cells) := resultOf reply
  decodeRows t.name columns cells

def insert (t : Table) (row : Row) : Step Session Unit := do
  let text ← build (Statement.insert · t row)
  let _ ← send text row.values.values ("inserting into " ++ t.name)

def affectedBy : ServerReply → Nat
  | .affected count => count
  | _ => 0

def update (t : Table) (dn column : String) (value : Value) : Step Session Nat := do
  let text ← build (Statement.update · t column)
  let reply ← send text [value, .text dn] ("updating " ++ t.name ++ "." ++ column)
  pure (affectedBy reply)

def execute (statement : String) (fetch : Fetch) : Step Session (List Row) := do
  let text ← build fun _ => .ok statement
  let reply ← send text [] "executing raw statement"
  let (columns, cells) := resultOf reply
  decodeRows "" columns (fetch.ofRows cells)

instance : Store Session where
  backend s := s.backend
  ping := ping
  reflect := reflect
  select := select
  insert := insert
  update := update
  execute := execute

/-! ## Connecting -/

def probe : String := "SELECT 1"

/-- A session that has logged in and tested its server, or the failure to open one, with what
the server was asked. -/
structure Opening where
  session : Except Failure Session
  asked : List ServerEvent
  log : Log

def connectingEvent (c : ConnectionSettings) : Event :=
  .info .connection ("Connecting to " ++ c.backend.name ++ " backend at " ++ c.host ++ ":" ++
    toString c.effectivePort)

def connectedEvent (c : ConnectionSettings) : Event :=
  .info (origin c.backend) ("Connected to " ++ c.maskedAddress)

def connect (server : Server) (c : ConnectionSettings) : Opening :=
  let b := c.backend
  let opening := "opening " ++ b.title ++ " session"
  let testing := "testing " ++ b.title ++ " session"
  let connecting := [connectingEvent c]
  match server with
  | .unreachable =>
    ⟨.error (.connection opening
        "error communicating with database: Connection refused (os error 111)"), [], connecting⟩
  | .scripted script =>
    let login := ServerEvent.login c.user c.database
    let test := ServerEvent.execute probe []
    match script.login, script.probe with
    | some e, _ => ⟨.error (.connection opening (e.display b)), [login], connecting⟩
    | none, some e => ⟨.error (.connection testing (e.display b)), [login, test], connecting⟩
    | none, none =>
      ⟨.ok ⟨b, script, [login, test]⟩, [login, test], connecting ++ [connectedEvent c]⟩

end Session

end RelDirectory
