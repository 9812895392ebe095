import RelDirectory.Backend
import RelDirectory.Text.Utf8
import RelDirectory.Value

/-!
# Database servers

A server seen from a session: it is logged in to, and it answers each statement with a reply.
The server here answers from a script, whatever the statements are, and keeps what it was asked.
A server that cannot be reached answers no login.
-/
set_option autoImplicit false
namespace RelDirectory

structure ServerError where
  number : Int
  code : String
  message : String

/-- The words in which a backend's client passes on an error. -/
def ServerError.display (b : Backend) (e : ServerError) : String :=
  match b with
  | .mysql =>
    "error returned from database: " ++ toString e.number ++ " (" ++ e.code ++ "): " ++ e.message
  | .pgsql => "error returned from database: " ++ e.message

/-- One value of a reply. -/
inductive Cell where
  | null
  | bool (b : Bool)
  | int (n : Int)
  | bytes (content : List UInt8)
deriving DecidableEq

structure ResultColumn where
  name : String
  type : String

inductive ServerReply where
  | affected (count : Nat)
  | rows (columns : List ResultColumn) (rows : List (List Cell))
  | error (e : ServerError)

/-- What a server was asked. -/
inductive ServerEvent where
  | login (user database : String)
  | ping
  | execute (statement : String) (parameters : List Value)
deriving DecidableEq

/-- The answers of a server: to a login, to the statement that probes a new session, to pings,
and to all other statements in their order. -/
structure Script where
  login : Option ServerError
  probe : Option ServerError
  ping : Option ServerError
  replies : List ServerReply

inductive Server where
  | unreachable
  | scripted (script : Script)

/-- The answer when the script has run out. -/
def Script.exhausted : ServerError := ⟨1105, "HY000", "no reply scripted"⟩

end RelDirectory
