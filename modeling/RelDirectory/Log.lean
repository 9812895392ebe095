import RelDirectory.Text.Split

/-!
# The log

What an operation reports while it runs: each event has a level, the part of the library that
reports it, and a text.
-/
set_option autoImplicit false
namespace RelDirectory

inductive Level where
  | debug
  | info
  | warn
  | error
deriving DecidableEq

def Level.name : Level → String
  | .debug => "DEBUG"
  | .info => "INFO"
  | .warn => "WARN"
  | .error => "ERROR"

/-- The part of the library that reports an event. -/
inductive Origin where
  | command
  | catalog
  | connection
  | mysqlSession
  | pgsqlSession
  | reflector
  | locator
  | search
  | configuration
  | directory
  | ldifReader
  | ldifApply
deriving DecidableEq

/-- The name of a part in a log line. -/
def Origin.target : Origin → String
  | .command => "ldap_rdbm"
  | .catalog => "ldap_rdbm::schema::catalog"
  | .connection => "ldap_rdbm::drivers"
  | .mysqlSession => "ldap_rdbm::drivers::mysql::store"
  | .pgsqlSession => "ldap_rdbm::drivers::postgres::store"
  | .reflector => "ldap_rdbm::directory::reflector"
  | .locator => "ldap_rdbm::directory::locator"
  | .search => "ldap_rdbm::directory::search"
  | .configuration => "ldap_rdbm::directory::config_ops"
  | .directory => "ldap_rdbm::directory"
  | .ldifReader => "ldap_rdbm::ldif::reader"
  | .ldifApply => "ldap_rdbm::ldif::apply"

structure Event where
  level : Level
  origin : Origin
  text : String
deriving DecidableEq

/-- Events in order of time. -/
abbrev Log := List Event

namespace Event

def debug (origin : Origin) (text : String) : Event := ⟨.debug, origin, text⟩

def info (origin : Origin) (text : String) : Event := ⟨.info, origin, text⟩

def warn (origin : Origin) (text : String) : Event := ⟨.warn, origin, text⟩

def error (origin : Origin) (text : String) : Event := ⟨.error, origin, text⟩

/-- An event as a line of a log file, the time of day left out. -/
def line (e : Event) : String :=
  "[" ++ Text.padRight 5 e.level.name ++ "] " ++ e.origin.target ++ ": " ++ e.text

end Event

end RelDirectory
