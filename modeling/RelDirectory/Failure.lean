import RelDirectory.Coercion
import RelDirectory.Dn
import RelDirectory.Files
import RelDirectory.Identifier

/-!
# Failures

Every way in which an operation can fail, by its cause.  `message` puts a failure into words,
`detailed` adds the causes below it, and `exitCode` is what a command ends with.
-/
set_option autoImplicit false
namespace RelDirectory

/-- What is wrong with the settings or the options of a command. -/
inductive SettingsFault where
  | missing (field : String)
  | zeroPort
  | emptyExtraFile
  | badScope (text : String)
  | badFetch (text : String)
  | noLogFile (path : String) (cause : FileFault)
  | other (text : String)
deriving DecidableEq

def SettingsFault.message : SettingsFault → String
  | .missing field => field ++ " is required"
  | .zeroPort => "rdbm.port must be non-zero"
  | .emptyExtraFile => "schema.extra_files cannot contain empty paths"
  | .badScope text => "invalid scope '" ++ text ++ "'"
  | .badFetch text => "invalid fetch mode '" ++ text ++ "'"
  | .noLogFile path cause => "cannot open " ++ path ++ ": " ++ cause.message
  | .other text => text

/-- Why a schema document gave nothing. -/
inductive DocumentFault where
  | unreadable (cause : FileFault)
  | malformed
  | other (text : String)
deriving DecidableEq

def DocumentFault.message : DocumentFault → String
  | .unreadable cause => cause.message
  | .malformed => "malformed document"
  | .other text => text

/-- What is wrong with a line of a change file. -/
inductive LdifFault where
  | noColon (line : String)
  | noName
  | badBase64 (name : String)
  | notUtf8 (name : String)
  | notDn (name : String)
  | other (text : String)
deriving DecidableEq

def LdifFault.message : LdifFault → String
  | .noColon line => "missing ':' in '" ++ line ++ "'"
  | .noName => "empty attribute name"
  | .badBase64 name => "invalid base64 value for " ++ name
  | .notUtf8 name => "base64 value for " ++ name ++ " is not UTF-8"
  | .notDn name => "expected 'dn:' but found '" ++ name ++ "'"
  | .other text => text

inductive Failure where
  | settings (cause : SettingsFault)
  | document (path : String) (cause : DocumentFault)
  | coercion (cause : Coercion.Fault)
  | connection (context message : String)
  | query (context message : String)
  | badName (dn : String) (cause : Dn.Fault)
  | ldif (line : Nat) (cause : LdifFault)
  | noEntry (dn : String)
  | noTable (name : String)
  | noColumn (table column : String)
  | badIdentifier (cause : Identifier.Fault)
  | file (cause : FileFault)
  | yaml
  | json
deriving DecidableEq

namespace Failure

def message : Failure → String
  | .settings cause => "Configuration error: " ++ cause.message
  | .document path cause => "Failed to load schema document " ++ path ++ ": " ++ cause.message
  | .coercion (.noType name) => "No relational type mapping for attribute '" ++ name ++ "'"
  | .coercion (.badValue name value) =>
    "Invalid value '" ++ value ++ "' for attribute '" ++ name ++ "'"
  | .connection context text => "Connection error: " ++ text ++ "\n  Context: " ++ context
  | .query context text => "Query failed while " ++ context ++ ": " ++ text
  | .badName dn cause => "Invalid distinguished name: " ++ cause.message dn
  | .ldif line cause => "LDIF parse error at line " ++ toString line ++ ": " ++ cause.message
  | .noEntry dn => "No entry found for '" ++ dn ++ "'"
  | .noTable name => "Table '" ++ name ++ "' does not exist"
  | .noColumn table column => "Table '" ++ table ++ "' has no column '" ++ column ++ "'"
  | .badIdentifier cause => "Invalid identifier: " ++ cause.message
  | .file cause => "IO error: " ++ cause.message
  | .yaml => "YAML error"
  | .json => "JSON error"

/-- The words of the cause below a failure. -/
def cause? : Failure → Option String
  | .file cause => some cause.message
  | _ => none

def detailed (f : Failure) : String :=
  "Error: " ++ f.message ++ "\n" ++
    match f.cause? with
    | some cause => "\nCaused by:\n  1: " ++ cause
    | none => ""

def exitCode : Failure → Nat
  | .settings _ => 1
  | .yaml => 1
  | .connection .. => 2
  | .document .. => 3
  | .coercion (.noType _) => 3
  | .file _ => 7
  | _ => 4

end Failure

end RelDirectory
