import RelDirectory.Backend
import RelDirectory.Text.Quoted
import RelDirectory.Text.Split

/-!
# Quoted identifiers

Names of tables and columns cannot be bound as parameters, so each one that enters a statement
is checked and quoted: it stands between two marks, and a mark inside it is written twice.
-/
set_option autoImplicit false
namespace RelDirectory.Identifier

/-- Why a name is no identifier. -/
inductive Fault where
  | empty
  | nullByte (name : String)
  | tooLong (name : String)
  | other (text : String)
deriving DecidableEq

def greatestLength : Nat := 64

def Fault.message : Fault → String
  | .empty => "identifier cannot be empty"
  | .nullByte name => "identifier contains null byte: " ++ Text.quoted name
  | .tooLong name =>
    "identifier exceeds maximum length of " ++ toString greatestLength ++ " bytes (got " ++
      toString name.utf8ByteSize ++ " bytes): " ++ Text.quoted name
  | .other text => text

/-- A name has 1 to 64 bytes, none of them zero. -/
def validate (name : String) : Except Fault Unit :=
  if name = "" then .error .empty
  else if name.toList.contains (Char.ofNat 0) then .error (.nullByte name)
  else if greatestLength < name.utf8ByteSize then .error (.tooLong name)
  else .ok ()

/-- The mark that opens and closes an identifier. -/
def mark : Backend → Char
  | .mysql => '\x60'
  | .pgsql => '"'

def enclose (mark : Char) (name : List Char) : List Char :=
  mark :: (Text.replaceChar mark [mark, mark] name ++ [mark])

def quote (b : Backend) (name : String) : Except Fault String := do
  validate name
  pure (String.ofList (enclose (mark b) name.toList))

end RelDirectory.Identifier
