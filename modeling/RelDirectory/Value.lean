import RelDirectory.Json.Printer
import RelDirectory.Word64

/-!
# Column values

What a column of a row holds.  Several directory values share one column inside a container, a
JSON object with the values as a list under its key `v`.
-/
set_option autoImplicit false
namespace RelDirectory

inductive Value where
  | null
  | int (n : Int)
  | text (s : String)
  | json (document : Json)
deriving DecidableEq

namespace Value

instance : Inhabited Value := ⟨null⟩

def containerKey : String := "v"

def container (items : List Json) : Value := .json (.object [(containerKey, .array items)])

def emptyContainer : Value := container []

def ofStrings (values : List String) : Value := container (values.map .string)

/-- The items of a container. -/
def items? : Value → Option (List Json)
  | .json document => (document.get? containerKey).bind Json.items?
  | _ => none

def isNull : Value → Bool
  | .null => true
  | _ => false

def text? : Value → Option String
  | .text s => some s
  | _ => none

def int? : Value → Option Int
  | .int n => some n
  | _ => none

def json? : Value → Option Json
  | .json document => some document
  | _ => none

/-- The value as one line of text. -/
def display : Value → String
  | .null => "NULL"
  | .int n => toString n
  | .text s => s
  | .json document => document.compact

def toJson : Value → Json
  | .null => .null
  | .int n => .ofInt n
  | .text s => .string s
  | .json document => document

/-- The plainest value for a JSON value: null, a whole number of 64 bits and a string become a
column value of their own, all else stays JSON. -/
def ofJson : Json → Value
  | .null => .null
  | .number (.int n) =>
    if Word64.FitsSigned n then .int n else .json (.ofInt n)
  | .string s => .text s
  | document => .json document

@[simp] theorem items?_container (items : List Json) : (container items).items? = some items := by
  simp [items?, container, Json.get?, Keyed.find?, Json.items?]

end Value

end RelDirectory
