import RelDirectory.Table

/-!
# Change records

What a change file says about one entry: its name, and attributes with their values in the order
in which they were first met.  `operation` is what the record asks for.
-/
set_option autoImplicit false
namespace RelDirectory

structure ChangeRecord where
  dn : String
  entry : List (String × List String)
deriving DecidableEq

inductive ChangeOperation where
  | create
  | add (name : String)
  | replace (name : String)
  | unsupported (kind : String)
deriving DecidableEq

namespace ChangeRecord

def changeType : String := "changetype"

def new (dn : String) : ChangeRecord := ⟨dn, []⟩

/-- One more value for an attribute, which joins the entry if it is not there yet. -/
def pushValue (name value : String) : List (String × List String) → List (String × List String)
  | [] => [(name, [value])]
  | (n, values) :: rest =>
    if n = name then (n, values ++ [value]) :: rest else (n, values) :: pushValue name value rest

def push (r : ChangeRecord) (name value : String) : ChangeRecord :=
  { r with entry := pushValue name value r.entry }

def values? (r : ChangeRecord) (name : String) : Option (List String) :=
  (r.entry.find? (·.1 == name)).map (·.2)

def first? (r : ChangeRecord) (name : String) : Option String :=
  (r.values? name).bind List.head?

/-- The object classes, letter case of the attribute's name aside. -/
def classes (r : ChangeRecord) : List String :=
  ((r.entry.find? fun a => Text.sameLetters a.1 classColumn).map (·.2)).getD []

/-- The attributes that a new entry stores. -/
def dataAttributes (r : ChangeRecord) : List (String × List String) :=
  r.entry.filter fun a =>
    !Text.sameLetters a.1 classColumn && !Text.sameLetters a.1 changeType

/-- Without a change type, or with `add`, a record is a new entry; with `modify` its `add` or
else its `replace` names the attribute to change. -/
def operation (r : ChangeRecord) : ChangeOperation :=
  match r.first? changeType with
  | none => .create
  | some kind =>
    let lowered := Text.lower kind
    if lowered = "add" then .create
    else if lowered = "modify" then
      match r.first? "add", r.first? "replace" with
      | some name, _ => .add name
      | none, some name => .replace name
      | none, none => .unsupported kind
    else .unsupported lowered

end ChangeRecord

end RelDirectory
