import RelDirectory.Json

/-!
# JSON documents as written

A document keeps what a JSON value forgets: the order and repetition of members, and the places
where a text is grammatical but denotes nothing (a number out of range, an escape of half a
surrogate pair).  `toJson?` gives the value, with the last of repeated members; it refuses what
denotes nothing and what is nested more than 127 deep.
-/
set_option autoImplicit false
namespace RelDirectory.Json

inductive Document where
  | null
  | bool (b : Bool)
  | number (n : Option Number)
  | string (s : Option String)
  | array (items : List Document)
  | object (fields : List (Option String × Document))

namespace Document

instance : Inhabited Document := ⟨null⟩

/-- The deepest nesting of arrays and objects that has a value. -/
def greatestDepth : Nat := 127

mutual

/-- The value of a document inside which at most `room` more levels may open. -/
def valueWithin : Nat → Document → Option Json
  | _, .null => some .null
  | _, .bool b => some (.bool b)
  | _, .number n => n.map .number
  | _, .string s => s.map .string
  | 0, .array _ => none
  | 0, .object _ => none
  | room + 1, .array items => (itemsWithin room items).map .array
  | room + 1, .object fields => (fieldsWithin room fields).map ofFields

def itemsWithin : Nat → List Document → Option (List Json)
  | _, [] => some []
  | room, item :: items => do
    let value ← valueWithin room item
    let values ← itemsWithin room items
    pure (value :: values)

def fieldsWithin : Nat → List (Option String × Document) → Option (List (String × Json))
  | _, [] => some []
  | room, (key, item) :: fields => do
    let key ← key
    let value ← valueWithin room item
    let values ← fieldsWithin room fields
    pure ((key, value) :: values)

end

def toJson? (d : Document) : Option Json := valueWithin greatestDepth d

mutual

def ofJson : Json → Document
  | .null => .null
  | .bool b => .bool b
  | .number n => .number (some n)
  | .string s => .string (some s)
  | .array items => .array (ofItems items)
  | .object fields => .object (ofFields fields)

def ofItems : List Json → List Document
  | [] => []
  | item :: items => ofJson item :: ofItems items

def ofFields : List (String × Json) → List (Option String × Document)
  | [] => []
  | (key, value) :: fields => (some key, ofJson value) :: ofFields fields

end

end Document

end RelDirectory.Json
