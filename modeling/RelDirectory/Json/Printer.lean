import RelDirectory.Json
import RelDirectory.Binary64.Shortest
import RelDirectory.Text.Digits

/-!
# Writing JSON

`compact` writes a value on one line without spaces, `pretty` over several lines, each level
indented by two spaces.  Members are written in the order in which the value has them.
-/
set_option autoImplicit false
namespace RelDirectory.Json

def escape (c : Char) : List Char :=
  if c = '"' then ['\\', '"']
  else if c = '\\' then ['\\', '\\']
  else if c = '\n' then ['\\', 'n']
  else if c = '\r' then ['\\', 'r']
  else if c = '\t' then ['\\', 't']
  else if c = '\x08' then ['\\', 'b']
  else if c = '\x0c' then ['\\', 'f']
  else if c.toNat < 0x20 then
    ['\\', 'u', '0', '0'] ++ List.replicate (2 - (Text.hex c.toNat).length) '0' ++ Text.hex c.toNat
  else [c]

def quote (s : String) : String :=
  String.ofList ('"' :: (s.toList.flatMap escape ++ ['"']))

/-- Digits with the first of them worth `10 ^ lead`: positional with at least one digit after the
point if `lead` is from -5 to 15, else with an exponent. -/
def floatText (x : Binary64) : String :=
  let ⟨ds, lead⟩ := x.shortest
  let body : List Char :=
    if x.isZero then ['0', '.', '0']
    else if lead < -5 ∨ 15 < lead then
      let tail := ds.drop 1
      ds.take 1 ++ (if tail.isEmpty then [] else '.' :: tail) ++ ('e' :: (toString lead).toList)
    else if lead < 0 then
      ['0', '.'] ++ List.replicate ((-lead).toNat - 1) '0' ++ ds
    else
      let whole := lead.toNat + 1
      let tail := ds.drop whole
      ds.take whole ++ List.replicate (whole - ds.length) '0' ++
        ('.' :: if tail.isEmpty then ['0'] else tail)
  String.ofList (if x.negative then '-' :: body else body)

def numberText : Number → String
  | .int n => toString n
  | .float x => floatText x

mutual

def compact : Json → String
  | .null => "null"
  | .bool b => if b then "true" else "false"
  | .number n => numberText n
  | .string s => quote s
  | .array items => "[" ++ ",".intercalate (compactItems items) ++ "]"
  | .object fields => "\x7b" ++ ",".intercalate (compactFields fields) ++ "\x7d"

def compactItems : List Json → List String
  | [] => []
  | item :: items => compact item :: compactItems items

def compactFields : List (String × Json) → List String
  | [] => []
  | (key, value) :: fields => (quote key ++ ":" ++ compact value) :: compactFields fields

end

def indent (depth : Nat) : String := String.ofList (List.replicate (2 * depth) ' ')

/-- Lines between an opening and a closing mark, one level deeper than the marks. -/
def block (opening closing : String) (depth : Nat) (entries : List String) : String :=
  if entries.isEmpty then opening ++ closing
  else
    opening ++ "\n" ++ ",\n".intercalate (entries.map (indent (depth + 1) ++ ·)) ++ "\n" ++
      indent depth ++ closing

mutual

def prettyAt (depth : Nat) : Json → String
  | .array items => block "[" "]" depth (prettyItems (depth + 1) items)
  | .object fields => block "\x7b" "\x7d" depth (prettyFields (depth + 1) fields)
  | .null => "null"
  | .bool b => if b then "true" else "false"
  | .number n => numberText n
  | .string s => quote s

def prettyItems (depth : Nat) : List Json → List String
  | [] => []
  | item :: items => prettyAt depth item :: prettyItems depth items

def prettyFields (depth : Nat) : List (String × Json) → List String
  | [] => []
  | (key, value) :: fields =>
    (quote key ++ ": " ++ prettyAt depth value) :: prettyFields depth fields

end

def pretty (value : Json) : String := prettyAt 0 value

end RelDirectory.Json
