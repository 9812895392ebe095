/-!
# A place in a YAML text

The rest of a text with the line and column at which it begins, and the classes of characters
that decide where a token ends.
-/
set_option autoImplicit false
namespace RelDirectory.Yaml

structure Cursor where
  rest : List Char
  line : Nat
  column : Nat
  index : Nat

def isBreak (c : Char) : Bool :=
  c == '\n' || c == '\r' || c.toNat == 0x85 || c.toNat == 0x2028 || c.toNat == 0x2029

def isSpace (c : Char) : Bool := c == ' ' || c == '\t'

/-- Whether a text begins with a blank or a line break, or ends. -/
def startsBlank : List Char → Bool
  | [] => true
  | c :: _ => isSpace c || isBreak c

/-- Characters that a text may hold at all. -/
def isPrintable (c : Char) : Bool :=
  let n := c.toNat
  n == 0x09 || n == 0x0A || n == 0x0D || (0x20 ≤ n && n ≤ 0x7E) || n == 0x85 ||
    (0xA0 ≤ n && n ≤ 0xFFFD) || 0x10000 ≤ n

namespace Cursor

def start (cs : List Char) : Cursor := ⟨cs, 0, 0, 0⟩

/-- Past characters of the same line. -/
def skip (n : Nat) (c : Cursor) : Cursor :=
  { c with rest := c.rest.drop n, column := c.column + n, index := c.index + n }

/-- Past a line break, and the break as it counts in a value. -/
def skipBreak (c : Cursor) : List Char × Cursor :=
  match c.rest with
  | '\r' :: '\n' :: rest => (['\n'], ⟨rest, c.line + 1, 0, c.index + 2⟩)
  | b :: rest =>
    let text := if b.toNat == 0x2028 || b.toNat == 0x2029 then b else '\n'
    ([text], ⟨rest, c.line + 1, 0, c.index + 1⟩)
  | [] => ([], c)

/-- Whether a document marker stands here. -/
def atMarker (c : Cursor) : Bool :=
  c.column == 0 &&
    match c.rest with
    | '-' :: '-' :: '-' :: rest => startsBlank rest
    | '.' :: '.' :: '.' :: rest => startsBlank rest
    | _ => false

end Cursor

end RelDirectory.Yaml
