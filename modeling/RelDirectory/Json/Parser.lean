import RelDirectory.Json.Document
import RelDirectory.Json.Number

/-!
# Reading JSON

`Document.parse?` reads a text that is one JSON value with nothing around it but blanks.  Every
step takes the rest of the text and gives what it read and the rest after it; twice the
number of characters bounds the steps.
-/
set_option autoImplicit false
namespace RelDirectory.Json.Read

def isSpace (c : Char) : Bool := c == ' ' || c == '\n' || c == '\t' || c == '\r'

def skipSpace (cs : List Char) : List Char := cs.dropWhile isSpace

/-- The digits of a number: `0` alone, or a run that starts with another digit. -/
def wholeDigits? : List Char → Option (List Char × List Char)
  | '0' :: cs => if (cs.head?.map Text.isDigit).getD false then none else some (['0'], cs)
  | cs =>
    match cs.takeWhile Text.isDigit with
    | [] => none
    | ds => some (ds, cs.dropWhile Text.isDigit)

def someDigits? (cs : List Char) : Option (List Char × List Char) :=
  match cs.takeWhile Text.isDigit with
  | [] => none
  | ds => some (ds, cs.dropWhile Text.isDigit)

def decimals? : List Char → Option (Option (List Char) × List Char)
  | '.' :: cs => (someDigits? cs).map fun (ds, cs) => (some ds, cs)
  | cs => some (none, cs)

def exponentDigits? : List Char → Option ((Bool × List Char) × List Char)
  | '-' :: cs => (someDigits? cs).map fun (ds, cs) => ((true, ds), cs)
  | '+' :: cs => (someDigits? cs).map fun (ds, cs) => ((false, ds), cs)
  | cs => (someDigits? cs).map fun (ds, cs) => ((false, ds), cs)

def exponent? : List Char → Option (Option (Bool × List Char) × List Char)
  | 'e' :: cs => (exponentDigits? cs).map fun (e, cs) => (some e, cs)
  | 'E' :: cs => (exponentDigits? cs).map fun (e, cs) => (some e, cs)
  | cs => some (none, cs)

def number? (cs : List Char) : Option (NumberText × List Char) := do
  let (negative, cs) := match cs with
    | '-' :: cs => (true, cs)
    | cs => (false, cs)
  let (whole, cs) ← wholeDigits? cs
  let (decimals, cs) ← decimals? cs
  let (exponent, cs) ← exponent? cs
  pure (⟨negative, whole, decimals, exponent⟩, cs)

/-- A piece of a string: a character, or a code unit written as `\uXXXX`. -/
inductive Piece where
  | char (c : Char)
  | unit (n : Nat)

def unit? : List Char → Option (Nat × List Char)
  | a :: b :: c :: d :: cs => do
    let ds ← [a, b, c, d].mapM Text.hexValue?
    pure (Text.ofDigits 16 ds, cs)
  | _ => none

def escaped? : List Char → Option (Piece × List Char)
  | '"' :: cs => some (.char '"', cs)
  | '\\' :: cs => some (.char '\\', cs)
  | '/' :: cs => some (.char '/', cs)
  | 'b' :: cs => some (.char '\x08', cs)
  | 'f' :: cs => some (.char '\x0c', cs)
  | 'n' :: cs => some (.char '\n', cs)
  | 'r' :: cs => some (.char '\r', cs)
  | 't' :: cs => some (.char '\t', cs)
  | 'u' :: cs => (unit? cs).map fun (n, cs) => (.unit n, cs)
  | _ => none

/-- The pieces up to the closing quote. -/
def pieces? : Nat → List Char → Option (List Piece × List Char)
  | 0, _ => none
  | _, [] => none
  | _ + 1, '"' :: cs => some ([], cs)
  | fuel + 1, '\\' :: cs => do
    let (p, cs) ← escaped? cs
    let (ps, cs) ← pieces? fuel cs
    pure (p :: ps, cs)
  | fuel + 1, c :: cs =>
    if c.toNat < 0x20 then none
    else (pieces? fuel cs).map fun (ps, cs) => (.char c :: ps, cs)

/-- The text of the pieces; a unit that is half of a surrogate pair needs its other half. -/
def text? : List Piece → Option (List Char)
  | [] => some []
  | .char c :: ps => (text? ps).map (c :: ·)
  | .unit high :: .unit low :: ps =>
    if 0xD800 ≤ high ∧ high ≤ 0xDBFF then
      if 0xDC00 ≤ low ∧ low ≤ 0xDFFF then
        (text? ps).map (Char.ofNat ((high - 0xD800) * 1024 + (low - 0xDC00) + 0x10000) :: ·)
      else none
    else if 0xDC00 ≤ high ∧ high ≤ 0xDFFF then none
    else (text? (.unit low :: ps)).map (Char.ofNat high :: ·)
  | .unit n :: ps =>
    if 0xD800 ≤ n ∧ n ≤ 0xDFFF then none else (text? ps).map (Char.ofNat n :: ·)

/-- What follows an opening quote. -/
def string? (cs : List Char) : Option (Option String × List Char) :=
  (pieces? (cs.length + 1) cs).map fun (ps, cs) => ((text? ps).map String.ofList, cs)

def word? (word : String) (d : Document) (cs : List Char) : Option (Document × List Char) :=
  let w := word.toList
  if cs.take w.length = w then some (d, cs.drop w.length) else none

mutual

def value? : Nat → List Char → Option (Document × List Char)
  | 0, _ => none
  | fuel + 1, cs =>
    match skipSpace cs with
    | 'n' :: cs => word? "ull" .null cs
    | 't' :: cs => word? "rue" (.bool true) cs
    | 'f' :: cs => word? "alse" (.bool false) cs
    | '"' :: cs => (string? cs).map fun (s, cs) => (.string s, cs)
    | '[' :: cs =>
      match skipSpace cs with
      | ']' :: cs => some (.array [], cs)
      | cs => (items? fuel cs).map fun (items, cs) => (.array items, cs)
    | '\x7b' :: cs =>
      match skipSpace cs with
      | '\x7d' :: cs => some (.object [], cs)
      | cs => (fields? fuel cs).map fun (fields, cs) => (.object fields, cs)
    | cs => (number? cs).map fun (n, cs) => (.number n.value, cs)

/-- One or more values, separated by commas, and the closing bracket. -/
def items? : Nat → List Char → Option (List Document × List Char)
  | 0, _ => none
  | fuel + 1, cs => do
    let (item, cs) ← value? fuel cs
    match skipSpace cs with
    | ']' :: cs => pure ([item], cs)
    | ',' :: cs => do
      let (items, cs) ← items? fuel cs
      pure (item :: items, cs)
    | _ => none

/-- One or more members, separated by commas, and the closing brace. -/
def fields? : Nat → List Char → Option (List (Option String × Document) × List Char)
  | 0, _ => none
  | fuel + 1, cs =>
    match skipSpace cs with
    | '"' :: cs => do
      let (key, cs) ← string? cs
      match skipSpace cs with
      | ':' :: cs => do
        let (item, cs) ← value? fuel cs
        match skipSpace cs with
        | '\x7d' :: cs => pure ([(key, item)], cs)
        | ',' :: cs => do
          let (fields, cs) ← fields? fuel cs
          pure ((key, item) :: fields, cs)
        | _ => none
      | _ => none
    | _ => none

end

end RelDirectory.Json.Read

namespace RelDirectory.Json

def Document.parse? (s : String) : Option Document :=
  match Read.value? (2 * s.length + 2) s.toList with
  | some (d, rest) => if (Read.skipSpace rest).isEmpty then some d else none
  | none => none

/-- The value of a JSON text. -/
def parse? (s : String) : Option Json := (Document.parse? s).bind Document.toJson?

end RelDirectory.Json
