import RelDirectory.Word64

/-!
# Decimal and hexadecimal digits

Reading numbers written in ASCII digits.
-/
set_option autoImplicit false
namespace RelDirectory.Text

def isDigit (c : Char) : Bool := '0' ≤ c && c ≤ '9'

def digitValue (c : Char) : Nat := c.toNat - '0'.toNat

/-- The value of a hexadecimal digit of either case. -/
def hexValue? (c : Char) : Option Nat :=
  if '0' ≤ c ∧ c ≤ '9' then some (c.toNat - '0'.toNat)
  else if 'a' ≤ c ∧ c ≤ 'f' then some (c.toNat - 'a'.toNat + 10)
  else if 'A' ≤ c ∧ c ≤ 'F' then some (c.toNat - 'A'.toNat + 10)
  else none

/-- The number that digits of base `base` write, most significant first. -/
def ofDigits (base : Nat) (ds : List Nat) : Nat := ds.foldl (fun n d => n * base + d) 0

/-- A non-empty run of decimal digits and nothing else. -/
def nat? (cs : List Char) : Option Nat :=
  if cs ≠ [] ∧ cs.all isDigit then some (ofDigits 10 (cs.map digitValue)) else none

/-- An optional sign and decimal digits, within 64 bits. -/
def int64? (cs : List Char) : Option Int :=
  let n? : Option Int :=
    match cs with
    | '-' :: ds => (nat? ds).map fun n => -(n : Int)
    | '+' :: ds => (nat? ds).map fun n => (n : Int)
    | ds => (nat? ds).map fun n => (n : Int)
  n?.filter fun n => decide (Word64.FitsSigned n)

/-- The lower-case hexadecimal digits of a number, without leading zeros. -/
def hex (n : Nat) : List Char := Nat.toDigits 16 n

/-- The decimal digits of a number, padded with zeros to `width`. -/
def padded (width n : Nat) : List Char :=
  let ds := Nat.toDigits 10 n
  List.replicate (width - ds.length) '0' ++ ds

end RelDirectory.Text
