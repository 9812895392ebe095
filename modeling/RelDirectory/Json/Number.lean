import RelDirectory.Json
import RelDirectory.Text.Digits
import RelDirectory.Word64

/-!
# The value of a number as written

Without fraction and exponent a number that fits 64 bits (with a sign, or without one) is whole;
`-0` and all others are binary floating point.  Of those the first digits that fit 64 bits are
rounded to a binary number, and the power of ten that remains is then multiplied or divided in,
each step rounding once.  A number beyond the greatest one has no value.
-/
set_option autoImplicit false
namespace RelDirectory

/-- The parts of a number as written, the exponent with its sign. -/
structure NumberText where
  negative : Bool
  whole : List Char
  decimals : Option (List Char)
  exponent : Option (Bool × List Char)

namespace NumberText

/-- The digits taken in so far: their value, the power of ten of the last, and whether a digit
has been left out because it no longer fit. -/
structure Taken where
  significand : Nat
  power : Int
  full : Bool

def takeWhole (t : Taken) (c : Char) : Taken :=
  let next := t.significand * 10 + Text.digitValue c
  if t.full ∨ Word64.count ≤ next then { t with power := t.power + 1, full := true }
  else { t with significand := next }

def takeDecimal (t : Taken) (c : Char) : Taken :=
  let next := t.significand * 10 + Text.digitValue c
  if t.full ∨ Word64.count ≤ next then { t with full := true }
  else { t with significand := next, power := t.power - 1 }

/-- The power `10 ^ n` as a binary number, for `n` up to 308. -/
def powerOfTen (n : Nat) : Option Binary64 := Binary64.round false (Nat.pow 10 n) 1

/-- `x * 10 ^ power`, in steps of at most 308 powers downwards; upwards there is only one. -/
def applyPower : Nat → Binary64 → Int → Option Binary64
  | 0, _, _ => none
  | fuel + 1, x, power =>
    if power.natAbs ≤ 308 then do
      let p ← powerOfTen power.natAbs
      if 0 ≤ power then x.mul p else x.div p
    else if x.isZero then some x
    else if 0 ≤ power then none
    else do
      let p ← powerOfTen 308
      applyPower fuel (← x.div p) (power + 308)

def binary (negative : Bool) (significand : Nat) (power : Int) : Option Number := do
  let x ← Binary64.round false significand 1
  let x ← applyPower 8 x power
  pure (.float { x with negative := negative })

/-- The greatest exponent that is read as a number; a greater one is only too great. -/
def greatestExponent : Nat := 0x7FFFFFFF

def value (t : NumberText) : Option Number :=
  let whole := t.whole.foldl takeWhole ⟨0, 0, false⟩
  match t.decimals, t.exponent with
  | none, none =>
    if whole.full then binary t.negative whole.significand whole.power
    else if ¬ t.negative then some (.int whole.significand)
    else if whole.significand = 0 ∨ Word64.half < whole.significand then
      binary true whole.significand 0
    else some (.int (-whole.significand))
  | decimals, exponent =>
    let taken := (decimals.getD []).foldl takeDecimal { whole with full := false }
    match exponent with
    | none => binary t.negative taken.significand taken.power
    | some (down, digits) =>
      let e := Text.ofDigits 10 (digits.map Text.digitValue)
      if greatestExponent < e then
        if taken.significand ≠ 0 ∧ ¬ down then none
        else some (.float (Binary64.zero t.negative))
      else
        let power := if down then taken.power - e else taken.power + e
        let power := max (-(greatestExponent : Int) - 1) (min (greatestExponent : Int) power)
        binary t.negative taken.significand power

end NumberText

end RelDirectory
