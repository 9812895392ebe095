import RelDirectory.Binary64

/-!
# Shortest decimal digits

The fewest decimal digits that read back as a given number: on the decimal grids of 1, 2, … 17
digits in turn, the first grid that has a point nearer to the number than to any other, and on
that grid the point nearest to it.
-/
set_option autoImplicit false
namespace RelDirectory.Binary64

/-- Decimal digits without a leading or trailing zero, and the power of ten of the first. -/
structure Digits where
  digits : List Char
  lead : Int

/-- The power of ten of the first digit of `num / den`, neither being zero. -/
def leadOf (num den : Nat) : Int :=
  let whole := num / den
  if 0 < whole then ((Nat.toDigits 10 whole).length : Int) - 1
  else
    let rec below (fuel : Nat) (n : Nat) (lead : Int) : Int :=
      match fuel with
      | 0 => lead
      | fuel + 1 => if den ≤ n then lead else below fuel (n * 10) (lead - 1)
    below 400 (num * 10) (-1)

/-- The ends, as multiples of a quarter unit of the significand, of the range of reals that
round to `x`. -/
def range (x : Binary64) : Nat × Nat :=
  let low := if x.significand = leastNormal ∧ leastExponent < x.exponent then 1 else 2
  (4 * x.significand - low, 4 * x.significand + 2)

/-- `n * 10 ^ e` as a fraction. -/
def decimalFraction (n : Nat) (e : Int) : Nat × Nat :=
  if e < 0 then (n, Nat.pow 10 (-e).toNat) else (n * Nat.pow 10 e.toNat, 1)

/-- Whether `n * 10 ^ e` rounds to `x`. -/
def readsBack (x : Binary64) (n : Nat) (e : Int) : Bool :=
  let (low, high) := x.range
  let (num, den) := decimalFraction n e
  let (a, b) := scale num den (x.exponent - 2)
  if x.significand % 2 = 0 then low * b ≤ a && a ≤ high * b else low * b < a && a < high * b

/-- The point of the grid of `10 ^ e` that is written for `x`, if the grid has one. -/
def onGrid (x : Binary64) (e : Int) : Option Nat :=
  let (num, den) := x.fraction
  let (n, d) :=
    if e < 0 then (num * Nat.pow 10 (-e).toNat, den) else (num, den * Nat.pow 10 e.toNat)
  let q := n / d
  let best := nearest n d
  let other := if best = q then q + 1 else q
  if readsBack x best e then some best
  else if readsBack x other e then some other
  else none

def search (x : Binary64) (lead : Int) : Nat → Nat → Option (Nat × Int)
  | 0, _ => none
  | fuel + 1, count =>
    let e := lead - count + 1
    match onGrid x e with
    | some n => some (n, e)
    | none => search x lead fuel (count + 1)

def shortest (x : Binary64) : Digits :=
  if x.isZero then ⟨['0'], 0⟩
  else
    let (num, den) := x.fraction
    match search x (leadOf num den) 17 1 with
    | some (n, e) =>
      let ds := Nat.toDigits 10 n
      ⟨(ds.reverse.dropWhile (· == '0')).reverse, e + ds.length - 1⟩
    | none => ⟨['0'], 0⟩

end RelDirectory.Binary64
