/-!
# Binary floating point numbers of 64 bits

A finite number is a sign, a significand and an exponent of two, the significand below 2^53 and
at least 2^52 unless the exponent is the least one.  `round` takes a fraction to the nearest
number, and of two equally near ones to the one with an even significand; the operations are
exact fractions rounded once.
-/
set_option autoImplicit false
namespace RelDirectory

/-- The number `significand * 2 ^ exponent`, negated if `negative`. -/
structure Binary64 where
  negative : Bool
  significand : Nat
  exponent : Int
deriving DecidableEq, Repr

namespace Binary64

def leastExponent : Int := -1074

def greatestExponent : Int := 971

/-- The least significand of 53 bits. -/
def leastNormal : Nat := Nat.pow 2 52

def zero (negative : Bool) : Binary64 := ⟨negative, 0, leastExponent⟩

/-- The fraction `num / den` in units of `2 ^ exponent`, again as a fraction. -/
def scale (num den : Nat) (exponent : Int) : Nat × Nat :=
  if exponent < 0 then (num * Nat.pow 2 (-exponent).toNat, den)
  else (num, den * Nat.pow 2 exponent.toNat)

/-- The whole number nearest to `num / den`; a tie goes to the even one. -/
def nearest (num den : Nat) : Nat :=
  let q := num / den
  let r := num % den
  if 2 * r < den then q
  else if den < 2 * r then q + 1
  else if q % 2 = 0 then q else q + 1

/-- The exponent at which `num / den` has a significand of 53 bits, if that is not too small. -/
def exponentFor (num den : Nat) : Int :=
  let guess : Int := (Nat.log2 num : Int) - (Nat.log2 den : Int) - 52
  let (n, d) := scale num den guess
  max leastExponent (if n / d < leastNormal then guess - 1 else guess)

/-- The number nearest to `num / den`, or none if that is beyond the greatest one. -/
def round (negative : Bool) (num den : Nat) : Option Binary64 :=
  if num = 0 then some (zero negative)
  else
    let e := exponentFor num den
    let (n, d) := scale num den e
    let m := nearest n d
    let (m, e) := if m = 2 * leastNormal then (leastNormal, e + 1) else (m, e)
    if greatestExponent < e then none else some ⟨negative, m, e⟩

/-- The magnitude as a fraction. -/
def fraction (x : Binary64) : Nat × Nat :=
  if x.exponent < 0 then (x.significand, Nat.pow 2 (-x.exponent).toNat)
  else (x.significand * Nat.pow 2 x.exponent.toNat, 1)

def mul (x y : Binary64) : Option Binary64 :=
  let (a, b) := x.fraction
  let (c, d) := y.fraction
  round (x.negative != y.negative) (a * c) (b * d)

/-- The quotient; `y` is not zero. -/
def div (x y : Binary64) : Option Binary64 :=
  let (a, b) := x.fraction
  let (c, d) := y.fraction
  round (x.negative != y.negative) (a * d) (b * c)

def isZero (x : Binary64) : Bool := x.significand == 0

end Binary64

end RelDirectory
