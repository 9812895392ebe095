/-!
# Words of 64 bits

How many words there are, and which whole numbers are the value of a word with a sign.
-/
set_option autoImplicit false
namespace RelDirectory.Word64

/-- How many words there are. -/
def count : Nat := 0x10000000000000000

/-- The least number that is too great for a word with a sign. -/
def half : Nat := 0x8000000000000000

def FitsSigned (n : Int) : Prop := -(half : Int) ≤ n ∧ n < half

instance (n : Int) : Decidable (FitsSigned n) :=
  inferInstanceAs (Decidable (-(half : Int) ≤ n ∧ n < half))

/-- The number with the same last 64 bits that a word with a sign has. -/
def wrap (n : Int) : Int := Int.bmod n count

end RelDirectory.Word64
