import RelDirectory.Text.Digits

/-!
# UTF-8

`decode?` refuses bytes that are not UTF-8.  `decodeLossy` keeps what it can: each maximal run
of bytes that begins no character, or begins one that is broken off, becomes one U+FFFD.
-/
set_option autoImplicit false
namespace RelDirectory.Text.Utf8

def decode? (bytes : List UInt8) : Option String := String.fromUTF8? ⟨bytes.toArray⟩

def encode (s : String) : List UInt8 := s.toUTF8.toList

def replacement : Char := '\uFFFD'

/-- What a leading byte promises: how many bytes follow it, and the bounds of the first of them. -/
def expects (b : Nat) : Option (Nat × Nat × Nat) :=
  if 0xC2 ≤ b ∧ b ≤ 0xDF then some (1, 0x80, 0xBF)
  else if b = 0xE0 then some (2, 0xA0, 0xBF)
  else if b = 0xED then some (2, 0x80, 0x9F)
  else if 0xE1 ≤ b ∧ b ≤ 0xEF then some (2, 0x80, 0xBF)
  else if b = 0xF0 then some (3, 0x90, 0xBF)
  else if 0xF1 ≤ b ∧ b ≤ 0xF3 then some (3, 0x80, 0xBF)
  else if b = 0xF4 then some (3, 0x80, 0x8F)
  else none

/-- The bits that a leading byte gives to its character. -/
def leadBits (b : Nat) : Nat :=
  if b < 0xE0 then b % 32 else if b < 0xF0 then b % 16 else b % 8

/-- Where the reader stands: between characters, or inside one that has read `bits` so far and
needs `owed` more bytes, the next between `lo` and `hi`. -/
inductive Reading where
  | between
  | inside (bits owed lo hi : Nat)

def start (b : Nat) : List Char × Reading :=
  if b < 0x80 then ([Char.ofNat b], .between)
  else
    match expects b with
    | some (owed, lo, hi) => ([], .inside (leadBits b) owed lo hi)
    | none => ([replacement], .between)

/-- The characters that one more byte completes, and where it leaves the reader. -/
def step : Reading → Nat → List Char × Reading
  | .between, b => start b
  | .inside bits owed lo hi, b =>
    if lo ≤ b ∧ b ≤ hi then
      let bits := bits * 64 + b % 64
      if owed ≤ 1 then ([Char.ofNat bits], .between)
      else ([], .inside bits (owed - 1) 0x80 0xBF)
    else
      let (cs, reading) := start b
      (replacement :: cs, reading)

def decodeFrom : Reading → List UInt8 → List Char
  | .between, [] => []
  | .inside .., [] => [replacement]
  | reading, b :: bytes =>
    let (cs, next) := step reading b.toNat
    cs ++ decodeFrom next bytes

def decodeLossy (bytes : List UInt8) : String := String.ofList (decodeFrom .between bytes)

/-- Bytes written as pairs of hexadecimal digits. -/
def ofHex? : List Char → Option (List UInt8)
  | [] => some []
  | [_] => none
  | a :: b :: cs => do
    let high ← hexValue? a
    let low ← hexValue? b
    let rest ← ofHex? cs
    pure (UInt8.ofNat (high * 16 + low) :: rest)

end RelDirectory.Text.Utf8
