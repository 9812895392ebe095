import RelDirectory.Text.Case.Table

/-!
# Letter case

`lower` is full lower-casing: `İ` becomes two characters, and a capital sigma that ends a word
becomes a final one.  `upper` is upper-casing as far as it yields ASCII letters: every character
whose upper-case form has none stays as it is, so comparing the result with an ASCII text is the
same as comparing the full upper-case form.  `sameLetters` compares up to the case of ASCII
letters only.
-/
set_option autoImplicit false
namespace RelDirectory.Text

/-- Characters outside ASCII whose upper-case form is ASCII letters. -/
def upperPoints : List (Nat × List Char) :=
  [(0xDF, ['S', 'S']), (0x131, ['I']), (0x17F, ['S']), (0xFB00, ['F', 'F']),
   (0xFB01, ['F', 'I']), (0xFB02, ['F', 'L']), (0xFB03, ['F', 'F', 'I']),
   (0xFB04, ['F', 'F', 'L']), (0xFB05, ['S', 'T']), (0xFB06, ['S', 'T'])]

def upperChar (c : Char) : List Char :=
  if c.toNat < 128 then [c.toUpper]
  else ((upperPoints.find? fun p => p.1 == c.toNat).map (·.2)).getD [c]

def upper (cs : List Char) : List Char := cs.flatMap upperChar

def lowerChar (c : Char) : List Char :=
  if c.toNat < 128 then [c.toLower]
  else if c.toNat = 0x130 then ['i', Char.ofNat 0x307]
  else
    match lowerRuns.find? fun (first, last, stride, _) =>
        first ≤ c.toNat && c.toNat ≤ last && (c.toNat - first) % stride == 0 with
    | some (_, _, _, offset) => [Char.ofNat ((c.toNat : Int) + offset).toNat]
    | none => [c]

/-- Whether the nearest character that is not ignored for case is a letter with case. -/
def meetsLetter (cs : List Char) : Bool :=
  match cs.dropWhile fun c => inRanges ignoredRanges c.toNat with
  | c :: _ => inRanges casedRanges c.toNat
  | [] => false

/-- Lower-casing of `cs`, where `before` is the text in front of it in reverse. -/
def lowerAfter (before : List Char) : List Char → List Char
  | [] => []
  | c :: cs =>
    let low :=
      if c.toNat = 0x3A3 then
        [Char.ofNat (if meetsLetter before && !meetsLetter cs then 0x3C2 else 0x3C3)]
      else lowerChar c
    low ++ lowerAfter (c :: before) cs

def lower (s : String) : String := String.ofList (lowerAfter [] s.toList)

def sameLetters (a b : String) : Bool :=
  a.toList.map Char.toLower == b.toList.map Char.toLower

end RelDirectory.Text
