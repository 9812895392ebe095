/-!
# Blanks

The characters with the `White_Space` property, and trimming by them.  A character that is
invisible without the property (U+200B, U+FEFF) is not blank.
-/
set_option autoImplicit false
namespace RelDirectory.Text

/-- The code points with the `White_Space` property. -/
def blankPoints : List Nat :=
  [0x09, 0x0A, 0x0B, 0x0C, 0x0D, 0x20, 0x85, 0xA0, 0x1680, 0x2000, 0x2001, 0x2002, 0x2003,
   0x2004, 0x2005, 0x2006, 0x2007, 0x2008, 0x2009, 0x200A, 0x2028, 0x2029, 0x202F, 0x205F,
   0x3000]

def isBlank (c : Char) : Bool := blankPoints.contains c.toNat

def trimStart (cs : List Char) : List Char := cs.dropWhile isBlank

def trimEnd (cs : List Char) : List Char := (cs.reverse.dropWhile isBlank).reverse

def trim (cs : List Char) : List Char := trimEnd (trimStart cs)

def allBlank (cs : List Char) : Bool := cs.all isBlank

end RelDirectory.Text
