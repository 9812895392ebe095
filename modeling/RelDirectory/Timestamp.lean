/-!
# Generalized time

A directory writes a point in time as `YYYYMMDDHHMMSS[.fff]Z`, a column as
`YYYY-MM-DD HH:MM:SS[.fff]`.  `toColumn` cuts at fixed places and never fails; it keeps three
characters after the seconds, the point among them.
-/
set_option autoImplicit false
namespace RelDirectory.Timestamp

def isZulu (c : Char) : Bool := c == 'Z'

def stripZulu (cs : List Char) : List Char :=
  ((cs.dropWhile isZulu).reverse.dropWhile isZulu).reverse

def slice (first last : Nat) (cs : List Char) : List Char := (cs.take last).drop first

def toColumnChars (cs : List Char) : List Char :=
  let cs := stripZulu cs
  slice 0 4 cs ++ ['-'] ++ slice 4 6 cs ++ ['-'] ++ slice 6 8 cs ++ [' '] ++ slice 8 10 cs ++
    [':'] ++ slice 10 12 cs ++ [':'] ++ slice 12 14 cs ++ slice 14 17 cs

def toColumn (s : String) : String := String.ofList (toColumnChars s.toList)

/-- Characters that a column has and a directory has not. -/
def isSeparator (c : Char) : Bool := c == '-' || c == ' ' || c == ':' || c == 'T'

def toDirectory (s : String) : String :=
  String.ofList (s.toList.filter (fun c => !isSeparator c) ++ ['Z'])

end RelDirectory.Timestamp
