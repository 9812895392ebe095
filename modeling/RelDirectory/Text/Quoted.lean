import RelDirectory.Text.Digits
import RelDirectory.Text.Quoted.Table

/-!
# Quoted text for messages

A text in double quotes on one line: quotes and backslashes are escaped, and so is every
character that shows nothing of its own.  A path is quoted the same way with its apostrophes
escaped too.
-/
set_option autoImplicit false
namespace RelDirectory.Text

def isHidden (c : Char) : Bool :=
  if c.toNat < 128 then c.toNat < 32 || c.toNat == 127
  else hiddenRanges.any fun (first, last) => first ≤ c.toNat && c.toNat ≤ last

def quotedChar (apostrophe : Bool) (c : Char) : List Char :=
  if c.toNat = 0 then ['\\', '0']
  else if c = '\t' then ['\\', 't']
  else if c = '\n' then ['\\', 'n']
  else if c = '\r' then ['\\', 'r']
  else if c = '\\' then ['\\', '\\']
  else if c = '"' then ['\\', '"']
  else if c = '\'' ∧ apostrophe then ['\\', '\'']
  else if isHidden c then ['\\', 'u', '\x7b'] ++ hex c.toNat ++ ['\x7d']
  else [c]

def quoted (s : String) : String :=
  String.ofList ('"' :: (s.toList.flatMap (quotedChar false) ++ ['"']))

def quotedPath (s : String) : String :=
  String.ofList ('"' :: (s.toList.flatMap (quotedChar true) ++ ['"']))

end RelDirectory.Text
