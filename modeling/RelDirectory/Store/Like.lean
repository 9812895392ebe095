/-!
# Patterns

A pattern matches a text character by character, except that `%` stands for any run of
characters and `_` for any one.
-/
set_option autoImplicit false
namespace RelDirectory.Like

/-- The text and everything that is left of it when characters are dropped from its front. -/
def suffixes : List Char → List (List Char)
  | [] => [[]]
  | c :: cs => (c :: cs) :: suffixes cs

def accepts : List Char → List Char → Bool
  | [], text => text.isEmpty
  | p :: ps, text =>
    if p = '%' then (suffixes text).any fun rest => accepts ps rest
    else
      match text with
      | [] => false
      | c :: cs => (p == '_' || p == c) && accepts ps cs

def matchesPattern (pattern text : String) : Bool := accepts pattern.toList text.toList

end RelDirectory.Like
