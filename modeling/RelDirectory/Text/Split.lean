/-!
# Cutting text

`cutAt sep` cuts at the first separator and `split sep` at every one; `lines` are the pieces
between line ends.
-/
set_option autoImplicit false
namespace RelDirectory.Text

/-- The text before the first `sep` and the text after it. -/
def cutAt (sep : Char) : List Char → Option (List Char × List Char)
  | [] => none
  | c :: cs =>
    if c = sep then some ([], cs)
    else (cutAt sep cs).map fun (before, after) => (c :: before, after)

/-- The pieces between separators: one more than there are separators. -/
def split (sep : Char) : List Char → List (List Char)
  | [] => [[]]
  | c :: cs =>
    if c = sep then [] :: split sep cs
    else
      match split sep cs with
      | [] => [[c]]
      | piece :: pieces => (c :: piece) :: pieces

/-- `new` for every `old`. -/
def replaceChar (old : Char) (new : List Char) (cs : List Char) : List Char :=
  cs.flatMap fun c => if c = old then new else [c]

/-- Lines end with a line feed, which may follow a carriage return; the last line may lack it.
A text that is empty after its last line feed has no further line. -/
def lines (cs : List Char) : List (List Char) :=
  let pieces := split '\n' cs
  let ended := pieces.dropLast.map fun l =>
    if l.getLast? = some '\r' then l.dropLast else l
  match pieces.getLast? with
  | some (c :: cs) => ended ++ [c :: cs]
  | _ => ended

/-- The text with blanks added on the right up to `width` characters. -/
def padRight (width : Nat) (s : String) : String :=
  s ++ String.ofList (List.replicate (width - s.length) ' ')

theorem split_ne_nil (sep : Char) (cs : List Char) : split sep cs ≠ [] := by
  cases cs with
  | nil => simp [split]
  | cons c cs =>
    simp only [split]
    split
    · simp
    · split <;> simp

end RelDirectory.Text
