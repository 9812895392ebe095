import RelDirectory.Text.Blank
import RelDirectory.Text.Split

/-!
# Distinguished names

A distinguished name is a list of `attribute=value` components, the most specific first, with
commas between them.  A comma inside a value stands behind a backslash or between double quotes.
A component keeps its value as written, which is what `root` writes again, beside the value that
it denotes.
-/
set_option autoImplicit false
namespace RelDirectory.Dn

/-- Why a text is no distinguished name. -/
inductive Fault where
  | danglingEscape
  | unterminatedQuote
  | noEquals (component : String)
  | noAttribute (component : String)
  | noComponent
deriving DecidableEq

/-- The words for the fault of `dn`. -/
def Fault.message (dn : String) : Fault → String
  | .danglingEscape => dn ++ " (dangling escape)"
  | .unterminatedQuote => dn ++ " (unterminated quote)"
  | .noEquals component => dn ++ " (component '" ++ component ++ "')"
  | .noAttribute component => dn ++ " (component '" ++ component ++ "' has no attribute)"
  | .noComponent => dn

structure Rdn where
  name : String
  value : String
  written : String
deriving DecidableEq

def Rdn.display (r : Rdn) : String := r.name ++ "=" ++ r.written

/-- The pieces with `cs` put in front of the first. -/
def prepend (cs : List Char) : List (List Char) → List (List Char)
  | [] => [cs]
  | piece :: pieces => (cs ++ piece) :: pieces

/-- The pieces between the commas that are neither escaped nor inside quotes. -/
def pieces : Bool → List Char → Except Fault (List (List Char))
  | inQuotes, [] => if inQuotes then .error .unterminatedQuote else .ok [[]]
  | _, ['\\'] => .error .danglingEscape
  | inQuotes, '\\' :: c :: cs => (pieces inQuotes cs).map (prepend ['\\', c])
  | inQuotes, '"' :: cs => (pieces (!inQuotes) cs).map (prepend ['"'])
  | inQuotes, c :: cs =>
    if c = ',' ∧ inQuotes = false then (pieces inQuotes cs).map ([] :: ·)
    else (pieces inQuotes cs).map (prepend [c])

/-- The components as written; a blank text has none. -/
def components (cs : List Char) : Except Fault (List (List Char)) := do
  match ← pieces false cs with
  | [piece] => pure (if Text.allBlank piece then [] else [piece])
  | many => pure many

def unescape : List Char → List Char
  | [] => []
  | ['\\'] => []
  | '\\' :: c :: cs => c :: unescape cs
  | c :: cs => c :: unescape cs

/-- What stands between double quotes, if the text begins and ends with one each. -/
def unquote : List Char → List Char
  | '"' :: cs => if cs.getLast? = some '"' then cs.dropLast else '"' :: cs
  | cs => cs

/-- The value that a written value denotes. -/
def denote (written : List Char) : List Char := unescape (unquote written)

def rdn (component : List Char) : Except Fault Rdn :=
  match Text.cutAt '=' component with
  | none => .error (.noEquals (String.ofList component))
  | some (name, written) =>
    let name := Text.trim name
    let written := Text.trim written
    if name.isEmpty then .error (.noAttribute (String.ofList component))
    else .ok ⟨String.ofList name, String.ofList (denote written), String.ofList written⟩

def parse (dn : String) : Except Fault (List Rdn) := do
  (← components dn.toList).mapM rdn

/-- The name with its first component removed. -/
def root (dn : String) : Except Fault String := do
  let rdns ← parse dn
  pure (",".intercalate ((rdns.drop 1).map Rdn.display))

/-- The value of the first component. -/
def leaf (dn : String) : Except Fault String := do
  match ← parse dn with
  | [] => .error .noComponent
  | first :: _ => pure first.value

end RelDirectory.Dn
