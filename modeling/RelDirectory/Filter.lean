import RelDirectory.Statement
import RelDirectory.Text.Split

/-!
# Search filters

Two shapes of filter are understood: one term `(attribute=value)`, and two of them joined as
`(&(a=b)(c=d))`.  A term on `objectClass` names the table to search; another term becomes a
condition, in which `*` stands for any run of characters.
-/
set_option autoImplicit false
namespace RelDirectory

namespace Filter

structure Term where
  name : String
  value : String
deriving DecidableEq

def Term.isClass (t : Term) : Bool := Text.sameLetters t.name classColumn

def hasStar (s : String) : Bool := s.toList.contains '*'

/-- A lone `*` asks nothing. -/
def Term.predicate? (t : Term) : Option Predicate :=
  if t.value = "*" then none
  else if hasStar t.value then
    some ⟨t.name, .like (String.ofList (Text.replaceChar '*' ['%'] t.value.toList))⟩
  else some ⟨t.name, .equals (.text t.value)⟩

/-- Whether the term names one table. -/
def Term.namesTable (t : Term) : Bool := t.isClass && t.value != "" && !hasStar t.value

def inAttribute (c : Char) : Bool := c != '(' && c != ')' && c != '='

def inValue (c : Char) : Bool := c != '(' && c != ')'

/-- A parenthesised term at the start of the text, and the rest of the text. -/
def term? : List Char → Option (Term × List Char)
  | '(' :: cs =>
    let name := cs.takeWhile inAttribute
    match cs.dropWhile inAttribute with
    | '=' :: cs =>
      match cs.dropWhile inValue with
      | ')' :: rest =>
        if name.isEmpty then none
        else
          some (⟨String.ofList (Text.trim name), String.ofList (cs.takeWhile inValue)⟩, rest)
      | _ => none
    | _ => none
  | _ => none

end Filter

inductive Filter where
  | single (t : Filter.Term)
  | conjunction (first second : Filter.Term)
  | unsupported
deriving DecidableEq

namespace Filter

def conjunction? : List Char → Option Filter
  | '(' :: '&' :: cs => do
    let (first, cs) ← term? cs
    let (second, cs) ← term? cs
    if cs = [')'] then pure (.conjunction first second) else none
  | _ => none

def single? (cs : List Char) : Option Filter := do
  let (t, rest) ← term? cs
  if rest.isEmpty then pure (.single t) else none

def parse (s : String) : Filter :=
  let cs := Text.trim s.toList
  ((conjunction? cs).orElse fun _ => single? cs).getD .unsupported

def terms : Filter → List Term
  | .single t => [t]
  | .conjunction first second => [first, second]
  | .unsupported => []

/-- What a filter asks for: the rows of one table that satisfy all conditions. -/
structure Query where
  table : String
  predicates : List Predicate
deriving DecidableEq

/-- The first term that names a table picks it; all others are conditions. -/
def queryOf (before : List Term) : List Term → Option Query
  | [] => none
  | t :: ts =>
    if t.namesTable then some ⟨t.value, (before ++ ts).filterMap Term.predicate?⟩
    else queryOf (before ++ [t]) ts

def query? (f : Filter) : Option Query := queryOf [] f.terms

end Filter

end RelDirectory
