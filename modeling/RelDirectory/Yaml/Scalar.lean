import RelDirectory.Text.Digits
import RelDirectory.Yaml.Cursor

/-!
# YAML scalars

Reading plain and quoted scalars, which may go on over several lines: a single line break inside
counts as a space, and further ones count as themselves.
-/
set_option autoImplicit false
namespace RelDirectory.Yaml

/-- What stands between two words: blanks on one line, or line breaks. -/
structure Gap where
  blanks : List Char
  breaks : List (List Char)

namespace Gap

def none : Gap := ⟨[], []⟩

/-- The gap as it counts in a value. -/
def text (g : Gap) : List Char :=
  match g.breaks with
  | [] => g.blanks
  | first :: more =>
    if first = ['\n'] then (if more.isEmpty then [' '] else more.flatten)
    else first ++ more.flatten

/-- The gap at a cursor.  Blanks that follow a break do not count; a tab among them in a column
below `indent` is refused. -/
def read (indent : Int) : Nat → Gap → Cursor → Option (Gap × Cursor)
  | 0, _, _ => .none
  | fuel + 1, g, c =>
    match c.rest with
    | [] => some (g, c)
    | x :: _ =>
      if isBreak x then
        let (b, next) := c.skipBreak
        read indent fuel ⟨[], g.breaks ++ [b]⟩ next
      else if isSpace x then
        if g.breaks.isEmpty then read indent fuel { g with blanks := g.blanks ++ [x] } (c.skip 1)
        else if x = '\t' ∧ (c.column : Int) < indent then .none
        else read indent fuel g (c.skip 1)
      else some (g, c)

end Gap

structure ScalarText where
  text : List Char
  /-- Whether line breaks follow it. -/
  endsLine : Bool
  cursor : Cursor

/-! ## Plain scalars -/

def isFlowMark (c : Char) : Bool := c == ',' || c == '[' || c == ']' || c == '\x7b' || c == '\x7d'

/-- The characters of one word of a plain scalar. -/
def plainWord (inFlow : Bool) : List Char → Option (List Char)
  | [] => some []
  | c :: cs =>
    if isSpace c || isBreak c then some []
    else if inFlow && c == ':' && (cs.head?.map fun d => isFlowMark d || d == '?').getD false then
      none
    else if c == ':' && startsBlank cs then some []
    else if inFlow && isFlowMark c then some []
    else (plainWord inFlow cs).map (c :: ·)

def plainFrom (inFlow : Bool) (indent : Int) :
    Nat → List Char → Gap → Cursor → Option ScalarText
  | 0, _, _, _ => none
  | fuel + 1, text, gap, c =>
    let ended : ScalarText := ⟨text, !gap.breaks.isEmpty, c⟩
    if c.atMarker || c.rest.head? == some '#' then some ended
    else
      match plainWord inFlow c.rest with
      | none => none
      | some word =>
        let joined := if word.isEmpty then text else text ++ gap.text ++ word
        let gap := if word.isEmpty then gap else Gap.none
        let c := c.skip word.length
        match c.rest with
        | x :: _ =>
          if isSpace x || isBreak x then
            match Gap.read indent (c.rest.length + 1) gap c with
            | none => none
            | some (gap, c) =>
              if !inFlow && (c.column : Int) < indent then
                some ⟨joined, !gap.breaks.isEmpty, c⟩
              else plainFrom inFlow indent fuel joined gap c
          else some ⟨joined, !gap.breaks.isEmpty, c⟩
        | [] => some ⟨joined, !gap.breaks.isEmpty, c⟩

def plain (inFlow : Bool) (indent : Int) (c : Cursor) : Option ScalarText :=
  plainFrom inFlow indent (c.rest.length + 1) [] Gap.none c

/-! ## Quoted scalars -/

/-- The character that a one-letter escape stands for. -/
def escapeLetter? (c : Char) : Option Char :=
  match c with
  | '0' => some (Char.ofNat 0)
  | 'a' => some '\x07'
  | 'b' => some '\x08'
  | 't' => some '\t'
  | '\t' => some '\t'
  | 'n' => some '\n'
  | 'v' => some '\x0b'
  | 'f' => some '\x0c'
  | 'r' => some '\r'
  | 'e' => some '\x1b'
  | ' ' => some ' '
  | '"' => some '"'
  | '/' => some '/'
  | '\\' => some '\\'
  | 'N' => some (Char.ofNat 0x85)
  | '_' => some (Char.ofNat 0xA0)
  | 'L' => some (Char.ofNat 0x2028)
  | 'P' => some (Char.ofNat 0x2029)
  | _ => none

/-- How many hexadecimal digits an escape takes. -/
def escapeLength? (c : Char) : Option Nat :=
  match c with
  | 'x' => some 2
  | 'u' => some 4
  | 'U' => some 8
  | _ => none

/-- The character of an escape and how long the escape is, the backslash not counted. -/
def escape? : List Char → Option (Char × Nat)
  | [] => none
  | c :: cs =>
    match escapeLetter? c, escapeLength? c with
    | some d, _ => some (d, 1)
    | none, some n => do
      let digits ← (cs.take n).mapM Text.hexValue?
      let value := Text.ofDigits 16 digits
      if digits.length < n ∨ (0xD800 ≤ value ∧ value ≤ 0xDFFF) ∨ 0x10FFFF < value then none
      else pure (Char.ofNat value, n + 1)
    | none, none => none

/-- The characters up to a blank, a break, the closing quote or an escaped break; the last is
told by the flag. -/
def quotedWord (single : Bool) : Nat → List Char → Cursor → Option (List Char × Bool × Cursor)
  | 0, _, _ => none
  | fuel + 1, word, c =>
    match c.rest with
    | [] => some (word, false, c)
    | x :: xs =>
      if isSpace x || isBreak x then some (word, false, c)
      else if single && x == '\'' then
        if xs.head? == some '\'' then quotedWord single fuel (word ++ ['\'']) (c.skip 2)
        else some (word, false, c)
      else if !single && x == '"' then some (word, false, c)
      else if !single && x == '\\' then
        if (xs.head?.map isBreak).getD false then some (word, true, (c.skip 1).skipBreak.2)
        else
          match escape? xs with
          | some (d, n) => quotedWord single fuel (word ++ [d]) (c.skip (n + 1))
          | none => none
      else quotedWord single fuel (word ++ [x]) (c.skip 1)

def quotedFrom (single : Bool) : Nat → List Char → Cursor → Option ScalarText
  | 0, _, _ => none
  | fuel + 1, text, c =>
    if c.atMarker || c.rest.isEmpty then none
    else
      match quotedWord single (c.rest.length + 1) [] c with
      | none => none
      | some (word, continued, c) =>
        let text := text ++ word
        if c.rest.head? == some (if single then '\'' else '"') then
          some ⟨text, false, c.skip 1⟩
        else
          match Gap.read 0 (c.rest.length + 1) ⟨[], if continued then [[]] else []⟩ c with
          | none => none
          | some (gap, c) => quotedFrom single fuel (text ++ gap.text) c

/-- A quoted scalar, the cursor being at its opening quote. -/
def quoted (single : Bool) (c : Cursor) : Option ScalarText :=
  quotedFrom single (c.rest.length + 1) [] (c.skip 1)

end RelDirectory.Yaml
