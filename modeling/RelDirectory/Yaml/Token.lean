import RelDirectory.Yaml.Scalar

/-!
# YAML tokens

A text as a list of tokens.  Block collections have no marks of their own in the text: they
begin and end as the indentation goes deeper and comes back, and a key is known only by the
colon behind it, so its token, and that of the collection it opens, is put in front of it
afterwards.  Anchors, tags, directives and block scalars are refused.
-/
set_option autoImplicit false
namespace RelDirectory.Yaml

inductive Token where
  | documentStart
  | documentEnd
  | sequenceStart
  | mappingStart
  | blockEnd
  | flowSequenceStart
  | flowSequenceEnd
  | flowMappingStart
  | flowMappingEnd
  | flowEntry
  | blockEntry
  | key
  | value
  | scalar (plain : Bool) (text : List Char)
deriving DecidableEq

namespace Token

/-- A place where a key may have begun. -/
structure KeyPlace where
  /-- Whether nothing but a key can stand there. -/
  required : Bool
  /-- How many tokens there were before it. -/
  count : Nat
  line : Nat
  column : Nat
  index : Nat

structure Scan where
  cursor : Cursor
  tokens : List Token
  /-- The column of the innermost block collection, -1 outside of any. -/
  indent : Int
  /-- The columns of the collections around it. -/
  outer : List Int
  /-- Whether a key may begin here. -/
  keyAllowed : Bool
  /-- The place of a possible key at the innermost level and at those around it. -/
  key : Option KeyPlace
  outerKeys : List (Option KeyPlace)

namespace Scan

def start (cs : List Char) : Scan := ⟨.start cs, [], -1, [], true, none, []⟩

def inFlow (s : Scan) : Bool := !s.outerKeys.isEmpty

def emit (s : Scan) (t : Token) : Scan := { s with tokens := s.tokens ++ [t] }

def insertAt (s : Scan) (count : Nat) (t : Token) : Scan :=
  { s with tokens := s.tokens.take count ++ t :: s.tokens.drop count }

/-- The rest of a line that is no token: blanks, and a comment. -/
def skipComment : List Char → Nat
  | [] => 0
  | c :: cs => if isBreak c then 0 else skipComment cs + 1

/-- To the next token.  A tab counts as a blank only where no key may begin. -/
def advance : Nat → Scan → Scan
  | 0, s => s
  | fuel + 1, s =>
    match s.cursor.rest with
    | [] => s
    | c :: _ =>
      if c == ' ' || (c == '\t' && (s.inFlow || !s.keyAllowed)) then
        advance fuel { s with cursor := s.cursor.skip 1 }
      else if c == '#' then
        advance fuel { s with cursor := s.cursor.skip (skipComment s.cursor.rest) }
      else if isBreak c then
        advance fuel
          { s with cursor := s.cursor.skipBreak.2, keyAllowed := s.keyAllowed || !s.inFlow }
      else s

/-- How far a key may be from its colon. -/
def keyReach : Nat := 1024

/-- The place of a key that is too far back no longer counts. -/
def dropStale (c : Cursor) : Option KeyPlace → Option (Option KeyPlace)
  | none => some none
  | some k =>
    if k.line < c.line ∨ k.index + keyReach < c.index then
      if k.required then none else some none
    else some (some k)

def expireKeys (s : Scan) : Option Scan := do
  let key ← dropStale s.cursor s.key
  let outerKeys ← s.outerKeys.mapM (dropStale s.cursor)
  pure { s with key := key, outerKeys := outerKeys }

/-- Closes the block collections that lie deeper than the column. -/
def closeTo (column : Int) : Nat → Scan → Scan
  | 0, s => s
  | fuel + 1, s =>
    if !s.inFlow && column < s.indent then
      match s.outer with
      | [] => s
      | indent :: outer =>
        closeTo column fuel { s.emit .blockEnd with indent := indent, outer := outer }
    else s

def close (s : Scan) (column : Int) : Scan := closeTo column (s.outer.length + 1) s

/-- Opens a block collection if the column is deeper than the innermost one. -/
def openAt (s : Scan) (column : Nat) (count : Nat) (t : Token) : Scan :=
  if !s.inFlow && s.indent < (column : Int) then
    { s.insertAt count t with indent := column, outer := s.indent :: s.outer }
  else s

/-- Forgets the place of a possible key. -/
def removeKey (s : Scan) : Option Scan :=
  match s.key with
  | some k => if k.required then none else some { s with key := none }
  | none => some s

/-- Keeps this place as one where a key may have begun. -/
def saveKey (s : Scan) : Option Scan :=
  if s.keyAllowed then do
    let s ← s.removeKey
    let c := s.cursor
    let required := !s.inFlow && s.indent == (c.column : Int)
    pure { s with key := some ⟨required, s.tokens.length, c.line, c.column, c.index⟩ }
  else some s

def marker (s : Scan) (t : Token) : Option Scan := do
  let s ← (s.close (-1)).removeKey
  pure { s.emit t with keyAllowed := false, cursor := s.cursor.skip 3 }

def openFlow (s : Scan) (t : Token) : Option Scan := do
  let s ← s.saveKey
  pure { s.emit t with
    key := none, outerKeys := s.key :: s.outerKeys, keyAllowed := true,
    cursor := s.cursor.skip 1 }

def closeFlow (s : Scan) (t : Token) : Option Scan := do
  let s ← s.removeKey
  let s := match s.outerKeys with
    | key :: outerKeys => { s with key := key, outerKeys := outerKeys }
    | [] => s
  pure { s.emit t with keyAllowed := false, cursor := s.cursor.skip 1 }

def flowEntry (s : Scan) : Option Scan := do
  let s ← s.removeKey
  pure { s.emit .flowEntry with keyAllowed := true, cursor := s.cursor.skip 1 }

def blockEntry (s : Scan) : Option Scan :=
  if !s.inFlow && !s.keyAllowed then none
  else do
    let s ← (s.openAt s.cursor.column s.tokens.length .sequenceStart).removeKey
    pure { s.emit .blockEntry with keyAllowed := true, cursor := s.cursor.skip 1 }

def explicitKey (s : Scan) : Option Scan :=
  if !s.inFlow && !s.keyAllowed then none
  else do
    let s ← (s.openAt s.cursor.column s.tokens.length .mappingStart).removeKey
    pure { s.emit .key with keyAllowed := !s.inFlow, cursor := s.cursor.skip 1 }

def colon (s : Scan) : Option Scan :=
  match s.key with
  | some k =>
    let s := (s.insertAt k.count .key).openAt k.column k.count .mappingStart
    some { s.emit .value with key := none, keyAllowed := false, cursor := s.cursor.skip 1 }
  | none =>
    if !s.inFlow && !s.keyAllowed then none
    else
      let s := s.openAt s.cursor.column s.tokens.length .mappingStart
      some { s.emit .value with keyAllowed := !s.inFlow, cursor := s.cursor.skip 1 }

def quotedScalar (s : Scan) (single : Bool) : Option Scan := do
  let s ← s.saveKey
  let q ← quoted single s.cursor
  pure { s.emit (.scalar false q.text) with keyAllowed := false, cursor := q.cursor }

def plainScalar (s : Scan) : Option Scan := do
  let s ← s.saveKey
  let p ← plain s.inFlow (s.indent + 1) s.cursor
  pure { s.emit (.scalar true p.text) with keyAllowed := p.endsLine, cursor := p.cursor }

/-- Characters that begin no plain scalar. -/
def indicators : List Char :=
  ['-', '?', ':', ',', '[', ']', '\x7b', '\x7d', '#', '&', '*', '!', '|', '>', '\'', '"', '%',
    '@', '\x60']

def beginsPlain (s : Scan) (c : Char) (cs : List Char) : Bool :=
  !(isSpace c || isBreak c || indicators.contains c) ||
    (c == '-' && !(cs.head?.map isSpace).getD false) ||
    (!s.inFlow && (c == '?' || c == ':') && !startsBlank cs)

/-- The token at the cursor. -/
def next (s : Scan) : Option Scan :=
  match s.cursor.rest with
  | [] => some s
  | c :: cs =>
    if s.cursor.atMarker then marker s (if c == '-' then .documentStart else .documentEnd)
    else if s.cursor.column == 0 && c == '%' then none
    else if c == '[' then s.openFlow .flowSequenceStart
    else if c == '\x7b' then s.openFlow .flowMappingStart
    else if c == ']' then s.closeFlow .flowSequenceEnd
    else if c == '\x7d' then s.closeFlow .flowMappingEnd
    else if c == ',' then s.flowEntry
    else if c == '-' && startsBlank cs then s.blockEntry
    else if c == '?' && (s.inFlow || startsBlank cs) then s.explicitKey
    else if c == ':' && (s.inFlow || startsBlank cs) then s.colon
    else if c == '\'' then s.quotedScalar true
    else if c == '"' then s.quotedScalar false
    else if s.beginsPlain c cs then s.plainScalar
    else none

/-- The end of the text ends all block collections. -/
def finish (s : Scan) : Option (List Token) := do
  let line := if s.cursor.column = 0 then s.cursor.line else s.cursor.line + 1
  let s : Scan := { s with cursor := { s.cursor with line := line, column := 0 } }
  let s ← (s.close (-1)).removeKey
  pure s.tokens

def run : Nat → Scan → Option (List Token)
  | 0, _ => none
  | fuel + 1, s => do
    let s := s.advance (s.cursor.rest.length + 1)
    let s ← s.expireKeys
    let s := s.close s.cursor.column
    if s.cursor.rest.isEmpty then s.finish
    else
      let s ← s.next
      run fuel s

end Scan

/-- The tokens of a text, after the byte order mark that it may begin with. -/
def scan (s : String) : Option (List Token) :=
  let cs := s.toList
  if cs.all isPrintable then
    let cs := if cs.head? = some '\uFEFF' then cs.drop 1 else cs
    Scan.run (cs.length + 2) (.start cs)
  else none

end Token

end RelDirectory.Yaml
