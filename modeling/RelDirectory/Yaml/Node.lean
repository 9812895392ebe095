import RelDirectory.Yaml.Token

/-!
# YAML nodes

A document as a tree of scalars, lists and maps, read from its tokens.  Where a value is missing
there is an empty plain scalar.
-/
set_option autoImplicit false
namespace RelDirectory.Yaml

inductive Node where
  | scalar (plain : Bool) (text : String)
  | list (items : List Node)
  | map (entries : List (Node × Node))

namespace Node

instance : Inhabited Node := ⟨.scalar true ""⟩

def missing : Node := .scalar true ""

/-- Whether the next token is one of those given; the end of the text is none. -/
def starts (tokens : List Token) (ts : List Token) : Bool :=
  match ts with
  | [] => false
  | t :: _ => tokens.contains t

mutual

/-- A node; `bare` allows a list whose entries are no deeper than the key before them. -/
def node? : Nat → Bool → Bool → List Token → Option (Node × List Token)
  | 0, _, _, _ => none
  | fuel + 1, block, bare, ts =>
    match ts with
    | .scalar plain text :: ts => some (.scalar plain (String.ofList text), ts)
    | .flowSequenceStart :: ts =>
      (flowItems? fuel true ts).map fun (items, ts) => (.list items, ts)
    | .flowMappingStart :: ts =>
      (flowEntries? fuel true ts).map fun (entries, ts) => (.map entries, ts)
    | .blockEntry :: _ =>
      if bare then (bareItems? fuel ts).map fun (items, ts) => (.list items, ts) else none
    | .sequenceStart :: ts =>
      if block then (items? fuel ts).map fun (items, ts) => (.list items, ts) else none
    | .mappingStart :: ts =>
      if block then (entries? fuel ts).map fun (entries, ts) => (.map entries, ts) else none
    | _ => none

/-- A node, unless one of the given tokens shows that it is missing. -/
def nodeUnless? : Nat → Bool → Bool → List Token → List Token → Option (Node × List Token)
  | 0, _, _, _, _ => none
  | fuel + 1, block, bare, ends, ts =>
    if starts ends ts then some (missing, ts) else node? fuel block bare ts

/-- The entries of a block list and its end. -/
def items? : Nat → List Token → Option (List Node × List Token)
  | 0, _ => none
  | fuel + 1, ts =>
    match ts with
    | .blockEntry :: ts => do
      let (item, ts) ← nodeUnless? fuel true false [.blockEntry, .blockEnd] ts
      let (items, ts) ← items? fuel ts
      pure (item :: items, ts)
    | .blockEnd :: ts => some ([], ts)
    | _ => none

/-- The entries of a list that has no end of its own. -/
def bareItems? : Nat → List Token → Option (List Node × List Token)
  | 0, _ => none
  | fuel + 1, ts =>
    match ts with
    | .blockEntry :: ts => do
      let (item, ts) ← nodeUnless? fuel true false [.blockEntry, .key, .value, .blockEnd] ts
      let (items, ts) ← bareItems? fuel ts
      pure (item :: items, ts)
    | ts => some ([], ts)

/-- The value behind a key of a block map. -/
def blockValue? : Nat → List Token → Option (Node × List Token)
  | 0, _ => none
  | fuel + 1, ts =>
    match ts with
    | .value :: ts => nodeUnless? fuel true true [.key, .value, .blockEnd] ts
    | ts => some (missing, ts)

/-- The entries of a block map and its end. -/
def entries? : Nat → List Token → Option (List (Node × Node) × List Token)
  | 0, _ => none
  | fuel + 1, ts =>
    match ts with
    | .key :: ts => do
      let (key, ts) ← nodeUnless? fuel true true [.key, .value, .blockEnd] ts
      let (value, ts) ← blockValue? fuel ts
      let (entries, ts) ← entries? fuel ts
      pure ((key, value) :: entries, ts)
    | .value :: _ => do
      let (value, ts) ← blockValue? fuel ts
      let (entries, ts) ← entries? fuel ts
      pure ((missing, value) :: entries, ts)
    | .blockEnd :: ts => some ([], ts)
    | _ => none

/-- The value behind a key in a flow collection that `close` ends. -/
def flowValue? : Nat → Token → List Token → Option (Node × List Token)
  | 0, _, _ => none
  | fuel + 1, close, ts =>
    match ts with
    | .value :: ts => nodeUnless? fuel false false [.flowEntry, close] ts
    | ts => some (missing, ts)

/-- The items of a flow list and its end. -/
def flowItems? : Nat → Bool → List Token → Option (List Node × List Token)
  | 0, _, _ => none
  | fuel + 1, first, ts =>
    if starts [.flowSequenceEnd] ts then some ([], ts.drop 1)
    else if !first && !starts [.flowEntry] ts then none
    else
      let ts := if first then ts else ts.drop 1
      match ts with
      | .flowSequenceEnd :: ts => some ([], ts)
      | .key :: ts => do
        let close := Token.flowSequenceEnd
        let (key, ts) ← nodeUnless? fuel false false [.value, .flowEntry, close] ts
        let (value, ts) ← flowValue? fuel close ts
        let (items, ts) ← flowItems? fuel false ts
        pure (.map [(key, value)] :: items, ts)
      | ts => do
        let (item, ts) ← node? fuel false false ts
        let (items, ts) ← flowItems? fuel false ts
        pure (item :: items, ts)

/-- The entries of a flow map and its end. -/
def flowEntries? : Nat → Bool → List Token → Option (List (Node × Node) × List Token)
  | 0, _, _ => none
  | fuel + 1, first, ts =>
    if starts [.flowMappingEnd] ts then some ([], ts.drop 1)
    else if !first && !starts [.flowEntry] ts then none
    else
      let ts := if first then ts else ts.drop 1
      match ts with
      | .flowMappingEnd :: ts => some ([], ts)
      | .key :: ts => do
        let close := Token.flowMappingEnd
        let (key, ts) ← nodeUnless? fuel false false [.value, .flowEntry, close] ts
        let (value, ts) ← flowValue? fuel close ts
        let (entries, ts) ← flowEntries? fuel false ts
        pure ((key, value) :: entries, ts)
      | ts => do
        let (key, ts) ← node? fuel false false ts
        let (entries, ts) ← flowEntries? fuel false ts
        pure ((key, missing) :: entries, ts)

end

/-- The one document of the tokens; an empty text has none. -/
def ofTokens? (ts : List Token) : Option Node := do
  let fuel := 4 * ts.length + 4
  let (root, ts) ← match ts with
    | [] => none
    | .documentStart :: ts =>
      if ts.isEmpty || starts [.documentStart, .documentEnd] ts then some (missing, ts)
      else node? fuel true false ts
    | ts => node? fuel true false ts
  if ts.all (· == .documentEnd) then pure root else none

def parse? (s : String) : Option Node := (Token.scan s).bind ofTokens?

end Node

end RelDirectory.Yaml
