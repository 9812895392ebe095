import RelDirectory.Proofs.Ldif.Reading
import RelDirectory.Proofs.Ldif.Run

/-!
# Records of several blocks

A record that modifies an entry makes one change, however many blocks it has.  It is the change of
its first `add:` line, or if it has none of its first `replace:` line, with all the values that
the record gives this attribute in any block: `merged` is the one block that says the same
(`importText_blocks`).  If no block is for an attribute that is itself called `add` or `replace`, it
is one of the blocks, with the values of all blocks for its attribute (`merged_plain`).  What the
other blocks say of other attributes is not done.
-/
set_option autoImplicit false
namespace RelDirectory.Ldif

open Step
open ChangeRecord (changeType valuesOf ofPairs)

inductive BlockKind where
  | add
  | replace
deriving DecidableEq

def BlockKind.key : BlockKind → String
  | .add => "add"
  | .replace => "replace"

/-- A block of a record: a line that names an attribute, and lines with values for it. -/
structure Block where
  kind : BlockKind
  attr : String
  values : List String
deriving DecidableEq

def Block.pairs (b : Block) : List (String × String) :=
  (b.kind.key, b.attr) :: b.values.map (b.attr, ·)

def firstOf (pairs : List (String × String)) (kind : BlockKind) : Option (BlockKind × String) :=
  (valuesOf pairs kind.key).head?.map (kind, ·)

/-- What a record with these pairs changes: the first `add` decides, or else the first
`replace`. -/
def chosen (pairs : List (String × String)) : Option (BlockKind × String) :=
  (firstOf pairs .add).or (firstOf pairs .replace)

/-- The one block for what is chosen, with the values that the other pairs give it. -/
def mergedAt (pairs : List (String × String)) (c : BlockKind × String) : Block :=
  ⟨c.1, c.2, valuesOf (pairs.erase (c.1.key, c.2)) c.2⟩

/-- The one block that says what a record of several blocks does. -/
def merged (blocks : List Block) : Option Block :=
  (chosen (blocks.flatMap Block.pairs)).map (mergedAt (blocks.flatMap Block.pairs))

/-! ## The change that is chosen -/

theorem split_of_head? {pairs : List (String × String)} {name value : String}
    (head : (valuesOf pairs name).head? = some value) :
    ∃ before behind, pairs = before ++ (name, value) :: behind ∧ (name, value) ∉ before ∧
      valuesOf before name = [] := by
  induction pairs with
  | nil => cases head
  | cons p rest ih =>
    obtain ⟨n, v⟩ := p
    rw [ChangeRecord.valuesOf_cons] at head
    by_cases here : n = name
    · rw [if_pos here, List.head?_cons, Option.some.injEq] at head
      exact ⟨[], rest, by rw [here, head]; rfl, nofun, rfl⟩
    · rw [if_neg here] at head
      obtain ⟨before, behind, rfl, absent, silent⟩ := ih head
      refine ⟨(n, v) :: before, behind, rfl, ?_, ?_⟩
      · intro member
        rcases List.mem_cons.1 member with same | member
        · exact here (congrArg Prod.fst same).symm
        · exact absent member
      · rw [ChangeRecord.valuesOf_cons, if_neg here]
        exact silent

theorem chosen_cases {pairs : List (String × String)} {kind : BlockKind} {attr : String}
    (choice : chosen pairs = some (kind, attr)) :
    (valuesOf pairs kind.key).head? = some attr ∧
      (kind = .replace → valuesOf pairs "add" = []) := by
  rcases Option.or_eq_some_iff.1 choice with first | ⟨none, second⟩
  · obtain ⟨value, head, same⟩ := Option.map_eq_some_iff.1 first
    cases same
    exact ⟨head, nofun⟩
  · obtain ⟨value, head, same⟩ := Option.map_eq_some_iff.1 second
    cases same
    refine ⟨head, fun _ => ?_⟩
    exact List.head?_eq_none_iff.1 (Option.map_eq_none_iff.1 none)

theorem operation_of_chosen {word : String} (modify : Text.lower word = "modify") (dn : String)
    (pairs : List (String × String)) :
    (ofPairs dn ((changeType, word) :: pairs)).operation =
      match chosen pairs with
      | some (.add, attr) => .add attr
      | some (.replace, attr) => .replace attr
      | none => .unsupported word := by
  rw [ChangeRecord.operation_modify modify, chosen, firstOf, firstOf]
  simp only [BlockKind.key]
  cases (valuesOf pairs "add").head? with
  | some attr => rfl
  | none => cases (valuesOf pairs "replace").head? <;> rfl

/-! ## The block that says the same -/

theorem valuesOf_map (attr : String) (values : List String) (name : String) :
    valuesOf (values.map (attr, ·)) name = if attr = name then values else [] := by
  induction values with
  | nil => simp [valuesOf]
  | cons v rest ih =>
    rw [List.map_cons, ChangeRecord.valuesOf_cons, ih]
    split <;> rfl

theorem erase_split {name value : String} {before behind : List (String × String)}
    (absent : (name, value) ∉ before) :
    (before ++ (name, value) :: behind).erase (name, value) = before ++ behind := by
  rw [List.erase_append_right _ absent, List.erase_cons_head]

theorem chosen_merged {pairs : List (String × String)} {c : BlockKind × String}
    (choice : chosen pairs = some c) : chosen (mergedAt pairs c).pairs = some c := by
  obtain ⟨kind, attr⟩ := c
  obtain ⟨head, silent⟩ := chosen_cases choice
  have first : firstOf (mergedAt pairs (kind, attr)).pairs kind = some (kind, attr) := by
    simp only [firstOf, Block.pairs, mergedAt, ChangeRecord.valuesOf_cons, if_true,
      List.head?_cons, Option.map_some]
  cases kind with
  | add => rw [chosen, first, Option.some_or]
  | replace =>
    -- the values of the merged block may be for an attribute `add`, but there are none
    have noAdd : valuesOf (mergedAt pairs (.replace, attr)).pairs "add" = [] := by
      obtain ⟨before, behind, rfl, absent, _⟩ := split_of_head? head
      have other : ¬ BlockKind.replace.key = "add" := by decide
      have none := silent rfl
      rw [ChangeRecord.valuesOf_append, ChangeRecord.valuesOf_cons, if_neg other,
        ← ChangeRecord.valuesOf_append] at none
      simp only [Block.pairs, mergedAt, ChangeRecord.valuesOf_cons, if_neg other, valuesOf_map,
        erase_split absent]
      split
      · rename_i same
        rw [same]
        exact none
      · rfl
    rw [chosen, first]
    simp only [firstOf, BlockKind.key, noAdd, List.head?_nil, Option.map_none, Option.none_or]

theorem valuesOf_merged {pairs : List (String × String)} {c : BlockKind × String}
    (choice : chosen pairs = some c) :
    valuesOf (mergedAt pairs c).pairs c.2 = valuesOf pairs c.2 := by
  obtain ⟨kind, attr⟩ := c
  obtain ⟨before, behind, rfl, absent, silent⟩ := split_of_head? (chosen_cases choice).1
  simp only [Block.pairs, mergedAt, ChangeRecord.valuesOf_cons, valuesOf_map, if_true,
    erase_split absent, ChangeRecord.valuesOf_append]
  by_cases same : kind.key = attr
  · rw [same] at silent
    simp only [same, if_true, silent, List.nil_append]
  · simp only [if_neg same]

/-! ## Blocks for ordinary attributes -/

/-- The block is for an attribute that is not called like a line that begins a block. -/
def Block.Plain (b : Block) : Prop := ∀ kind : BlockKind, b.attr ≠ kind.key

theorem valuesOf_pairs (b : Block) (name : String) :
    valuesOf b.pairs name = (if b.kind.key = name then [b.attr] else []) ++
      if b.attr = name then b.values else [] := by
  rw [Block.pairs, ChangeRecord.valuesOf_cons, valuesOf_map]
  by_cases key : b.kind.key = name
  · rw [if_pos key, if_pos key, List.singleton_append]
  · rw [if_neg key, if_neg key, List.nil_append]

theorem key_injective {kind other : BlockKind} (same : kind.key = other.key) : kind = other := by
  cases kind <;> cases other <;> first | rfl | exact absurd same (by decide)

theorem valuesOf_key {blocks : List Block} (plain : ∀ b ∈ blocks, b.Plain) (kind : BlockKind) :
    valuesOf (blocks.flatMap Block.pairs) kind.key =
      (blocks.filter (·.kind = kind)).map (·.attr) := by
  induction blocks with
  | nil => rfl
  | cons b rest ih =>
    have here := plain b List.mem_cons_self kind
    rw [List.flatMap_cons, ChangeRecord.valuesOf_append, valuesOf_pairs, if_neg here,
      ih fun other member => plain other (List.mem_cons_of_mem _ member), List.append_nil]
    by_cases same : b.kind = kind
    · simp [same]
    · have different : ¬ b.kind.key = kind.key := fun keys => same (key_injective keys)
      simp [same, different]

theorem valuesOf_attr {blocks : List Block} {attr : String}
    (plain : ∀ kind : BlockKind, attr ≠ kind.key) :
    valuesOf (blocks.flatMap Block.pairs) attr =
      (blocks.filter (·.attr = attr)).flatMap (·.values) := by
  induction blocks with
  | nil => rfl
  | cons b rest ih =>
    rw [List.flatMap_cons, ChangeRecord.valuesOf_append, valuesOf_pairs,
      if_neg (plain b.kind).symm, ih, List.nil_append]
    by_cases same : b.attr = attr
    · simp [same]
    · simp [same]

theorem firstOf_plain {blocks : List Block} (plain : ∀ b ∈ blocks, b.Plain) (kind : BlockKind) :
    firstOf (blocks.flatMap Block.pairs) kind =
      (blocks.find? (·.kind = kind)).map fun b => (kind, b.attr) := by
  rw [firstOf, valuesOf_key plain, List.head?_map, List.head?_filter, Option.map_map]
  rfl

/-- The block that decides: the first that adds, or else the first of all. -/
def decisive (blocks : List Block) : Option Block :=
  (blocks.find? (·.kind = .add)).or blocks.head?

theorem chosen_plain {blocks : List Block} (plain : ∀ b ∈ blocks, b.Plain) :
    chosen (blocks.flatMap Block.pairs) =
      (decisive blocks).map fun b => (b.kind, b.attr) := by
  rw [chosen, firstOf_plain plain, firstOf_plain plain, decisive]
  cases adds : blocks.find? (·.kind = .add) with
  | some b =>
    have kind : b.kind = .add := by simpa using List.find?_some adds
    simp [kind]
  | none =>
    have others : ∀ b ∈ blocks, b.kind = .replace := by
      intro b member
      have notAdd := List.find?_eq_none.1 adds b member
      cases kind : b.kind with
      | add => simp [kind] at notAdd
      | replace => rfl
    cases blocks with
    | nil => rfl
    | cons b rest =>
      have kind := others b List.mem_cons_self
      simp [kind]

/-- Blocks for ordinary attributes come to the block that decides, with the values that all of
them give its attribute. -/
theorem merged_plain {blocks : List Block} (plain : ∀ b ∈ blocks, b.Plain) :
    merged blocks = (decisive blocks).map fun b =>
      ⟨b.kind, b.attr, (blocks.filter (·.attr = b.attr)).flatMap (·.values)⟩ := by
  have choice := chosen_plain plain
  rw [merged, choice, Option.map_map]
  cases first : decisive blocks with
  | none => rfl
  | some b =>
    have member : b ∈ blocks := by
      rcases Option.or_eq_some_iff.1 first with adds | ⟨_, head⟩
      · exact List.mem_of_find?_eq_some adds
      · exact List.mem_of_head? head
    rw [first] at choice
    have values := valuesOf_merged choice
    rw [valuesOf_attr (plain b member), valuesOf_pairs] at values
    have other : ¬ (mergedAt (blocks.flatMap Block.pairs) (b.kind, b.attr)).kind.key = b.attr :=
      (plain b member b.kind).symm
    have own : (mergedAt (blocks.flatMap Block.pairs) (b.kind, b.attr)).attr = b.attr := rfl
    rw [if_neg other, if_pos own, List.nil_append] at values
    simp only [Option.map_some, Function.comp_apply, ← values]
    rfl

/-! ## Applying -/

/-- A record is applied by its name, by what it asks for and by the values for that alone. -/
theorem applyRecord_congr {σ : Type} [Store σ] {r s : ChangeRecord} {attr : String}
    (dn : r.dn = s.dn) (operation : r.operation = s.operation) (target : target? r = some attr)
    (values : r.values? attr = s.values? attr) :
    (applyRecord r : Step (Directory σ) Applied) = applyRecord s := by
  have given : changedValues r attr = changedValues s attr := by
    simp only [changedValues, values]
  cases kind : r.operation with
  | add name =>
    have same : name = attr := by simpa [target?, kind] using target
    subst same
    simp only [applyRecord, ← operation, kind, addAttribute, given, dn]
  | replace name =>
    have same : name = attr := by simpa [target?, kind] using target
    subst same
    simp only [applyRecord, ← operation, kind, replaceAttribute, given, dn]
  | create => simp [target?, kind] at target
  | unsupported word => simp [target?, kind] at target

theorem apply_congr {σ : Type} [Store σ] {r s : ChangeRecord} (dn : r.dn = s.dn)
    (same : (applyRecord r : Step (Directory σ) Applied) = applyRecord s) (force : Bool) :
    (apply [r] force : Step (Directory σ) Report) = apply [s] force := by
  simp only [apply, applyRecords, applyOrSkip, same, dn]

/-- Reading a text and applying its records; a text that cannot be read changes nothing. -/
def importText {σ : Type} [Store σ] (force : Bool) (d : Directory σ) (text : String) :
    Directory σ :=
  match (read text).1 with
  | .ok rs => (apply rs force d).state
  | .error _ => d

theorem importText_oneRecord {σ : Type} [Store σ] {text dn : String}
    {pairs : List (String × String)} (one : oneRecord? text = some (dn, pairs)) (force : Bool)
    (d : Directory σ) : importText force d text = (apply [ofPairs dn pairs] force d).state := by
  simp only [importText, read_oneRecord one]

theorem chosen_isSome {blocks : List Block} (some_ : blocks ≠ []) :
    (chosen (blocks.flatMap Block.pairs)).isSome := by
  cases blocks with
  | nil => exact absurd rfl some_
  | cons b rest =>
    have here : (firstOf ((b :: rest).flatMap Block.pairs) b.kind).isSome := by
      simp only [firstOf, List.flatMap_cons, Block.pairs, List.cons_append,
        ChangeRecord.valuesOf_cons, if_true, List.head?_cons, Option.map_some, Option.isSome_some]
    rw [chosen, Option.isSome_or]
    cases kind : b.kind with
    | add => rw [← kind, here, Bool.true_or]
    | replace => rw [← kind, here, Bool.or_true]

theorem store_apply_of_unsupported (d : Directory Memory) (force : Bool) {r : ChangeRecord}
    {word : String} (kind : r.operation = .unsupported word) :
    (apply [r] force d).state.store = d.store := by
  have modify : r.operation ≠ .create := by
    rw [kind]
    nofun
  have aim : target? r = none := by simp [target?, kind]
  rcases Directory.reflect_cases d force with ⟨e, failed⟩ | ⟨d', tables, found, store, known⟩
  · rw [state_of_effect (effect_apply_error failed [r])]
  · have still : (outcome d'.store tables d'.coercion r).2 = d'.store :=
      outcome_still aim (not_created_of_modify modify)
    rw [state_of_effect (effect_apply found known [r])]
    exact still.trans store

theorem apply_mergedAt {σ : Type} [Store σ] {word : String} (modify : Text.lower word = "modify")
    (dn : String) {pairs : List (String × String)} {c : BlockKind × String}
    (choice : chosen pairs = some c) (force : Bool) :
    (apply [ofPairs dn ((changeType, word) :: pairs)] force : Step (Directory σ) Report) =
      apply [ofPairs dn ((changeType, word) :: (mergedAt pairs c).pairs)] force := by
  have asked := operation_of_chosen modify dn pairs
  have alike := operation_of_chosen modify dn (mergedAt pairs c).pairs
  rw [choice] at asked
  rw [chosen_merged choice] at alike
  have target : target? (ofPairs dn ((changeType, word) :: pairs)) = some c.2 := by
    obtain ⟨kind, attr⟩ := c
    cases kind <;> simp [target?, asked]
  have values : valuesOf ((changeType, word) :: pairs) c.2 =
      valuesOf ((changeType, word) :: (mergedAt pairs c).pairs) c.2 := by
    rw [ChangeRecord.valuesOf_cons, ChangeRecord.valuesOf_cons, valuesOf_merged choice]
  have names : (ofPairs dn ((changeType, word) :: pairs)).dn =
      (ofPairs dn ((changeType, word) :: (mergedAt pairs c).pairs)).dn := by
    rw [ChangeRecord.dn_ofPairs, ChangeRecord.dn_ofPairs]
  refine apply_congr names (applyRecord_congr names (asked.trans alike.symm) target ?_) force
  rw [ChangeRecord.values?_ofPairs, ChangeRecord.values?_ofPairs, values]

/-- Reading and applying a record of any number of blocks does what reading and applying its
merged block does, and nothing if there is none. -/
theorem importText_blocks (force : Bool) (d : Directory Memory) (text dn word : String)
    (blocks : List Block) (modify : Text.lower word = "modify")
    (whole : oneRecord? text = some (dn, (changeType, word) :: blocks.flatMap Block.pairs)) :
    match merged blocks with
    | none => blocks = [] ∧ (importText force d text).store = d.store
    | some b => ∀ single, oneRecord? single = some (dn, (changeType, word) :: b.pairs) →
        importText force d text = importText force d single := by
  rw [importText_oneRecord whole, merged]
  cases choice : chosen (blocks.flatMap Block.pairs) with
  | none =>
    have asked := operation_of_chosen modify dn (blocks.flatMap Block.pairs)
    rw [choice] at asked
    refine ⟨?_, store_apply_of_unsupported d force asked⟩
    by_cases empty : blocks = []
    · exact empty
    · have some_ := chosen_isSome empty
      rw [choice] at some_
      cases some_
  | some c =>
    intro single one
    rw [importText_oneRecord one, apply_mergedAt modify dn choice]

def oneClient : List Row := [Memory.client "inum=1,o=jans" "one" []]

/-- A new name for the client, in one block and as text. -/
def renameBlock : Block := ⟨.replace, "displayName", ["two"]⟩

def renameText : String :=
  "dn: inum=1,o=jans\nchangetype: modify\nreplace: displayName\ndisplayName: two\n-\n"

/-- A redirect URI for the client, in one block and as text. -/
def redirectBlock : Block := ⟨.add, "jansRedirectURI", ["https://b"]⟩

def redirectText : String :=
  "dn: inum=1,o=jans\nchangetype: modify\nadd: jansRedirectURI\njansRedirectURI: https://b\n-\n"

def bothText : String :=
  "dn: inum=1,o=jans\nchangetype: modify\nreplace: displayName\ndisplayName: two\n-\n" ++
    "add: jansRedirectURI\njansRedirectURI: https://b\n-\n"

theorem oneRecord?_bothText : oneRecord? bothText =
    some ("inum=1,o=jans",
      (changeType, "modify") :: [renameBlock, redirectBlock].flatMap Block.pairs) := by
  decide +kernel

theorem oneRecord?_redirectText : oneRecord? redirectText =
    some ("inum=1,o=jans", (changeType, "modify") :: redirectBlock.pairs) := by decide +kernel

theorem importText_bothText :
    importText false (Directory.ofClients oneClient) bothText =
      importText false (Directory.ofClients oneClient) redirectText := by
  have modify : Text.lower "modify" = "modify" := by decide
  have comes : merged [renameBlock, redirectBlock] = some redirectBlock := by decide
  have same := importText_blocks false (Directory.ofClients oneClient) bothText
    "inum=1,o=jans" "modify" [renameBlock, redirectBlock] modify oneRecord?_bothText
  rw [comes] at same
  exact same redirectText oneRecord?_redirectText

/-- Blocks in one record do not come to the same as a record for each of them. -/
theorem not_importText_blockwise :
    ¬ ∀ (d : Directory Memory) (dn word text : String) (blocks : List Block) (texts : List String),
      Text.lower word = "modify" →
      oneRecord? text = some (dn, (changeType, word) :: blocks.flatMap Block.pairs) →
      texts.map oneRecord? = blocks.map (fun b => some (dn, (changeType, word) :: b.pairs)) →
        (importText false d text).store.rows = (texts.foldl (importText false) d).store.rows := by
  intro always
  have modify : Text.lower "modify" = "modify" := by decide
  have renames : oneRecord? renameText =
      some ("inum=1,o=jans", (changeType, "modify") :: renameBlock.pairs) := by decide +kernel
  have each : [renameText, redirectText].map oneRecord? =
      [renameBlock, redirectBlock].map
        (fun b => some ("inum=1,o=jans", (changeType, "modify") :: b.pairs)) := by
    simp only [List.map_cons, List.map_nil, renames, oneRecord?_redirectText]
  have same := congrFun (always (Directory.ofClients oneClient) "inum=1,o=jans" "modify" bothText
    [renameBlock, redirectBlock] [renameText, redirectText] modify oneRecord?_bothText each)
    "jansClnt"
  simp only [List.foldl_cons, List.foldl_nil, importText_oneRecord oneRecord?_bothText,
    importText_oneRecord renames, importText_oneRecord oneRecord?_redirectText] at same
  exact absurd same (by decide +kernel)

end RelDirectory.Ldif
