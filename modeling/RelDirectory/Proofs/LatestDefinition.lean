import RelDirectory.Catalog.Document
import RelDirectory.Coercion
import RelDirectory.Proofs.Base64
import RelDirectory.Proofs.Effect
import RelDirectory.Proofs.Keyed

/-!
# The latest definition of an attribute

Schema documents may define an attribute again.  The definition that counts is the `Latest` one
that has the attribute's name, whatever document it stands in, and everything a catalog says of an
attribute follows from it and the three mapping documents (`follows`).  An `Index`, which takes in
one document after the other and keeps for each name the place of the last definition that has it,
always leads to that definition (`accurate_taken`).  `loadFrom_latest` says this of the catalog
that is read from documents.
-/
set_option autoImplicit false
namespace RelDirectory.Catalog

/-! ## The definition that counts -/

/-- A definition that has the name, with no later one that has it. -/
structure Latest (definitions : List AttributeDefinition) (name : String)
    (d : AttributeDefinition) : Prop where
  named : name ∈ d.names
  last : ∃ before behind, definitions = before ++ d :: behind ∧
    ∀ later ∈ behind, name ∉ later.names

/-- No definition has the name. -/
def Undeclared (definitions : List AttributeDefinition) (name : String) : Prop :=
  ∀ d ∈ definitions, name ∉ d.names

variable {c : Catalog} {definitions : List AttributeDefinition} {name : String}
  {d : AttributeDefinition}

theorem attribute?_eq_some_iff : c.attribute? name = some d ↔ Latest c.attributes name d := by
  rw [attribute?, List.find?_eq_some_iff_append]
  constructor
  · rintro ⟨named, front, back, split, skipped⟩
    refine ⟨by simpa using named, back.reverse, front.reverse, ?_, ?_⟩
    · rw [← List.reverse_reverse c.attributes, split]
      simp
    · intro later member
      simpa using skipped later (List.mem_reverse.1 member)
  · rintro ⟨named, before, behind, split, others⟩
    refine ⟨by simpa using named, behind.reverse, before.reverse, by simp [split], ?_⟩
    intro later member
    simpa using others later (List.mem_reverse.1 member)

theorem attribute?_eq_none_iff : c.attribute? name = none ↔ Undeclared c.attributes name := by
  simp [attribute?, Undeclared]

theorem latest_append (definitions : List AttributeDefinition) (named : name ∈ d.names) :
    Latest (definitions ++ [d]) name d := ⟨named, definitions, [], rfl, nofun⟩

theorem latest_append_other {later : AttributeDefinition} (latest : Latest definitions name d)
    (other : name ∉ later.names) : Latest (definitions ++ [later]) name d := by
  obtain ⟨named, before, behind, rfl, others⟩ := latest
  refine ⟨named, before, behind ++ [later], by simp, ?_⟩
  intro e member
  rcases List.mem_append.1 member with member | member
  · exact others e member
  · rwa [List.mem_singleton.1 member]

/-! ## An index of names -/

/-- Definitions in the order in which they came, and for each name the place of the last one that
has it. -/
structure Index where
  definitions : List AttributeDefinition
  places : Keyed Nat

namespace Index

def empty : Index := ⟨[], .empty⟩

/-- The index with one more definition, which takes over its names. -/
def add (i : Index) (d : AttributeDefinition) : Index :=
  ⟨i.definitions ++ [d],
    d.names.foldl (fun places name => places.insert name i.definitions.length) i.places⟩

/-- The index with the definitions of one more document. -/
def take (i : Index) (document : List AttributeDefinition) : Index := document.foldl add i

/-- The index that has taken in documents one after the other. -/
def taken (documents : List (List AttributeDefinition)) : Index := documents.foldl take empty

def find? (i : Index) (name : String) : Option AttributeDefinition :=
  (i.places.get? name).bind (i.definitions[·]?)

/-- Each name has a place, inside the list and of the latest definition with the name, or else no
definition has the name. -/
structure Accurate (i : Index) : Prop where
  placed : ∀ name place, i.places.get? name = some place →
    ∃ inside : place < i.definitions.length, Latest i.definitions name i.definitions[place]
  unplaced : ∀ name, i.places.get? name = none → Undeclared i.definitions name

variable {i : Index}

theorem get?_foldl_insert (names : List String) (place : Nat) (places : Keyed Nat)
    (name : String) :
    (names.foldl (fun places name => places.insert name place) places).get? name =
      if name ∈ names then some place else places.get? name := by
  induction names generalizing places with
  | nil => rfl
  | cons first rest ih =>
    rw [List.foldl_cons, ih, Keyed.get?_insert]
    by_cases later : name ∈ rest
    · rw [if_pos later, if_pos (List.mem_cons_of_mem _ later)]
    · simp only [later, if_false, List.mem_cons, or_false]

theorem get?_places_add (i : Index) (d : AttributeDefinition) (name : String) :
    (i.add d).places.get? name =
      if name ∈ d.names then some i.definitions.length else i.places.get? name :=
  get?_foldl_insert d.names i.definitions.length i.places name

theorem accurate_empty : Accurate empty := ⟨nofun, nofun⟩

/-- A definition that comes last is the latest for its own names and for no others. -/
theorem accurate_add (accurate : Accurate i) (d : AttributeDefinition) : Accurate (i.add d) := by
  constructor
  · intro name place found
    rw [get?_places_add] at found
    split at found
    · rename_i named
      cases found
      refine ⟨by simp [add], ?_⟩
      simpa [add] using latest_append i.definitions named
    · rename_i other
      obtain ⟨inside, latest⟩ := accurate.placed name place found
      refine ⟨by simp only [add, List.length_append]; omega, ?_⟩
      simpa [add, List.getElem_append_left inside] using latest_append_other latest other
  · intro name missing
    rw [get?_places_add] at missing
    split at missing
    · cases missing
    · rename_i other
      intro e member
      rcases List.mem_append.1 member with member | member
      · exact accurate.unplaced name missing e member
      · rwa [List.mem_singleton.1 member]

theorem accurate_take (accurate : Accurate i) (document : List AttributeDefinition) :
    Accurate (i.take document) := by
  induction document generalizing i with
  | nil => exact accurate
  | cons d rest ih => exact ih (accurate_add accurate d)

theorem definitions_take (i : Index) (document : List AttributeDefinition) :
    (i.take document).definitions = i.definitions ++ document := by
  induction document generalizing i with
  | nil => simp [take]
  | cons d rest ih =>
    have step : i.take (d :: rest) = (i.add d).take rest := rfl
    rw [step, ih]
    simp [add]

/-- Documents one after the other give the index of all their definitions together. -/
theorem taken_eq (documents : List (List AttributeDefinition)) :
    taken documents = empty.take documents.flatten := List.foldl_flatten.symm

theorem definitions_taken (documents : List (List AttributeDefinition)) :
    (taken documents).definitions = documents.flatten := by
  rw [taken_eq, definitions_take]
  rfl

theorem accurate_taken (documents : List (List AttributeDefinition)) :
    Accurate (taken documents) := by
  rw [taken_eq]
  exact accurate_take accurate_empty _

/-- An accurate index finds what the catalog of its definitions finds. -/
theorem find?_of_accurate (accurate : Accurate i) (same : i.definitions = c.attributes)
    (name : String) : i.find? name = c.attribute? name := by
  symm
  cases found : i.places.get? name with
  | none =>
    have missing := accurate.unplaced name found
    rw [same] at missing
    rw [find?, found, attribute?_eq_none_iff.2 missing]
    rfl
  | some place =>
    obtain ⟨inside, latest⟩ := accurate.placed name place found
    have held : i.definitions[place]? = some i.definitions[place] := List.getElem?_eq_getElem inside
    have latest' : Latest c.attributes name i.definitions[place] := same ▸ latest
    rw [find?, found, Option.bind_some, held, attribute?_eq_some_iff.2 latest']

end Index

/-! ## What follows from it -/

/-- The syntax of an attribute: the structured one if its latest definition allows several values,
else the one that this definition gives; without a definition the legacy one, or else that of a
directory string. -/
inductive HasSyntax (c : Catalog) (name : String) : String → Prop
  | several {d : AttributeDefinition} (latest : Latest c.attributes name d)
      (multivalued : d.multivalued = true) : HasSyntax c name structuredSyntax
  | declared {d : AttributeDefinition} (latest : Latest c.attributes name d)
      (single : d.multivalued = false) : HasSyntax c name d.oid
  | legacy {oid : String} (undeclared : Undeclared c.attributes name)
      (listed : c.legacySyntax.get? name = some oid) : HasSyntax c name oid
  | unknown (undeclared : Undeclared c.attributes name)
      (unlisted : c.legacySyntax.get? name = none) : HasSyntax c name directoryString

/-- The rule for an attribute's column type: its own, else that of its syntax. -/
inductive Governs (c : Catalog) (name : String) : TypeRule → Prop
  | direct {rule : TypeRule} (own : c.attributeTypes.get? name = some rule) : Governs c name rule
  | ofSyntax {oid : String} {rule : TypeRule} (none : c.attributeTypes.get? name = none)
      (has : HasSyntax c name oid) (listed : c.syntaxTypes.get? oid = some rule) :
      Governs c name rule

/-- The type that a rule gives a backend: its own entry, else that of MySQL. -/
inductive Gives (rule : TypeRule) (b : Backend) : ColumnType → Prop
  | own {type : ColumnType} (entry : rule.get? b.name = some type) : Gives rule b type
  | canonical {type : ColumnType} (missing : rule.get? b.name = none)
      (entry : rule.get? Backend.mysql.name = some type) : Gives rule b type

/-- The catalog with only those definitions that have the name. -/
def listing (c : Catalog) (name : String) : Catalog :=
  { c with attributes := c.attributes.filter (·.names.contains name) }

/-- All that a catalog says of attributes follows from the latest definition of each. -/
structure Follows (c : Catalog) : Prop where
  latest : ∀ name d, c.attribute? name = some d ↔ Latest c.attributes name d
  undeclared : ∀ name, c.attribute? name = none ↔ Undeclared c.attributes name
  ofSyntax : ∀ name oid, c.syntaxOf name = oid ↔ HasSyntax c name oid
  typed : ∀ name b type, Coercion.columnType ⟨c, b⟩ name = .ok type ↔
    ∃ rule t, Governs c name rule ∧ Gives rule b t ∧ t.name = type
  untyped : ∀ name b e, Coercion.columnType ⟨c, b⟩ name = .error e ↔ e = .noType name ∧
    ∀ rule, Governs c name rule →
      rule.get? b.name = none ∧ rule.get? Backend.mysql.name = none
  unlisted : ∀ name, (c.listing name).attribute? name = c.attribute? name ∧
    (c.listing name).syntaxOf name = c.syntaxOf name ∧
    ∀ b, (c.listing name).columnType? name b = c.columnType? name b

theorem hasSyntax_syntaxOf (c : Catalog) (name : String) : HasSyntax c name (c.syntaxOf name) := by
  cases found : c.attribute? name with
  | some d =>
    have latest := attribute?_eq_some_iff.1 found
    cases several : d.multivalued with
    | true =>
      simp only [syntaxOf, found, several, if_true]
      exact .several latest several
    | false =>
      simp only [syntaxOf, found, several, Bool.false_eq_true, if_false]
      exact .declared latest several
  | none =>
    have undeclared := attribute?_eq_none_iff.1 found
    cases listed : c.legacySyntax.get? name with
    | some oid =>
      simp only [syntaxOf, found, listed, Option.getD_some]
      exact .legacy undeclared listed
    | none =>
      simp only [syntaxOf, found, listed, Option.getD_none]
      exact .unknown undeclared listed

theorem syntaxOf_of_hasSyntax {oid : String} (has : HasSyntax c name oid) :
    c.syntaxOf name = oid := by
  cases has with
  | several latest multivalued =>
    simp only [syntaxOf, attribute?_eq_some_iff.2 latest, multivalued, if_true]
  | declared latest single =>
    simp only [syntaxOf, attribute?_eq_some_iff.2 latest, single, Bool.false_eq_true, if_false]
  | legacy undeclared listed =>
    simp only [syntaxOf, attribute?_eq_none_iff.2 undeclared, listed, Option.getD_some]
  | unknown undeclared unlisted =>
    simp only [syntaxOf, attribute?_eq_none_iff.2 undeclared, unlisted, Option.getD_none]

theorem syntaxOf_iff {oid : String} : c.syntaxOf name = oid ↔ HasSyntax c name oid :=
  ⟨fun same => same ▸ hasSyntax_syntaxOf c name, syntaxOf_of_hasSyntax⟩

/-- The rule that a column type is read off. -/
def rule? (c : Catalog) (name : String) : Option TypeRule :=
  match c.attributeTypes.get? name with
  | some rule => some rule
  | none => c.syntaxTypes.get? (c.syntaxOf name)

theorem columnType?_eq (c : Catalog) (name : String) (b : Backend) :
    c.columnType? name b =
      ((c.rule? name).bind fun rule => TypeRule.forBackend rule b).map (·.name) := by
  rw [columnType?, rule?]
  cases c.attributeTypes.get? name with
  | some rule => exact (Option.map_eq_bind ..).symm
  | none =>
    cases c.syntaxTypes.get? (c.syntaxOf name) with
    | some rule => exact (Option.map_eq_bind ..).symm
    | none => rfl

theorem rule?_iff {rule : TypeRule} : c.rule? name = some rule ↔ Governs c name rule := by
  constructor
  · intro found
    rw [rule?] at found
    split at found
    · rename_i own
      cases found
      exact .direct own
    · rename_i none
      exact .ofSyntax none (hasSyntax_syntaxOf c name) found
  · intro governs
    cases governs with
    | direct own => rw [rule?, own]
    | ofSyntax none has listed =>
      rw [rule?, none]
      simp only [syntaxOf_of_hasSyntax has, listed]

theorem forBackend_iff {rule : TypeRule} {b : Backend} {type : ColumnType} :
    rule.forBackend b = some type ↔ Gives rule b type := by
  rw [TypeRule.forBackend, Option.orElse_eq_or, Option.or_eq_some_iff]
  constructor
  · rintro (entry | ⟨missing, entry⟩)
    · exact .own entry
    · exact .canonical missing entry
  · rintro (entry | ⟨missing, entry⟩)
    · exact Or.inl entry
    · exact Or.inr ⟨missing, entry⟩

theorem forBackend_none_iff {rule : TypeRule} {b : Backend} :
    rule.forBackend b = none ↔
      rule.get? b.name = none ∧ rule.get? Backend.mysql.name = none := by
  rw [TypeRule.forBackend, Option.orElse_eq_or, Option.or_eq_none_iff]
  rfl

theorem columnType_ok_iff {b : Backend} {type : String} :
    Coercion.columnType ⟨c, b⟩ name = .ok type ↔
      ∃ rule t, Governs c name rule ∧ Gives rule b t ∧ t.name = type := by
  have read : Coercion.columnType ⟨c, b⟩ name = .ok type ↔ c.columnType? name b = some type := by
    cases typed : c.columnType? name b <;> simp [Coercion.columnType, typed]
  rw [read, columnType?_eq, Option.map_eq_some_iff]
  simp only [Option.bind_eq_some_iff, rule?_iff, forBackend_iff]
  constructor
  · rintro ⟨t, ⟨rule, governs, gives⟩, same⟩
    exact ⟨rule, t, governs, gives, same⟩
  · rintro ⟨rule, t, governs, gives, same⟩
    exact ⟨t, ⟨rule, governs, gives⟩, same⟩

theorem columnType_error_iff {b : Backend} {e : Coercion.Fault} :
    Coercion.columnType ⟨c, b⟩ name = .error e ↔ e = .noType name ∧
      ∀ rule, Governs c name rule →
        rule.get? b.name = none ∧ rule.get? Backend.mysql.name = none := by
  have read : Coercion.columnType ⟨c, b⟩ name = .error e ↔
      e = .noType name ∧ c.columnType? name b = none := by
    cases typed : c.columnType? name b with
    | some type => simp [Coercion.columnType, typed]
    | none => simp [Coercion.columnType, typed, eq_comm]
  rw [read, columnType?_eq, Option.map_eq_none_iff, Option.bind_eq_none_iff]
  simp only [rule?_iff, forBackend_none_iff]

theorem attribute?_listing (c : Catalog) (name : String) :
    (c.listing name).attribute? name = c.attribute? name := by
  rw [attribute?, attribute?, listing, ← List.filter_reverse, List.find?_filter]
  simp

theorem follows (c : Catalog) : Follows c := by
  have sameSyntax (name : String) : (c.listing name).syntaxOf name = c.syntaxOf name := by
    simp only [syntaxOf, attribute?_listing]
    rfl
  refine ⟨fun _ _ => attribute?_eq_some_iff, fun _ => attribute?_eq_none_iff,
    fun _ _ => syntaxOf_iff, fun _ _ _ => columnType_ok_iff, fun _ _ _ => columnType_error_iff, ?_⟩
  intro name
  refine ⟨attribute?_listing c name, sameSyntax name, ?_⟩
  intro b
  simp only [columnType?, sameSyntax]
  rfl

/-! ## Catalogs that are read -/

/-- The schema documents and the mapping documents that paths lead to, and what they hold. -/
structure Reads (read : Reader) (schemaFiles : List String) (mapping : MappingFiles)
    (documents : List (List AttributeDefinition)) (syntaxTypes attributeTypes : Keyed TypeRule)
    (legacySyntax : Keyed String) : Prop where
  schema : List.Forall₂ (fun path document => load read definitions? path = .ok document)
    schemaFiles documents
  ofSyntaxes : load read (Json.Document.keyed? TypeRule.ofDocument?) mapping.syntaxTypes =
    .ok syntaxTypes
  ofAttributes : load read (Json.Document.keyed? TypeRule.ofDocument?) mapping.attributeTypes =
    .ok attributeTypes
  ofLegacy : load read (Json.Document.keyed? Json.Document.text?) mapping.legacySyntax =
    .ok legacySyntax

theorem loadAll_ok {read : Reader} {paths : List String}
    {documents : List (List AttributeDefinition)}
    (schema : List.Forall₂ (fun path document => load read definitions? path = .ok document)
      paths documents) : (loadAll read paths).1 = .ok documents.flatten := by
  induction schema with
  | nil => rfl
  | cons first _ ih =>
    simp only [loadAll, first, ih]
    rfl

theorem loadFrom_ok {read : Reader} {schemaFiles : List String} {mapping : MappingFiles}
    {documents : List (List AttributeDefinition)} {syntaxTypes attributeTypes : Keyed TypeRule}
    {legacySyntax : Keyed String}
    (reads : Reads read schemaFiles mapping documents syntaxTypes attributeTypes legacySyntax) :
    (loadFrom read schemaFiles mapping).1 =
      .ok ⟨documents.flatten, syntaxTypes, attributeTypes, legacySyntax⟩ := by
  simp only [loadFrom, loadAll_ok reads.schema, reads.ofSyntaxes, reads.ofAttributes,
    reads.ofLegacy, ok_bind]
  rfl

theorem load_encoded {α : Type} {read : Reader} {path text : String}
    (stored : read path = .ok (Text.Utf8.encode text)) {decode : Json.Document → Option α}
    {content : α} (holds : (Json.Document.parse? text).bind decode = some content) :
    load read decode path = .ok content := by
  have whole : read.text path = .ok text := by
    simp only [Reader.text, stored, ok_bind, Text.Utf8.decode?_encode]
    rfl
  simp only [load, whole, holds]

/-- The catalog that is read from documents is the one of all their definitions together, an index
that takes in document after document leads to its definitions, and all that it says of an
attribute follows from the latest of them. -/
theorem loadFrom_latest (documents : List (List AttributeDefinition))
    (syntaxTypes attributeTypes : Keyed TypeRule) (legacySyntax : Keyed String) :
    let c : Catalog := ⟨documents.flatten, syntaxTypes, attributeTypes, legacySyntax⟩
    let index := Index.taken documents
    (∀ read schemaFiles mapping,
        Reads read schemaFiles mapping documents syntaxTypes attributeTypes legacySyntax →
        (loadFrom read schemaFiles mapping).1 = .ok c) ∧
      index = Index.taken [documents.flatten] ∧ index.Accurate ∧
      (∀ name, index.find? name = c.attribute? name) ∧ Follows c := by
  intro c index
  have accurate : index.Accurate := Index.accurate_taken documents
  have same : index.definitions = c.attributes := Index.definitions_taken documents
  have together : index = Index.taken [documents.flatten] := by
    rw [Index.taken_eq [documents.flatten]]
    simpa using Index.taken_eq documents
  exact ⟨fun _ _ _ reads => loadFrom_ok reads, together, accurate,
    Index.find?_of_accurate accurate same, follows c⟩

/-- Two schema documents that define `mail`, the second one as an alias with several values, and
mapping documents with a type for the structured syntax alone. -/
def redefining : Reader := fun path =>
  let content : List (String × String) := [
    ("base.json",
      "\x7b\"attributeTypes\": [\x7b\"names\": [\"mail\"], \"syntax\": \"26\"\x7d]\x7d"),
    ("custom.json", "\x7b\"attributeTypes\": [\x7b\"names\": [\"email\", \"mail\"],
      \"syntax\": \"15\", \"multivalued\": true\x7d]\x7d"),
    ("syntaxes.json", "\x7b\"JSON\": \x7b\"mysql\": \x7b\"type\": \"JSON\"\x7d\x7d\x7d"),
    ("none.json", "\x7b\x7d")]
  match Keyed.find? path content with
  | some text => .ok (Text.Utf8.encode text)
  | none => .error .notFound

/-- Of two definitions of `mail` the later one counts, also for a backend without a type. -/
theorem loadFrom_latest_redefined :
    let documents := [[⟨["mail"], "26", false⟩], [⟨["email", "mail"], "15", true⟩]]
    let syntaxTypes : Keyed TypeRule := .ofList [("JSON", .ofList [("mysql", ⟨"JSON", none⟩)])]
    let mapping : MappingFiles := ⟨"syntaxes.json", "none.json", "none.json"⟩
    let c : Catalog := ⟨documents.flatten, syntaxTypes, .empty, .empty⟩
    Reads redefining ["base.json", "custom.json"] mapping documents syntaxTypes .empty .empty ∧
      (loadFrom redefining ["base.json", "custom.json"] mapping).1 = .ok c ∧
      Governs c "mail" (.ofList [("mysql", ⟨"JSON", none⟩)]) ∧
      Coercion.columnType ⟨c, .pgsql⟩ "mail" = .ok "JSON" := by
  intro documents syntaxTypes mapping c
  have reads : Reads redefining ["base.json", "custom.json"] mapping documents syntaxTypes
      .empty .empty := by
    refine ⟨.cons ?_ (.cons ?_ .nil), ?_, ?_, ?_⟩
    all_goals exact load_encoded rfl (by decide +kernel)
  obtain ⟨loaded, _, _, _, follows⟩ := loadFrom_latest documents syntaxTypes .empty .empty
  have latest : Latest c.attributes "mail" ⟨["email", "mail"], "15", true⟩ :=
    (follows.latest "mail" _).1 (by decide +kernel)
  have governs : Governs c "mail" (.ofList [("mysql", ⟨"JSON", none⟩)]) :=
    .ofSyntax rfl (.several latest rfl) (by decide +kernel)
  refine ⟨reads, loaded _ _ _ reads, governs, ?_⟩
  exact (follows.typed "mail" .pgsql "JSON").2
    ⟨_, ⟨"JSON", none⟩, governs, .canonical (by decide +kernel) (by decide +kernel), rfl⟩

end RelDirectory.Catalog
