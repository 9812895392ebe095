import RelDirectory.Directory.Configuration
import RelDirectory.Proofs.Attributes
import RelDirectory.Proofs.Json.Documents

/-!
# The authentication server's document

The document stands in the row that is found for its entry, as a text or as JSON (`documentOf`).  An
update sets entries in it and writes it as a text in the row that it was read from
(`effect_updateAuthDocument`), so what is read afterwards is what was written.  But entries are set
only in an object: any other document stays as it is, and the update succeeds as well
(`merged_mergeInto_iff`, `updateAuthDocument_visible_iff`).
-/
set_option autoImplicit false
namespace RelDirectory

namespace Configuration

/-- Entries are set in a document, and all its other members stay. -/
structure Merged (entries : Keyed Json) (before after : Json) : Prop where
  given : ∀ key value, entries.get? key = some value → after.get? key = some value
  kept : ∀ key, entries.get? key = none → after.get? key = before.get? key

/-- The document in a row, kept as a text or as JSON. -/
def documentOf (row : Row) : Except Failure Json :=
  match row.get? documentColumn with
  | some (.text text) =>
    match Json.parse? text with
    | some document => .ok document
    | none => .error .json
  | some (.json document) => .ok document
  | _ => .error (.noColumn row.table documentColumn)

theorem documentOf_set (row : Row) (text : String) {document : Json}
    (read : Json.parse? text = some document) :
    documentOf (row.set documentColumn (.text text)) = .ok document := by
  rw [documentOf, Row.get?_set, if_pos rfl]
  simp only [read]

theorem merged_ofFields (m entries : Keyed Json) :
    Merged entries (.object m.toList) (.ofFields (m.toList ++ entries.toList)) := by
  have member (key : String) : (Json.ofFields (m.toList ++ entries.toList)).get? key =
      (entries.get? key).or (m.get? key) := Keyed.get?_ofList_append m entries key
  constructor
  · intro key value given
    rw [member, given, Option.some_or]
  · intro key none
    rw [member, none, Option.none_or]
    rfl

/-- Entries are set in every object, and in no other document unless there are none. -/
theorem merged_mergeInto_iff (entries : Keyed Json) {document : Json}
    (ordered : document.Ordered) :
    Merged entries document (mergeInto entries.toList document) ↔
      (∃ fields, document = .object fields) ∨ entries = .empty := by
  have other (noMember : ∀ key, document.get? key = none) :
      Merged entries document document ↔ entries = .empty := by
    constructor
    · intro merged
      refine Keyed.ext_get? fun key => ?_
      cases held : entries.get? key with
      | none => rfl
      | some value =>
        have given := merged.given key value held
        rw [noMember] at given
        cases given
    · rintro rfl
      exact ⟨nofun, fun _ _ => rfl⟩
  cases document with
  | object fields =>
    obtain ⟨m, rfl⟩ := ordered fields rfl
    exact iff_of_true (merged_ofFields m entries) (Or.inl ⟨_, rfl⟩)
  | _ => simpa [mergeInto] using other fun _ => rfl

end Configuration

namespace Directory

open Step
open Memory (Overwritten)
open RelDirectory.Configuration

variable {d d' : Directory Memory} {row : Row}

/-! ## The entry is found again -/

/-- An entry that was found is found again where it was. -/
theorem effect_find?_again {dn : String} (found : effect (find? dn) d = (.ok (some row), d')) :
    effect (find? dn) d' = (.ok (some row), d') := by
  rcases find?_cases d dn with ⟨e, _, unfound⟩ | ⟨d₁, store, unfound | located⟩
  · rw [found] at unfound
    cases unfound
  · rw [found] at unfound
    cases unfound
  · obtain ⟨tables, other, _, known, stands, run⟩ := located
    rw [found] at run
    cases run
    rw [effect_find? known, store, stands]

/-- Setting a column does not depend on whether its entry was found before. -/
theorem effect_setAttribute_again {dn : String}
    (found : effect (find? dn) d = (.ok (some row), d')) (column : String) (value : Value) :
    effect (setAttribute dn column value) d' = effect (setAttribute dn column value) d := by
  have first := effect_entry_found found
  have second := effect_entry_found (effect_find?_again found)
  simp only [setAttribute, effect_bind, first, second]

/-! ## Reading and updating -/

theorem effect_authDocument_found (found : effect (find? authDn) d = (.ok (some row), d')) :
    effect authDocument d = (documentOf row, d') := by
  rw [authDocument, effect_bind, effect_entry_found found]
  simp only [documentOf]
  cases row.get? documentColumn with
  | none => rfl
  | some value =>
    cases value with
    | text text => cases read : Json.parse? text <;> simp [read]
    | _ => rfl

/-- Reading the document fails and leaves the store, or its row is found and holds it. -/
theorem authDocument_cases (d : Directory Memory) :
    (∃ e d', effect authDocument d = (.error e, d') ∧ d'.store = d.store) ∨
      ∃ row document d', effect (find? authDn) d = (.ok (some row), d') ∧
        documentOf row = .ok document ∧ effect authDocument d = (.ok document, d') := by
  rcases find?_cases d authDn with ⟨e, _, unfound⟩ | ⟨d', store, unfound | located⟩
  · refine Or.inl ⟨e, d, ?_, rfl⟩
    simp only [authDocument, entry, effect_bind, unfound]
  · refine Or.inl ⟨.noEntry authDn, d', ?_, store⟩
    simp only [authDocument, entry, effect_bind, unfound, effect_fail]
  · obtain ⟨_, row, _, _, _, found⟩ := located
    have ran := effect_authDocument_found found
    cases held : documentOf row with
    | error e => exact Or.inl ⟨e, d', by rw [ran, held], store⟩
    | ok document => exact Or.inr ⟨row, document, d', found, held, by rw [ran, held]⟩

/-- An update of a document that is read sets the column to the text of what is made of it. -/
theorem effect_updateAuthDocument {document : Json}
    (found : effect (find? authDn) d = (.ok (some row), d'))
    (read : effect authDocument d = (.ok document, d')) (entries : List (String × Json)) :
    effect (updateAuthDocument entries) d = effect (setAttribute authDn documentColumn
      (.text (mergeInto entries document).pretty)) d := by
  rw [← effect_setAttribute_again found]
  simp only [updateAuthDocument, effect_bind, read, effect_report]

/-- An update fails and leaves the store as it is, since the document is not read or its column
cannot be set, or it writes what is made of the document. -/
theorem updateAuthDocument_cases (tidy : Tidy d) (texts : d.store.TextDns)
    (entries : List (String × Json)) :
    (((∃ e, (authDocument d).result = .error e) ∨ Blocked d authDn documentColumn) ∧
        ∃ e d', effect (updateAuthDocument entries) d = (.error e, d') ∧ d'.store = d.store) ∨
      ∃ document d' tables row own t, (authDocument d).result = .ok document ∧
        Settable d authDn documentColumn d' tables row own t ∧
        effect (updateAuthDocument entries) d = (.ok (),
          { d' with
            store := d.store.written row.table own documentColumn
              (.text (mergeInto entries document).pretty) }) := by
  rcases authDocument_cases d with ⟨e, d', unread, store⟩ | ⟨row, document, d', found, _, read⟩
  · refine Or.inl ⟨Or.inl ⟨e, result_of_effect unread⟩, e, d', ?_, store⟩
    simp only [updateAuthDocument, effect_bind, unread]
  · have ran := effect_updateAuthDocument found read entries
    rcases setAttribute_cases tidy texts authDn documentColumn
        (.text (mergeInto entries document).pretty) with
      ⟨blocked, e, d₁, run, store⟩ | ⟨d₁, tables, row₁, own, t, can, run⟩
    · exact Or.inl ⟨Or.inr blocked, e, d₁, ran.trans run, store⟩
    · exact Or.inr ⟨document, d₁, tables, row₁, own, t, result_of_effect read, can, ran.trans run⟩

/-- A document that is written and can be read is the one that is read afterwards. -/
theorem authDocument_written {tables : Keyed Table} {own : String} {t : Table}
    (placed : d.store.Placed) (can : Settable d authDn documentColumn d' tables row own t)
    {text : String} {document : Json} (read : Json.parse? text = some document) :
    (authDocument
      { d' with store := d.store.written row.table own documentColumn (.text text) }).result =
        .ok document := by
  have other : documentColumn ≠ dnColumn := by decide
  have found := (settable_written placed can other (.text text)).found
  exact result_of_effect ((effect_authDocument_found found).trans
    (congrArg (·, _) (documentOf_set row text read)))

/-- An update that succeeds is seen by the next look exactly if the document is an object or nothing
is to be set, and it touches only the column of the document in rows named like the entry.  One
that fails, since the document is not read or its column cannot be set, leaves the store as it
is. -/
theorem updateAuthDocument_visible_iff (d : Directory Memory) (tidy : Tidy d)
    (texts : d.store.TextDns) (entries : Keyed Json)
    (ordered : ∀ document, (authDocument d).result = .ok document → document.Ordered)
    (readBack : ∀ document, (authDocument d).result = .ok document →
      Json.parse? (mergeInto entries.toList document).pretty =
        some (mergeInto entries.toList document)) :
    let done := updateAuthDocument entries.toList d
    (done.result = .ok () → ∃ row before after,
        (find? authDn d).result = .ok (some row) ∧ (authDocument d).result = .ok before ∧
        (authDocument done.state).result = .ok after ∧
        (Merged entries before after ↔ (∃ fields, before = .object fields) ∨ entries = .empty) ∧
        Overwritten d.store done.state.store row documentColumn (.text after.pretty)) ∧
      (∀ e, done.result = .error e → done.state.store = d.store) ∧
      ((∃ e, done.result = .error e) ↔
        (∃ e, (authDocument d).result = .error e) ∨ Blocked d authDn documentColumn) := by
  intro done
  rcases updateAuthDocument_cases tidy texts entries.toList with
    ⟨fault, e, d', run, store⟩ | ⟨before, d', tables, row, own, t, read, can, run⟩
  · have answer : done.result = .error e := result_of_effect run
    have state : done.state = d' := state_of_effect run
    refine ⟨?_, ?_, iff_of_true ⟨e, answer⟩ fault⟩
    · intro fine
      rw [answer] at fine
      cases fine
    · intro _ _
      rw [state, store]
  · have answer : done.result = .ok () := result_of_effect run
    have state : done.state = _ := state_of_effect run
    refine ⟨?_, ?_, iff_of_false ?_ ?_⟩
    · intro _
      rw [state]
      exact ⟨row, before, mergeInto entries.toList before, result_of_effect can.found, read,
        authDocument_written tidy.placed can (readBack before read),
        merged_mergeInto_iff entries (ordered before read),
        overwritten_written tidy.placed can _⟩
    · intro e failed
      rw [answer] at failed
      cases failed
    · rintro ⟨e, failed⟩
      rw [answer] at failed
      cases failed
    · rintro (⟨e, failed⟩ | blocked)
      · rw [read] at failed
        cases failed
      · exact not_blocked can blocked

/-- A directory with one configuration, which holds a document. -/
def ofDocument (dn : String) (document : Value) : Directory Memory :=
  new (.single ⟨"jansAppConf", [⟨"dn", "varchar"⟩, ⟨"jansConfDyn", "text"⟩]⟩
    [⟨"jansAppConf", .ofList [("dn", .text dn), ("jansConfDyn", document)]⟩])
    ⟨[], .empty, .empty, .empty⟩

theorem tidy_ofDocument (dn : String) (document : Value) : Tidy (ofDocument dn document) :=
  tidy_new (Memory.placed_single _ _) _

theorem textDns_ofDocument (dn : String) (document : Value) :
    (ofDocument dn document).store.TextDns := by
  refine Memory.textDns_single _ fun row member => ?_
  rw [List.mem_singleton.1 member]
  simp [Row.dn?, Row.get?, Keyed.ofList, dnColumn, Value.text?]

/-- The entry is found by the end of its name, and one member is changed and one is new. -/
theorem updateAuthDocument_visible_iff_issuer :
    let before : Keyed Json := .ofList
      [("issuer", .string "https://old"), ("keys", .array [.ofInt 1, .ofInt 2])]
    let entries : Keyed Json := .ofList
      [("issuer", .string "https://new"), ("dcrSignatureValidation", .bool true)]
    let d := ofDocument "inum=1,ou=jans-auth,ou=configuration,o=jans"
      (.json (.object before.toList))
    let done := updateAuthDocument entries.toList d
    Tidy d ∧ d.store.TextDns ∧ done.result = .ok () ∧ ∃ after,
      (authDocument done.state).result = .ok after ∧ Merged entries (.object before.toList) after := by
  intro before entries d done
  have tidy : Tidy d := tidy_ofDocument _ _
  have texts : d.store.TextDns := textDns_ofDocument _ _
  have held : (authDocument d).result = .ok (.object before.toList) := by decide +kernel
  have fine : done.result = .ok () := by decide +kernel
  have only {document : Json} (read : (authDocument d).result = .ok document) :
      document = .object before.toList := Except.ok.inj (read.symm.trans held)
  have seen := (updateAuthDocument_visible_iff d tidy texts entries
    (fun document read => by
      rw [only read]
      exact fun _ same => ⟨before, (Json.object.inj same).symm⟩)
    (fun document read => by
      rw [only read]
      decide +kernel)).1 fine
  obtain ⟨_, document, after, _, read, again, merged, _⟩ := seen
  rw [only read] at merged
  exact ⟨tidy, texts, fine, after, again, merged.2 (Or.inl ⟨_, rfl⟩)⟩

/-- An update succeeds and sets nothing in a document that is no object. -/
theorem not_updateAuthDocument_visible : ¬ ∀ (d : Directory Memory), Tidy d → d.store.TextDns →
    ∀ entries : Keyed Json,
    (∀ document, (authDocument d).result = .ok document → document.Ordered) →
    (∀ document, (authDocument d).result = .ok document →
      Json.parse? (mergeInto entries.toList document).pretty =
        some (mergeInto entries.toList document)) →
    let done := updateAuthDocument entries.toList d
    done.result = .ok () → ∃ before after, (authDocument d).result = .ok before ∧
      (authDocument done.state).result = .ok after ∧ Merged entries before after := by
  intro always
  let d := ofDocument authDn (.text "[]")
  let entries : Keyed Json := .ofList [("issuer", .string "https://new")]
  have held : (authDocument d).result = .ok (.array []) := by decide +kernel
  have only {document : Json} (read : (authDocument d).result = .ok document) :
      document = .array [] := Except.ok.inj (read.symm.trans held)
  obtain ⟨_, after, _, read, merged⟩ := always d (tidy_ofDocument _ _) (textDns_ofDocument _ _)
    entries
    (fun document read => by
      rw [only read]
      nofun)
    (fun document read => by
      rw [only read]
      decide +kernel)
    (by decide +kernel)
  have still : (authDocument (updateAuthDocument entries.toList d).state).result =
      .ok (.array []) := by decide +kernel
  rw [still, Except.ok.injEq] at read
  have given := merged.given "issuer" (.string "https://new") (by decide +kernel)
  rw [← read] at given
  cases given

end Directory

end RelDirectory
