import RelDirectory.Directory.Configuration
import RelDirectory.Proofs.Attributes
import RelDirectory.Proofs.Json.Documents
import RelDirectory.Proofs.Like

/-!
# Clients that are allowed again

The clients of a script are kept as a list with commas, which is cut and put together each time a
client is allowed.  Its items have no comma and no blanks at their ends (`Item`), and a client is
looked for among them as it is given.  So one that is no such item is never found there and joins
the list again, and one that is joins it once: adding twice is adding once exactly for an item that
is `Settled` (`addToList_again`).  This goes up through the property that holds the list, be it an
object or the text of one (`allowIn?_again`), through the properties of a script
(`allowClient_again`) and through the store (`addClientToScript_again`).
-/
set_option autoImplicit false
namespace RelDirectory

namespace Configuration

/-! ## Lists with commas -/

/-- An item of a list: not empty, without a comma, and without blanks at its ends. -/
structure Item (s : String) : Prop where
  some : s ≠ ""
  noComma : ',' ∉ s.toList
  trimmed : Text.trim s.toList = s.toList

theorem item_of_mem {list item : String} (member : item ∈ listItems list) : Item item := by
  obtain ⟨held, some⟩ := List.mem_filter.1 member
  obtain ⟨piece, inside, rfl⟩ := List.mem_map.1 held
  refine ⟨by simpa using some, ?_, ?_⟩
  · rw [String.toList_ofList]
    intro comma
    obtain ⟨lead, tail, whole, _⟩ := Text.exists_trim piece
    refine (Text.of_mem_split inside).1 ?_
    rw [whole]
    simp [comma]
  · rw [String.toList_ofList, Text.trim_trim]

theorem listItems_item {s : String} (item : Item s) : listItems s = [s] := by
  simp [listItems, Text.split_of_free item.noComma, item.trimmed, item.some]

/-- A list of one item is that item. -/
theorem listItems_eq_self {item list : String} (member : item ∈ listItems list) :
    listItems item = [item] := listItems_item (item_of_mem member)

theorem listItems_append (before rest : String) :
    listItems (before ++ "," ++ rest) = listItems before ++ listItems rest := by
  have text : (before ++ "," ++ rest).toList = before.toList ++ ',' :: rest.toList := by simp
  rw [listItems, text, Text.split_append_cons, List.map_append, List.filter_append]
  rfl

theorem listItems_intercalate (items : List String) :
    listItems (",".intercalate items) = items.flatMap listItems := by
  induction items with
  | nil => rfl
  | cons item rest ih =>
    cases rest with
    | nil => simp
    | cons next rest =>
      rw [String.intercalate_cons_cons, listItems_append, ih]
      exact List.flatMap_cons.symm

theorem flatMap_listItems (list : String) :
    (listItems list).flatMap listItems = listItems list := by
  have single : ∀ item ∈ listItems list, listItems item = [item] := fun _ => listItems_eq_self
  rw [List.flatMap_congr single]
  simp

/-- The item stands in a list for itself, or for nothing. -/
def Settled (item : String) : Prop := listItems item = [] ∨ listItems item = [item]

instance (item : String) : Decidable (Settled item) := inferInstanceAs (Decidable (_ ∨ _))

theorem listItems_addToList (list item : String) : listItems (addToList list item) =
    if item ∈ listItems list then listItems list else listItems list ++ listItems item := by
  rw [addToList, listItems_intercalate]
  by_cases there : item ∈ listItems list
  · rw [if_pos there, if_pos (by simpa using there), flatMap_listItems]
  · rw [if_neg there, if_neg (by simpa using there), List.flatMap_append, flatMap_listItems]
    simp

theorem not_mem_of_unsettled {item : String} (unsettled : ¬ Settled item) (list : String) :
    item ∉ listItems list := fun member => unsettled (Or.inr (listItems_eq_self member))

/-- The items of a list with one more are put together to that list. -/
theorem addToList_of_items {list item : String} {items : List String}
    (held : listItems list = items) : addToList list item =
      ",".intercalate (if item ∈ items then items else items ++ [item]) := by
  rw [addToList, held]
  simp

/-- An item that is added twice is there once, exactly if it stands for itself or for nothing. -/
theorem addToList_again (list item : String) :
    addToList (addToList list item) item = addToList list item ↔ Settled item := by
  constructor
  · intro same
    by_contra unsettled
    -- an item that is not settled is never found, so its own items come behind the list once more
    have absent := not_mem_of_unsettled unsettled
    have items := congrArg listItems same
    rw [listItems_addToList, if_neg (absent _)] at items
    exact unsettled (Or.inl (by simpa using items))
  · intro settled
    have items := listItems_addToList list item
    by_cases there : item ∈ listItems list
    · rw [if_pos there] at items
      rw [addToList_of_items items, addToList_of_items rfl]
    · rw [if_neg there] at items
      rcases settled with nothing | itself
      · rw [nothing, List.append_nil] at items
        rw [addToList_of_items items, addToList_of_items rfl]
      · rw [itself] at items
        rw [addToList_of_items items, addToList_of_items rfl, if_neg there, if_pos (by simp)]

theorem addToList_self_iff (item : String) : addToList item item = item ↔ Settled item := by
  constructor
  · intro same
    have again := addToList_again item item
    rw [same] at again
    exact again.1 same
  · rintro (nothing | itself)
    · rw [addToList_of_items nothing]
      simp
    · rw [addToList_of_items itself]
      simp

/-! ## Properties -/

/-- A property that lists clients can be changed again: an object has its members in order of key,
and what is kept as text has no fractional number that is read as another one. -/
def Sound : Json → Prop
  | .object fields => clientProperty? fields = true → ∃ m : Keyed Json, fields = m.toList
  | .string text => ∀ fields, Json.parse? text = some (.object fields) →
      clientProperty? fields = true →
        ∀ x, .float x ∈ (Json.object fields).numbers → Json.Legible (.float x)
  | _ => True

/-- The clients that a property lists. -/
def listed (m : Keyed Json) : String := ((m.get? "value2").bind Json.string?).getD ""

/-- The members of a property with another list of clients. -/
def relisted (m : Keyed Json) (list : String) : Keyed Json := m.insert "value2" (.string list)

theorem listed_relisted (m : Keyed Json) (list : String) : listed (relisted m list) = list := by
  rw [listed, relisted, Keyed.get?_insert, if_pos rfl]
  rfl

theorem relisted_relisted (m : Keyed Json) (list next : String) :
    relisted (relisted m list) next = relisted m next := by
  refine Keyed.ext_get? fun key => ?_
  simp only [relisted, Keyed.get?_insert]
  split <;> rfl

theorem clientProperty?_relisted (m : Keyed Json) (list : String) :
    clientProperty? (relisted m list).toList = clientProperty? m.toList := by
  have same : (relisted m list).get? "value1" = m.get? "value1" := by
    rw [relisted, Keyed.get?_insert, if_neg (by decide)]
  rw [clientProperty?, clientProperty?]
  exact congrArg (fun v => v.bind Json.string? == some allowedClients) same

theorem relisted_injective {m : Keyed Json} {list next : String}
    (same : relisted m list = relisted m next) : list = next := by
  have lists := congrArg listed same
  rwa [listed_relisted, listed_relisted] at lists

theorem addClient_toList (client : String) (m : Keyed Json) :
    addClient client m.toList = .object (relisted m (addToList (listed m) client)).toList := by
  have placed : ∀ value, Keyed.ofList (m.toList ++ [("value2", value)]) =
      m.insert "value2" value := by
    intro value
    rw [Keyed.ofList, List.foldl_append]
    exact congrArg (fun n : Keyed Json => n.insert "value2" value) (Keyed.ofList_toList m)
  rw [addClient, Json.ofFields, placed]
  rfl

theorem object_toList_inj {m n : Keyed Json} :
    Json.object m.toList = Json.object n.toList ↔ m = n := by
  constructor
  · intro same
    exact Keyed.ext_toList (Json.object.inj same)
  · rintro rfl
    rfl

/-- A changed property is the same when it is changed again, exactly if the client is settled. -/
theorem relisted_again_iff (client : String) (m : Keyed Json) (list : String) :
    relisted m (addToList (addToList list client) client) = relisted m (addToList list client) ↔
      Settled client := by
  rw [← addToList_again list client]
  exact ⟨relisted_injective, fun same => by rw [same]⟩

theorem mem_relisted {m : Keyed Json} {list : String} {f : String × Json}
    (member : f ∈ (relisted m list).toList) : f = ("value2", .string list) ∨ f ∈ m.toList := by
  obtain ⟨key, value⟩ := f
  have held := Keyed.mem_toList_iff.1 member
  rw [relisted, Keyed.get?_insert] at held
  split at held
  · rename_i same
    cases held
    exact Or.inl (by rw [same])
  · exact Or.inr (Keyed.mem_toList_iff.2 held)

theorem keptFields_relisted {m : Keyed Json} (kept : Json.KeptFields m) (list : String) :
    Json.KeptFields (relisted m list) := by
  intro f member
  rcases mem_relisted member with rfl | member
  · rfl
  · exact kept f member

theorem mem_numbers_relisted {m : Keyed Json} {list : String} {n : Number}
    (member : n ∈ (Json.object (relisted m list).toList).numbers) :
    n ∈ (Json.object m.toList).numbers := by
  rw [Json.numbers, Json.numbersOfFields_eq] at member ⊢
  obtain ⟨f, held, own⟩ := List.mem_flatMap.1 member
  rcases mem_relisted held with rfl | held
  · cases own
  · exact List.mem_flatMap.2 ⟨f, held, own⟩

theorem allowIn?_object (client : String) {m : Keyed Json}
    (lists : clientProperty? m.toList = true) : allowIn? client (.object m.toList) =
      some (.object (relisted m (addToList (listed m) client)).toList) := by
  rw [allowIn?, if_pos lists, addClient_toList]

theorem allowIn?_text (client : String) {text : String} {m : Keyed Json}
    (read : Json.parse? text = some (.object m.toList))
    (lists : clientProperty? m.toList = true) : allowIn? client (.string text) =
      some (.string (Json.object (relisted m (addToList (listed m) client)).toList).compact) := by
  rw [allowIn?, read]
  simp only [lists, if_true, addClient_toList]

/-- A property that was changed can be changed again, and it is the same then exactly if the client
is settled. -/
theorem allowIn?_again {client : String} {item changed : Json} (sound : Sound item)
    (allowed : allowIn? client item = some changed) : ∃ again,
      allowIn? client changed = some again ∧ (again = changed ↔ Settled client) := by
  cases item with
  | object fields =>
    cases lists : clientProperty? fields with
    | false => simp [allowIn?, lists] at allowed
    | true =>
      obtain ⟨m, rfl⟩ := sound lists
      rw [allowIn?_object client lists] at allowed
      cases allowed
      refine ⟨_, allowIn?_object client (by rwa [clientProperty?_relisted]), ?_⟩
      rw [listed_relisted, relisted_relisted, object_toList_inj, relisted_again_iff]
  | string text =>
    cases read : Json.parse? text with
    | none => simp [allowIn?, read] at allowed
    | some document =>
      cases document with
      | object fields =>
        cases lists : clientProperty? fields with
        | false => simp [allowIn?, read, lists] at allowed
        | true =>
          have legible := Json.legible_of_parse? read (sound fields read lists)
          obtain ⟨m, rfl, kept⟩ := Json.keptFields_of_parse? read
          have keeps := fun list => Json.kept_object (keptFields_relisted kept list)
          have reads : ∀ list, ∀ n ∈ (Json.object (relisted m list).toList).numbers,
              Json.Legible n := fun _ n member => legible n (mem_numbers_relisted member)
          rw [allowIn?_text client read lists] at allowed
          cases allowed
          refine ⟨_, allowIn?_text client (Json.parse?_written (keeps _) (reads _))
            (by rwa [clientProperty?_relisted]), ?_⟩
          rw [listed_relisted, relisted_relisted, ← relisted_again_iff client m (listed m),
            ← object_toList_inj, Json.string.injEq]
          exact ⟨Json.compact_injective (keeps _) (reads _) (keeps _) (reads _), congrArg _⟩
      | _ => simp [allowIn?, read] at allowed
  | _ => cases allowed

/-- Allowing a client again leaves the properties as they are exactly if the client is settled. -/
theorem allowClient_again {client : String} {items : List Json}
    (sound : ∀ item ∈ items, Sound item) :
    allowClient client (allowClient client items) = allowClient client items ↔
      Settled client := by
  induction items with
  | nil =>
    let m : Keyed Json := Keyed.empty.insert "value1" (.string allowedClients)
    have lists : clientProperty? (relisted m client).toList = true := by
      rw [clientProperty?_relisted]
      rfl
    -- a new property lists the client as it is given, and the second call is the first to cut it
    have new : allowClient client [] = [.object (relisted m client).toList] := rfl
    rw [new, allowClient, allowIn?_object client lists, listed_relisted, relisted_relisted]
    simp only [List.cons.injEq, and_true, object_toList_inj]
    rw [← addToList_self_iff client]
    exact ⟨relisted_injective, fun same => by rw [same]⟩
  | cons item items ih =>
    obtain ⟨first, rest⟩ := List.forall_mem_cons.1 sound
    cases allowed : allowIn? client item with
    | none =>
      simp only [allowClient, allowed, List.cons.injEq, true_and]
      exact ih rest
    | some changed =>
      obtain ⟨again, repeated, same⟩ := allowIn?_again first allowed
      simp only [allowClient, allowed, repeated, List.cons.injEq, and_true]
      exact same

end Configuration

namespace Directory

open Step
open RelDirectory.Configuration
  (scriptDn propertyColumn allowClient allowClient_again Settled Sound)

/-! ## The row of a script -/

/-- A row that is found for a name is shown with a `dn` that ends as the name does. -/
theorem shownDn?_getLast? {m : Memory} {tables : Keyed Table} {dn : String} {row : Row} {c : Char}
    (ends : dn.toList.getLast? = some c) (literal : c ≠ '%' ∧ c ≠ '_')
    (found : m.entryRow? tables dn = some row) :
    ∃ shown, row.shownDn? = some shown ∧ shown.toList.getLast? = some c := by
  obtain ⟨t, _, first | first⟩ := Memory.entryRow?_mem found
  · exact ⟨dn, Memory.passes_equals_iff.1 (Memory.passes_of_firstPassing first), ends⟩
  · have passed := Memory.passes_of_firstPassing first
    obtain ⟨shown, held, fits⟩ := Memory.passes_like_iff.1 passed
    exact ⟨shown, held, Like.getLast?_of_matchesPattern literal ends fits⟩

/-- The row that is found for a script has a text as its `dn`, since no number and no JSON that is
written ends as the name of a script does. -/
theorem dn?_scriptRow {m : Memory} {tables : Keyed Table} {inum : String} {row : Row}
    (found : m.entryRow? tables (scriptDn inum) = some row) : ∃ own, row.dn? = some own := by
  have ends : (scriptDn inum).toList.getLast? = some 's' := by
    rw [scriptDn, String.toList_append, List.getLast?_append]
    rfl
  obtain ⟨shown, held, last⟩ := shownDn?_getLast? ends (by decide) found
  obtain ⟨value, named, display⟩ := Option.bind_eq_some_iff.1 held
  cases value with
  | null => cases display
  | text own => exact ⟨own, by rw [Row.dn?, named]; rfl⟩
  | int n =>
    obtain rfl : toString n = shown := Option.some.inj display
    exact absurd (Json.inNumber_toString (List.mem_of_getLast? last)) Json.not_inNumber_s
  | json document =>
    obtain rfl : document.compact = shown := Option.some.inj display
    exact absurd last (Json.getLast?_compact document)

/-! ## Allowing a client -/

/-- The properties of a script. -/
def properties (row : Row) : List Json := ((row.get? propertyColumn).bind Value.items?).getD []

/-- The properties of a script with a client allowed. -/
def allowed (client : String) (row : Row) : Value :=
  .container (allowClient client (properties row))

theorem allowed_set (client : String) (row : Row) (items : List Json) :
    allowed client (row.set propertyColumn (.container items)) =
      .container (allowClient client items) := by
  simp [allowed, properties]

variable {d d' : Directory Memory} {tables : Keyed Table} {inum own : String} {row : Row}
  {t : Table}

/-- Allowing a client writes the properties of the script with the client allowed. -/
theorem effect_addClientToScript (placed : d.store.Placed) (client : String)
    (can : Settable d (scriptDn inum) propertyColumn d' tables row own t) :
    effect (addClientToScript inum client) d = (.ok (),
      { d' with store := d.store.written row.table own propertyColumn (allowed client row) }) := by
  have placed' : d'.store.Placed := can.store ▸ placed
  have entered := effect_entry_found can.found
  have set := effect_setAttribute placed' (settable_known can) (allowed client row)
  rw [can.store] at set
  simp only [addClientToScript, effect_bind, entered, effect_report]
  exact set

/-- A client is allowed only where the properties of the script can be set. -/
theorem settable_of_allowed (tidy : Tidy d) {client : String}
    (added : (addClientToScript inum client d).result = .ok ()) :
    ∃ d' tables row own t, Settable d (scriptDn inum) propertyColumn d' tables row own t := by
  have ran : (effect (addClientToScript inum client) d).1 = .ok () := added
  rcases find?_cases d (scriptDn inum) with ⟨e, _, unfound⟩ | ⟨d', store, unfound | located⟩
  · simp [addClientToScript, entry, unfound] at ran
  · simp [addClientToScript, entry, unfound] at ran
  · obtain ⟨tables, row, discovered, known, found, run⟩ := located
    have byName := (tidy_of_reflect tidy discovered).byName tables known
    obtain ⟨t, naming, home, _⟩ := Memory.entryRow?_held tidy.placed found
    obtain ⟨own, named⟩ := dn?_scriptRow found
    have held : tables.get? row.table = some t := home ▸ get?_of_mem_naming byName naming
    have again := effect_find? known (scriptDn inum)
    rw [store, found] at again
    have tabled : effect (tableOf row) d' = (.ok t, d') := by
      rw [effect_tableOf known, held]
    refine ⟨d', tables, row, own, t, discovered, known, store, found, run, named, held, home.symm,
      ?_⟩
    by_contra lacks
    simp [addClientToScript, entry, setAttribute, run, again, tabled, lacks] at ran

/-- A client that is allowed twice is allowed both times, and the second time leaves the store as
it is exactly if the client is settled: a client with blanks around it, or with a comma, is not
found among the ones that are listed and joins them again. -/
theorem addClientToScript_again (d : Directory Memory) (tidy : Tidy d) (inum client : String)
    (sound : ∀ row, (find? (scriptDn inum) d).result = .ok (some row) →
      ∀ item ∈ properties row, Sound item)
    (added : (addClientToScript inum client d).result = .ok ()) :
    let once := (addClientToScript inum client d).state
    let again := addClientToScript inum client once
    again.result = .ok () ∧ (again.state.store = once.store ↔ Settled client) := by
  intro once again
  obtain ⟨d', tables, row, own, t, can⟩ := settable_of_allowed tidy added
  have other : propertyColumn ≠ dnColumn := by decide
  let first := allowClient client (properties row)
  let write (items : List Json) : Memory :=
    d.store.written row.table own propertyColumn (.container items)
  have ran : once = { d' with store := write first } :=
    state_of_effect (effect_addClientToScript tidy.placed client can)
  have store : once.store = write first := congrArg Directory.store ran
  have placed' : (write first).Placed := Memory.placed_written tidy.placed _ _ _ _
  have repeated := effect_addClientToScript placed' client
    (settable_written tidy.placed can other (.container first))
  rw [← ran, allowed_set, Row.table_set] at repeated
  have second : again.state.store = write (allowClient client first) := by
    rw [state_of_effect repeated]
    simp only [store]
    exact Memory.written_written d.store row.table own other _ _
  have same : write (allowClient client first) = write first ↔
      allowClient client first = first := by
    refine ⟨fun stores => ?_, congrArg write⟩
    have items := congrArg Value.items? (eq_of_written tidy can other stores)
    rwa [Value.items?_container, Value.items?_container, Option.some.injEq] at items
  refine ⟨result_of_effect repeated, ?_⟩
  rw [second, store, same]
  exact allowClient_again (sound row (result_of_effect can.found))

/-- A directory with one script. -/
def ofScript (properties : Value) : Directory Memory :=
  new (.single ⟨"jansCustomScr",
      [⟨"dn", "varchar"⟩, ⟨"jansEnabled", "smallint"⟩, ⟨"jansConfProperty", "json"⟩]⟩
    [⟨"jansCustomScr", .ofList [("dn", .text "inum=A51E-76DA,ou=scripts,o=jans"),
      ("jansEnabled", .int 0), ("jansConfProperty", properties)]⟩]) ⟨[], .empty, .empty, .empty⟩

theorem tidy_ofScript (properties : Value) : Tidy (ofScript properties) :=
  tidy_new (Memory.placed_single _ _) _

/-- A second client that is allowed twice joins the first one once. -/
theorem addClientToScript_again_settled :
    let m : Keyed Json := .ofList
      [("value1", .string "allowed_clients"), ("value2", .string "client-0")]
    let d := ofScript (.container [.object m.toList])
    (addClientToScript "A51E-76DA" "client-1" d).result = .ok () ∧ Settled "client-1" ∧
      let once := (addClientToScript "A51E-76DA" "client-1" d).state
      let again := addClientToScript "A51E-76DA" "client-1" once
      again.result = .ok () ∧ again.state.store = once.store := by
  intro m d
  have sound : ∀ row, (find? (scriptDn "A51E-76DA") d).result = .ok (some row) →
      ∀ item ∈ properties row, Sound item := by
    intro row found item member
    have held : (find? (scriptDn "A51E-76DA") d).result.map (·.map properties) =
        .ok (some [.object m.toList]) := by decide +kernel
    rw [found] at held
    have only : properties row = [.object m.toList] := Option.some.inj (Except.ok.inj held)
    rw [only] at member
    rw [List.mem_singleton.1 member]
    exact fun _ => ⟨m, rfl⟩
  have added : (addClientToScript "A51E-76DA" "client-1" d).result = .ok () := by decide +kernel
  have settled : Settled "client-1" := by decide +kernel
  have both := addClientToScript_again d (tidy_ofScript _) "A51E-76DA" "client-1" sound added
  exact ⟨added, settled, both.imp id fun same => same.2 settled⟩

/-- A client with a blank after it joins itself when it is allowed again. -/
theorem not_addClientToScript_unchanged : ¬ ∀ (d : Directory Memory), Tidy d →
    ∀ inum client, (addClientToScript inum client d).result = .ok () →
      let once := (addClientToScript inum client d).state
      let again := addClientToScript inum client once
      again.result = .ok () ∧ again.state.store = once.store := by
  intro always
  have both := always (ofScript .null) (tidy_ofScript .null) "A51E-76DA" "client-1 "
    (by decide +kernel)
  have rows := congrArg (fun m : Memory => m.rows "jansCustomScr") both.2
  exact absurd rows (by decide +kernel)

end Directory

end RelDirectory
