import RelDirectory.Proofs.AllowedClients

/-!
# Properties when a client is allowed

Allowing a client changes one property of a script.  It is the first that lists clients, be it an
object or the text of one (`allowIn?_cases`), and it keeps its form and its members but for the list,
which the client joins if it is not there (`extended_relisted`).  If no property lists clients a new
one does.  All others stay as they are and where they are (`allowClient_frame`).
-/
set_option autoImplicit false
namespace RelDirectory.Configuration

/-- How a property is kept: as an object, or as the text of one. -/
inductive Form where
  | object
  | text

def Form.write (m : Keyed Json) : Form → Json
  | .object => .object m.toList
  | .text => .string (Json.object m.toList).compact

/-- The item is a property with these members, kept in a form. -/
def Property (m : Keyed Json) : Form → Json → Prop
  | .object, item => item = .object m.toList
  | .text, item => ∃ text, item = .string text ∧ Json.parse? text = some (.object m.toList)

/-- The property lists the clients that are allowed. -/
def ListsClients (m : Keyed Json) : Prop := m.get? "value1" = some (.string allowedClients)

/-- The item is no property that lists clients. -/
def Foreign (item : Json) : Prop := ∀ form m, Property m form item → ¬ ListsClients m

/-- The members of a property with one client more in its list, unless the client was there. -/
structure Extended (client : String) (m m' : Keyed Json) : Prop where
  others : ∀ key, key ≠ "value2" → m'.get? key = m.get? key
  list : ∃ list', m'.get? "value2" = some (.string list') ∧
    ∀ list, m.get? "value2" = some (.string list) → listItems list' =
      if client ∈ listItems list then listItems list else listItems list ++ [client]

/-- The property that is made where none lists clients. -/
def newProperty (client : String) : Keyed Json :=
  .ofList [("value1", .string allowedClients), ("value2", .string client)]

/-- What becomes of the properties of a script when a client is allowed. -/
inductive Allowing (client : String) : List Json → List Json → Prop
  /-- The first that lists clients is written in its form, to be read as it is now if its fractional
  numbers are read as they are written. -/
  | changed (before : List Json) {behind : List Json} {item : Json} {form : Form} {m m' : Keyed Json}
      (first : ∀ other ∈ before, Foreign other) (held : Property m form item)
      (lists : ListsClients m) (extended : Extended client m m')
      (read : (∀ x, .float x ∈ (Json.object m.toList).numbers → Json.Legible (.float x)) →
        Property m' form (form.write m')) :
      Allowing client (before ++ item :: behind) (before ++ form.write m' :: behind)
  | added {items : List Json} (none : ∀ item ∈ items, Foreign item)
      (lists : ListsClients (newProperty client)) :
      Allowing client items (items ++ [Form.object.write (newProperty client)])

/-! ## One property -/

theorem property_unique {m n : Keyed Json} {form other : Form} {item : Json}
    (held : Property m form item) (same : Property n other item) : m = n := by
  cases form with
  | object =>
    subst held
    cases other with
    | object => exact object_toList_inj.1 same
    | text =>
      obtain ⟨_, whole, _⟩ := same
      cases whole
  | text =>
    obtain ⟨text, rfl, read⟩ := held
    cases other with
    | object => cases same
    | text =>
      obtain ⟨_, whole, again⟩ := same
      rw [← Json.string.inj whole, read, Option.some.injEq] at again
      exact object_toList_inj.1 again

theorem clientProperty?_iff {m : Keyed Json} : clientProperty? m.toList = true ↔ ListsClients m := by
  have same : Keyed.find? "value1" m.toList = m.get? "value1" := rfl
  rw [clientProperty?, same, ListsClients, beq_iff_eq]
  constructor
  · intro lists
    obtain ⟨value, found, text⟩ := Option.bind_eq_some_iff.1 lists
    cases value <;> simp [Json.string?] at text
    rw [found, text]
  · intro found
    rw [found]
    rfl

theorem listsClients_newProperty (client : String) : ListsClients (newProperty client) := by
  simp [ListsClients, newProperty, Keyed.ofList]

theorem foreign_of_property {m : Keyed Json} {form : Form} {item : Json}
    (held : Property m form item) (lists : clientProperty? m.toList = false) : Foreign item := by
  intro other n same listed
  rw [property_unique held same, clientProperty?_iff.2 listed] at lists
  cases lists

theorem foreign_string {text : String}
    (noObject : ∀ fields, Json.parse? text ≠ some (.object fields)) : Foreign (.string text) := by
  intro form m held
  cases form with
  | object => cases held
  | text =>
    obtain ⟨_, whole, read⟩ := held
    rw [← Json.string.inj whole] at read
    exact absurd read (noObject _)

/-- An item is none that lists clients, or it is one and is written with the client in its list. -/
theorem allowIn?_cases (client : String) {item : Json} (ordered : item.Ordered) :
    (allowIn? client item = none ∧ Foreign item) ∨
      ∃ form m, Property m form item ∧ ListsClients m ∧
        allowIn? client item = some (form.write (relisted m (addToList (listed m) client))) := by
  cases item with
  | object fields =>
    obtain ⟨m, rfl⟩ := ordered fields rfl
    have held : Property m .object (.object m.toList) := rfl
    cases lists : clientProperty? m.toList with
    | false => exact Or.inl ⟨by simp [allowIn?, lists], foreign_of_property held lists⟩
    | true =>
      exact Or.inr ⟨.object, m, held, clientProperty?_iff.1 lists, allowIn?_object client lists⟩
  | string text =>
    cases read : Json.parse? text with
    | none => exact Or.inl ⟨by simp [allowIn?, read], foreign_string (by simp [read])⟩
    | some document =>
      cases document with
      | object fields =>
        obtain ⟨m, rfl, _⟩ := Json.keptFields_of_parse? read
        have held : Property m .text (.string text) := ⟨text, rfl, read⟩
        cases lists : clientProperty? m.toList with
        | false => exact Or.inl ⟨by simp [allowIn?, read, lists], foreign_of_property held lists⟩
        | true =>
          exact Or.inr ⟨.text, m, held, clientProperty?_iff.1 lists, allowIn?_text client read lists⟩
      | _ => exact Or.inl ⟨by simp [allowIn?, read], foreign_string (by simp [read])⟩
  | _ =>
    refine Or.inl ⟨rfl, ?_⟩
    intro form m held
    cases form with
    | object => cases held
    | text =>
      obtain ⟨_, whole, _⟩ := held
      cases whole

theorem listed_of_string {m : Keyed Json} {list : String}
    (held : m.get? "value2" = some (.string list)) : listed m = list := by
  rw [listed, held]
  rfl

theorem extended_relisted {client : String} (item : Item client) (m : Keyed Json) :
    Extended client m (relisted m (addToList (listed m) client)) := by
  constructor
  · intro key other
    rw [relisted, Keyed.get?_insert, if_neg other]
  · refine ⟨_, by rw [relisted, Keyed.get?_insert, if_pos rfl], ?_⟩
    intro list held
    rw [listItems_addToList, listed_of_string held, listItems_item item]

/-- A property that is written with another list is read as that if its numbers are. -/
theorem property_relisted {m : Keyed Json} {form : Form} {item : Json}
    (held : Property m form item) (list : String)
    (floats : ∀ x, .float x ∈ (Json.object m.toList).numbers → Json.Legible (.float x)) :
    Property (relisted m list) form (form.write (relisted m list)) := by
  cases form with
  | object => rfl
  | text =>
    obtain ⟨text, _, read⟩ := held
    obtain ⟨m', same, kept⟩ := Json.keptFields_of_parse? read
    rw [← Keyed.ext_toList same] at kept
    have legible := Json.legible_of_parse? read floats
    exact ⟨_, rfl, Json.parse?_written (Json.kept_object (keptFields_relisted kept list))
      fun n member => legible n (mem_numbers_relisted member)⟩

/-! ## All properties -/

theorem allowing_cons {client : String} {item : Json} {items items' : List Json}
    (foreign : Foreign item) (allowing : Allowing client items items') :
    Allowing client (item :: items) (item :: items') := by
  cases allowing with
  | @changed before behind _ _ _ _ first held lists extended read =>
    exact .changed (item :: before) (List.forall_mem_cons.2 ⟨foreign, first⟩) held lists extended
      read
  | added none lists => exact .added (List.forall_mem_cons.2 ⟨foreign, none⟩) lists

/-- Allowing a client, which is one item of a list, changes the first property that lists clients,
or there is none and a new one is put behind the others. -/
theorem allowClient_frame {client : String} (item : Item client) {items : List Json}
    (ordered : ∀ property ∈ items, property.Ordered) :
    Allowing client items (allowClient client items) := by
  induction items with
  | nil => exact .added nofun (listsClients_newProperty client)
  | cons property items ih =>
    obtain ⟨first, rest⟩ := List.forall_mem_cons.1 ordered
    rcases allowIn?_cases client first with ⟨skipped, foreign⟩ | ⟨form, m, held, lists, written⟩
    · rw [allowClient, skipped]
      exact allowing_cons foreign (ih rest)
    · rw [allowClient, written]
      exact .changed [] nofun held lists (extended_relisted item m) (property_relisted held _)

/-- A client joins the list of a property that is kept as a text. -/
theorem allowClient_frame_encoded :
    let properties : List Json := [.null, .string "allowed_clients",
      .ofFields [("value1", .string "other"), ("value2", .string "x")],
      .string "\x7b\"value2\": \"a, b\", \"value1\": \"allowed_clients\", \"hide\": 1\x7d",
      .ofFields [("value1", .string "allowed_clients")]]
    Item "c" ∧ (∀ property ∈ properties, property.Ordered) ∧
      Allowing "c" properties (allowClient "c" properties) ∧
      allowClient "c" properties = properties.set 3
        (.string "\x7b\"hide\":1,\"value1\":\"allowed_clients\",\"value2\":\"a,b,c\"\x7d") := by
  intro properties
  have item : Item "c" := ⟨by decide, by decide, by decide⟩
  have ordered : ∀ property ∈ properties, property.Ordered := by
    have written (fields : List (String × Json)) : (Json.ofFields fields).Ordered :=
      fun _ same => ⟨.ofList fields, (Json.object.inj same).symm⟩
    have scalar {v : Json} (other : ∀ fields, v ≠ .object fields) : v.Ordered :=
      fun fields same => absurd same (other fields)
    simp only [properties, List.forall_mem_cons]
    exact ⟨scalar nofun, scalar nofun, written _, scalar nofun, written _, nofun⟩
  exact ⟨item, ordered, allowClient_frame item ordered, by decide +kernel⟩

end RelDirectory.Configuration
