import RelDirectory.Ldif.Apply
import RelDirectory.Proofs.Keyed
import RelDirectory.Proofs.Requests
import RelDirectory.Store.Session

/-!
# Rows of replies

What a directory knows of an entry in a session is what the server replied.  A step `Gives` values
with a property if it does so from every state of some kind and leads to such a state again; it is
built of steps that do.  So the row that a record is compared with is made of the cells of a reply
(`gives_locate`), and under a name it has the value of the last cell that came under it
(`get?_ofCells`).
-/
set_option autoImplicit false
namespace RelDirectory

namespace Step

variable {σ τ α β : Type} {P : σ → Prop} {Q : α → Prop} {R : β → Prop}

/-- From a state of a kind the step leads to one of this kind, and what it gives, unless it fails,
has a property. -/
def Gives (P : σ → Prop) (Q : α → Prop) (x : Step σ α) : Prop :=
  ∀ s, P s → P (effect x s).2 ∧ ∀ value, (effect x s).1 = .ok value → Q value

theorem gives_pure {value : α} (held : Q value) : Gives P Q (pure value : Step σ α) := by
  intro s kind
  refine ⟨kind, ?_⟩
  rintro _ ⟨⟩
  exact held

theorem gives_fail (e : Failure) : Gives P Q (fail e : Step σ α) := fun _ kind => ⟨kind, nofun⟩

theorem gives_ofExcept {result : Except Failure α} (held : ∀ value, result = .ok value → Q value) :
    Gives P Q (ofExcept result : Step σ α) := fun _ kind => ⟨kind, held⟩

theorem gives_report (e : Event) : Gives P (fun _ => True) (report e) :=
  fun _ kind => ⟨kind, fun _ _ => trivial⟩

theorem gives_current : Gives P P (current : Step σ σ) := by
  intro s kind
  refine ⟨kind, ?_⟩
  rintro _ ⟨⟩
  exact kind

theorem gives_replace {s : σ} (kind : P s) : Gives P (fun _ => True) (replace s) :=
  fun _ _ => ⟨kind, fun _ _ => trivial⟩

theorem gives_attempt {x : Step σ α} (gives : Gives P Q x) :
    Gives P (fun answer => ∀ value, answer = .ok value → Q value) (attempt x) := by
  intro s kind
  obtain ⟨after, held⟩ := gives s kind
  refine ⟨after, ?_⟩
  rintro _ ⟨⟩
  exact held

theorem gives_bind {x : Step σ α} {f : α → Step σ β} (first : Gives P Q x)
    (second : ∀ value, Q value → Gives P R (f value)) : Gives P R (x >>= f) := by
  intro s kind
  obtain ⟨after, held⟩ := first s kind
  rw [effect_bind]
  cases run : effect x s with
  | mk result s' =>
    rw [run] at after held
    cases result with
    | error e => exact ⟨after, nofun⟩
    | ok value => exact second value (held value rfl) s' after

end Step

namespace Session

open Step

/-! ## What a row holds -/

/-- The value that a cell has in its column. -/
def valueOf (b : Backend) (entry : ResultColumn × Cell) : Value :=
  if entry.2 = .null then .null
  else (Server.decode? b (Server.typeOf b entry.1.type).2 entry.2).getD .null

/-- The row that cells make, each under the name of its column. -/
def ofCells (b : Backend) (table : String) (cells : List (ResultColumn × Cell)) : Row :=
  (fillRow b 0 cells (.empty table)).1

theorem fillRow_row (b : Backend) (index : Nat) (cells : List (ResultColumn × Cell)) (row : Row) :
    (fillRow b index cells row).1 =
      cells.foldl (fun row entry => row.set entry.1.name (valueOf b entry)) row := by
  induction cells generalizing index row with
  | nil => rfl
  | cons entry rest ih =>
    obtain ⟨column, cell⟩ := entry
    rw [List.foldl_cons, ← ih (index + 1)]
    simp only [fillRow, valueOf]
    split
    · rfl
    · split <;> simp only [*, Option.getD_some, Option.getD_none]

theorem get?_foldl_other {b : Backend} {name : String} {cells : List (ResultColumn × Cell)}
    (others : ∀ entry ∈ cells, entry.1.name ≠ name) (row : Row) :
    (cells.foldl (fun row entry => row.set entry.1.name (valueOf b entry)) row).get? name =
      row.get? name := by
  induction cells generalizing row with
  | nil => rfl
  | cons entry rest ih =>
    rw [List.foldl_cons, ih fun e member => others e (List.mem_cons_of_mem _ member)]
    rw [Row.get?_set, if_neg (others entry List.mem_cons_self).symm]

/-- Of the cells under one name the last one counts. -/
theorem get?_ofCells (b : Backend) (table : String) (front : List (ResultColumn × Cell))
    {back : List (ResultColumn × Cell)} (entry : ResultColumn × Cell)
    (others : ∀ e ∈ back, e.1.name ≠ entry.1.name) :
    (ofCells b table (front ++ entry :: back)).get? entry.1.name = some (valueOf b entry) := by
  rw [ofCells, fillRow_row, List.foldl_append, List.foldl_cons, get?_foldl_other others,
    Row.get?_set, if_pos rfl]

/-! ## Where a row comes from -/

/-- The session is with a server of the backend that has only these replies left to give. -/
def Expects (b : Backend) (replies : List ServerReply) (s : Session) : Prop :=
  s.backend = b ∧ s.script.replies ⊆ replies

/-- The row is made of the cells of a reply. -/
def Replied (b : Backend) (replies : List ServerReply) (row : Row) : Prop :=
  ∃ table columns rows cells, .rows columns rows ∈ replies ∧ cells ∈ rows ∧
    row = ofCells b table (columns.zip cells)

variable {b : Backend} {replies : List ServerReply}

theorem mem_rowsOf {table : String} {columns : List ResultColumn} {rows : List (List Cell)}
    {row : Row} (member : row ∈ (rowsOf b table columns rows).1) :
    ∃ cells ∈ rows, row = ofCells b table (columns.zip cells) := by
  induction rows with
  | nil => cases member
  | cons cells rest ih =>
    rcases List.mem_cons.1 member with first | later
    · exact ⟨cells, List.mem_cons_self, first⟩
    · obtain ⟨own, inside, made⟩ := ih later
      exact ⟨own, List.mem_cons_of_mem _ inside, made⟩

theorem gives_build (statement : Backend → Except Identifier.Fault String) :
    Gives (Expects b replies) (fun _ => True) (build statement) := by
  intro s expects
  rw [effect_build]
  exact ⟨expects, fun _ _ => trivial⟩

theorem gives_ask (e : ServerEvent) :
    Gives (Expects b replies) (fun _ => True) (ask e) :=
  fun _ expects => ⟨expects, fun _ _ => trivial⟩

theorem gives_nextReply : Gives (Expects b replies)
    (fun reply => reply = .error Script.exhausted ∨ reply ∈ replies) nextReply := by
  intro s expects
  rw [effect, nextReply]
  split
  · refine ⟨expects, ?_⟩
    rintro _ ⟨⟩
    exact Or.inl rfl
  · rename_i reply rest next
    have inside : reply :: rest ⊆ replies := next ▸ expects.2
    refine ⟨⟨expects.1, (List.cons_subset.1 inside).2⟩, ?_⟩
    rintro _ ⟨⟩
    exact Or.inr (List.cons_subset.1 inside).1

/-- What a statement brings back is a reply of the server. -/
theorem gives_send (statement : String) (parameters : List Value) (context : String) :
    Gives (Expects b replies) (· ∈ replies) (send statement parameters context) := by
  refine gives_bind gives_current fun s _ => ?_
  refine gives_bind (gives_ask _) fun _ _ => ?_
  refine gives_bind gives_nextReply ?_
  intro reply origin
  cases reply with
  | error e => exact gives_fail _
  | affected count => exact gives_pure (origin.resolve_left nofun)
  | rows columns rows => exact gives_pure (origin.resolve_left nofun)

theorem gives_decodeRows {reply : ServerReply} (sent : reply ∈ replies) (table : String) :
    Gives (Expects b replies) (∀ row ∈ ·, Replied b replies row)
      (decodeRows table (resultOf reply).1 (resultOf reply).2) := by
  refine gives_bind gives_current fun s expects => ?_
  rw [expects.1]
  refine gives_bind (Q := fun _ => True) (fun _ kind => ⟨kind, fun _ _ => trivial⟩) fun _ _ => ?_
  refine gives_pure ?_
  intro row member
  obtain ⟨cells, inside, made⟩ := mem_rowsOf member
  cases reply with
  | rows columns rows => exact ⟨table, columns, rows, cells, sent, inside, made⟩
  | affected count => cases inside
  | error e => cases inside

theorem gives_select (t : Table) (predicates : List Predicate) (limit : Option Nat) :
    Gives (Expects b replies) (∀ row ∈ ·, Replied b replies row)
      (Session.select t predicates limit) := by
  refine gives_bind (gives_build _) fun text _ => ?_
  refine gives_bind (gives_send text _ _) fun reply sent => ?_
  exact gives_decodeRows sent t.name

theorem gives_reflect : Gives (Expects b replies) (fun _ => True) Session.reflect := by
  refine gives_bind gives_current fun s _ => ?_
  refine gives_bind (gives_send _ _ _) fun reply _ => ?_
  refine gives_bind (gives_ofExcept fun _ _ => trivial) fun reports _ => ?_
  exact gives_pure trivial

end Session

namespace Directory

open Step

variable {b : Backend} {replies : List ServerReply}

/-- The server of the directory's session has only these replies left to give. -/
def Expects (b : Backend) (replies : List ServerReply) (d : Directory Session) : Prop :=
  Session.Expects b replies d.store

theorem gives_onStore {α : Type} {Q : α → Prop} {x : Step Session α}
    (gives : Gives (Session.Expects b replies) Q x) : Gives (Expects b replies) Q (onStore x) :=
  fun d expects => gives d.store expects

theorem gives_discover :
    Gives (Expects b replies) (fun _ => True) (discover : Step (Directory Session) Unit) := by
  refine gives_bind (gives_report _) fun _ _ => ?_
  refine gives_bind (gives_onStore Session.gives_reflect) fun found _ => ?_
  refine gives_bind (gives_report _) fun _ _ => ?_
  exact gives_bind gives_current fun d expects => gives_replace expects

theorem gives_knownTables : Gives (Expects b replies) (fun _ => True)
    (knownTables : Step (Directory Session) (Keyed Table)) := by
  have discovers : Gives (Expects b replies) (fun _ => True)
      (reflect false : Step (Directory Session) Unit) := by
    refine gives_bind gives_current fun d _ => ?_
    split
    · exact gives_pure trivial
    · exact gives_discover
  refine gives_bind discovers fun _ _ => ?_
  exact gives_bind gives_current fun d _ => gives_pure trivial

theorem gives_table? (name : String) : Gives (Expects b replies) (fun _ => True)
    (table? name : Step (Directory Session) (Option Table)) :=
  gives_bind gives_knownTables fun _ _ => gives_pure trivial

theorem gives_firstIn (dn : String) (test : Test) (ts : List Table) :
    Gives (Expects b replies) (∀ row ∈ ·, Session.Replied b replies row)
      (firstIn dn test ts : Step (Directory Session) (Option Row)) := by
  induction ts with
  | nil => exact gives_pure nofun
  | cons t ts ih =>
    refine gives_bind (gives_attempt (gives_onStore (Session.gives_select t _ _))) ?_
    intro answer held
    split
    · rename_i row _
      refine gives_bind (gives_report _) fun _ _ => gives_pure ?_
      rintro _ ⟨⟩
      exact held _ rfl _ List.mem_cons_self
    · exact ih
    · exact gives_bind (gives_report _) fun _ _ => ih

theorem gives_find? (dn : String) :
    Gives (Expects b replies) (∀ row ∈ ·, Session.Replied b replies row)
      (find? dn : Step (Directory Session) (Option Row)) := by
  rw [find?]
  split
  · exact gives_bind (gives_report _) fun _ _ => gives_pure nofun
  · refine gives_bind gives_knownTables fun tables _ => ?_
    refine gives_bind (gives_firstIn dn _ _) fun found held => ?_
    cases found with
    | some row => exact gives_pure held
    | none => exact gives_firstIn dn _ _

/-- The row that a record is compared with is made of a reply. -/
theorem gives_locate (dn : String) :
    Gives (Expects b replies) (∀ found ∈ ·, Session.Replied b replies found.1)
      (Ldif.locate dn : Step (Directory Session) (Option (Row × Table))) := by
  refine gives_bind (gives_find? dn) fun found held => ?_
  cases found with
  | none => exact gives_pure nofun
  | some row =>
    have home : Gives (Expects b replies) (fun _ => True)
        (tableOf row : Step (Directory Session) Table) := by
      refine gives_bind (gives_table? row.table) fun found _ => ?_
      cases found with
      | none => exact gives_fail _
      | some t => exact gives_pure trivial
    refine gives_bind home fun t _ => gives_pure ?_
    rintro _ ⟨⟩
    exact held row rfl

end Directory

end RelDirectory
