import RelDirectory.Proofs.Growth
import RelDirectory.Proofs.Ldif.Writes

/-!
# When a new entry is made

The row drafted for a record is named by the record (`dn?_drafted`).  A record makes a new entry
exactly if it is `Creatable`, which the rows do not decide, and its name is not taken
(`created_iff`).  A record that was applied is `Spent`, and it stays so while no name is lost
(`spent_grown`).
-/
set_option autoImplicit false
namespace RelDirectory.Ldif

open Directory (KeyedByName)
open Memory (Alike Grown)

variable {m m' : Memory} {tables : Keyed Table} {c : Coercion} {r : ChangeRecord}

/-! ## The row of a new entry -/

theorem get?_filled {t : Table} {attributes : List (String × List String)} {column : String}
    (spared : ∀ a ∈ attributes, a.1 ≠ column) {row row' : Row}
    (run : filled c t row attributes = .ok row') : row'.get? column = row.get? column := by
  induction attributes generalizing row with
  | nil =>
    cases run
    rfl
  | cons held rest ih =>
    obtain ⟨name, values⟩ := held
    have others : ∀ a ∈ rest, a.1 ≠ column := fun a member =>
      spared a (List.mem_cons_of_mem _ member)
    simp only [filled] at run
    split at run
    · obtain ⟨value, _, run⟩ := bind_ok run
      rw [ih others run, Row.get?_set, if_neg]
      exact (spared (name, values) List.mem_cons_self).symm
    · exact ih others run

/-- The values of the last attribute with this name. -/
def lastValues? (name : String) : List (String × List String) → Option (List String)
  | [] => none
  | (n, values) :: rest => (lastValues? name rest).or (if n = name then some values else none)

theorem lastValues?_eq_none {name : String} {attributes : List (String × List String)} :
    lastValues? name attributes = none ↔ ∀ a ∈ attributes, a.1 ≠ name := by
  induction attributes with
  | nil => simp [lastValues?]
  | cons held rest ih => simp [lastValues?, ih, and_comm]

/-- Of the attributes with one name the last one stays. -/
theorem get?_filled_last {t : Table} {attributes : List (String × List String)} {column : String}
    (has : t.hasColumn column = true) {values : List String}
    (given : lastValues? column attributes = some values) {row row' : Row}
    (run : filled c t row attributes = .ok row') :
    ∃ value, c.toColumn column values = .ok value ∧ row'.get? column = some value := by
  induction attributes generalizing row with
  | nil => cases given
  | cons held rest ih =>
    obtain ⟨name, own⟩ := held
    rw [lastValues?] at given
    cases later : lastValues? column rest with
    | some others =>
      rw [later, Option.some_or] at given
      cases given
      simp only [filled] at run
      split at run
      · obtain ⟨value, _, run⟩ := bind_ok run
        exact ih later run
      · exact ih later run
    | none =>
      rw [later, Option.none_or] at given
      split at given
      · rename_i same
        subst same
        cases given
        simp only [filled, has, if_true] at run
        obtain ⟨value, converted, run⟩ := bind_ok run
        refine ⟨value, mapError_ok converted, ?_⟩
        rw [get?_filled (lastValues?_eq_none.1 later) run, Row.get?_set, if_pos rfl]
      · cases given

/-- Containers are put only where a column is lacking. -/
theorem get?_fillContainers {columns : List Column} {column : String} {value : Value} {row : Row}
    (held : row.get? column = some value) :
    (fillContainers row columns).get? column = some value := by
  induction columns generalizing row with
  | nil => exact held
  | cons other rest ih =>
    simp only [fillContainers, List.foldl_cons]
    by_cases present : row.contains other.name = true
    · rw [if_pos present]
      exact ih held
    · rw [if_neg present]
      apply ih
      have different : column ≠ other.name := by
        intro same
        apply present
        rw [← same, Row.contains, Keyed.contains, ← Row.get?, held]
        rfl
      rw [Row.get?_set, if_neg different]
      exact held

theorem get?_dn_namedRow (t : Table) (dn leaf cls : String) :
    (namedRow t dn leaf cls).get? dnColumn = some (.text dn) := by
  have afterClass : dnColumn ≠ classColumn := by decide
  have afterDocId : dnColumn ≠ docIdColumn := by decide
  simp only [namedRow, Row.get?_set, if_neg afterClass, if_neg afterDocId, if_true]

theorem drafted_ok {t : Table} {cls : String} {row : Row}
    (draft : drafted c t cls r = .ok row) :
    ∃ leaf full, Dn.leaf r.dn = .ok leaf ∧
      filled c t (namedRow t r.dn leaf cls) r.dataAttributes = .ok full ∧
      row = fillContainers full t.structuredColumns := by
  simp only [drafted] at draft
  obtain ⟨leaf, found, draft⟩ := bind_ok draft
  obtain ⟨full, fill, draft⟩ := bind_ok draft
  cases draft
  exact ⟨leaf, full, mapError_ok found, fill, rfl⟩

theorem get?_dn_drafted {t : Table} {cls : String} {row : Row}
    (spared : ∀ a ∈ r.dataAttributes, a.1 ≠ dnColumn) (draft : drafted c t cls r = .ok row) :
    row.get? dnColumn = some (.text r.dn) := by
  obtain ⟨leaf, full, _, fill, rfl⟩ := drafted_ok draft
  apply get?_fillContainers
  rw [get?_filled spared fill]
  exact get?_dn_namedRow t r.dn leaf cls

theorem dn?_drafted {t : Table} {cls : String} {row : Row}
    (spared : ∀ a ∈ r.dataAttributes, a.1 ≠ dnColumn) (draft : drafted c t cls r = .ok row) :
    row.dn? = some r.dn := by
  rw [Row.dn?, get?_dn_drafted spared draft]
  rfl

/-! ## Names that are taken -/

theorem holds_of_fresh (texts : m.TextDns) {dn : String} (fresh : m.hasDn dn = false) {t : Table}
    (known : tables.get? t.name = some t) (has : t.hasColumn dnColumn = true) {s : MemoryTable}
    (found : m.tables.get? t.name = some s) : holds m tables dn t.name = .ok false := by
  have nobody : m.firstPassing (Directory.exactly dn) t.name = none := by
    rw [Memory.firstPassing_exactly texts]
    exact Memory.leader_of_fresh fresh t.name
  simp only [holds, known, Memory.select_dn has, Memory.stored, found, nobody]
  rfl

/-! ## When an entry is made -/

/-- A record that makes a new entry if its name is free: it has a stored table with all the
columns of a row that can be drafted for it. -/
def Creatable (m : Memory) (tables : Keyed Table) (c : Coercion) (r : ChangeRecord) : Prop :=
  r.operation = .create ∧ ∃ cls t row, targetClass? r = some cls ∧ tables.get? cls = some t ∧
    drafted c t cls r = .ok row ∧ Memory.checkColumns t row.values.keys = .ok () ∧
    ∃ s, m.tables.get? t.name = some s

theorem creatable_alike (alike : Alike m m') :
    Creatable m' tables c r ↔ Creatable m tables c r := by
  constructor
  · rintro ⟨new, cls, t, row, target, known, draft, columns, s, found⟩
    exact ⟨new, cls, t, row, target, known, draft, columns,
      Memory.stored_alike (Memory.alike_symm alike) found⟩
  · rintro ⟨new, cls, t, row, target, known, draft, columns, s, found⟩
    exact ⟨new, cls, t, row, target, known, draft, columns, Memory.stored_alike alike found⟩

/-- A record that neither stores nor changes an attribute `dn`. -/
def SparesDn (r : ChangeRecord) : Prop :=
  (r.operation = .create → ∀ a ∈ r.dataAttributes, a.1 ≠ dnColumn) ∧ target? r ≠ some dnColumn

theorem plan_ne_dn (spares : SparesDn r) {p : Plan}
    (plan : planned m tables c r = .ok (some p)) : p.column ≠ dnColumn := by
  intro same
  apply spares.2
  rw [(planned_aim plan).2.2.2, same]

theorem outcome_of_creatable (texts : m.TextDns) (byName : KeyedByName tables)
    (spares : SparesDn r) (can : Creatable m tables c r) (fresh : m.hasDn r.dn = false) :
    ∃ t row m', drafted c t t.name r = .ok row ∧ m.insert t row = .ok m' ∧
      outcome m tables c r = (.created, m') := by
  obtain ⟨new, cls, t, row, target, known, draft, columns, s, found⟩ := can
  have own : t.name = cls := byName cls t known
  subst own
  have named := get?_dn_drafted (spares.1 new) draft
  have has : t.hasColumn dnColumn = true :=
    Memory.checkColumns_ok.1 columns dnColumn (Keyed.mem_keys_of_get? named)
  have free : ∀ dn, row.dn? = some dn → m.hasDn dn = false := by
    intro dn same
    rw [dn?_drafted (spares.1 new) draft, Option.some.injEq] at same
    rw [← same]
    exact fresh
  have inserted := Memory.insert_of_fresh columns free found
  refine ⟨t, row, _, draft, inserted, ?_⟩
  simp only [outcome, applied, new, creation, target, known, createdIn,
    holds_of_fresh texts fresh known has found, ok_bind, draft, inserted]
  rfl

theorem created_iff (texts : m.TextDns) (byName : KeyedByName tables) (spares : SparesDn r) :
    (outcome m tables c r).1 = .created ↔ Creatable m tables c r ∧ m.hasDn r.dn = false := by
  constructor
  · intro made
    obtain ⟨new, t, row, target, known, draft, inserted⟩ := insertion_of_created byName made
    obtain ⟨columns, free, found, _⟩ := Memory.insert_ok inserted
    exact ⟨⟨new, t.name, t, row, target, known, draft, columns, found⟩,
      free r.dn (dn?_drafted (spares.1 new) draft)⟩
  · rintro ⟨can, fresh⟩
    obtain ⟨_, _, _, _, _, out⟩ := outcome_of_creatable texts byName spares can fresh
    rw [out]

/-- A record that makes no entry: it can make none, or its name is taken. -/
def Spent (m : Memory) (tables : Keyed Table) (c : Coercion) (r : ChangeRecord) : Prop :=
  Creatable m tables c r → m.hasDn r.dn = true

theorem not_created_of_spent (texts : m.TextDns) (byName : KeyedByName tables)
    (spares : SparesDn r) (spent : Spent m tables c r) : (outcome m tables c r).1 ≠ .created := by
  intro made
  obtain ⟨can, fresh⟩ := (created_iff texts byName spares).1 made
  rw [spent can] at fresh
  cases fresh

theorem spent_grown (grown : Grown m m') (spent : Spent m tables c r) : Spent m' tables c r := by
  intro can
  exact grown.kept r.dn (spent ((creatable_alike grown.toAlike).1 can))

theorem spent_outcome (texts : m.TextDns) (byName : KeyedByName tables) (spares : SparesDn r)
    (grown : Grown m (outcome m tables c r).2) : Spent (outcome m tables c r).2 tables c r := by
  intro can
  have before := (creatable_alike grown.toAlike).1 can
  -- the name was there and stays, or the record made the entry just now
  cases taken : m.hasDn r.dn with
  | true => exact grown.kept r.dn taken
  | false =>
    obtain ⟨t, row, m', draft, inserted, out⟩ :=
      outcome_of_creatable texts byName spares before taken
    rw [out]
    exact Memory.hasDn_insert (dn?_drafted (spares.1 before.1) draft) inserted

end RelDirectory.Ldif
