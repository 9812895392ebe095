import RelDirectory.Proofs.Ldif.Containers
import RelDirectory.Proofs.Ldif.Identity

/-!
# What a new row holds

A new row is filled in three steps: its names, the record's attributes that the table has columns
for, and containers for the columns that are left.  Each step says which columns it brings in
(`contains_drafted_iff`), so a row that is stored is complete; a value that cannot be converted or
a name that is none stops the row (`drafted_of_faulty`), and then nothing is stored
(`apply_complete`).
-/
set_option autoImplicit false
namespace RelDirectory.Ldif

open Directory (Tidy)

variable {m m' : Memory} {d : Directory Memory} {tables : Keyed Table} {c : Coercion}
  {r : ChangeRecord} {t : Table} {row full : Row} {column : String}

/-- The columns that name a row. -/
def identityColumns : List String := [dnColumn, docIdColumn, classColumn]

/-- The row has just the columns that it should have, filled from the record or left empty. -/
structure Complete (c : Coercion) (t : Table) (r : ChangeRecord) (row : Row) : Prop where
  columns : ∀ column, row.contains column = true ↔ column ∈ identityColumns ∨
    (t.hasColumn column = true ∧ ∃ a ∈ r.dataAttributes, a.1 = column) ∨
      ∃ s ∈ t.structuredColumns, s.name = column
  given : ∀ attr values, (attr, values) ∈ r.dataAttributes → t.hasColumn attr = true →
    attr ≠ dnColumn → attr ≠ docIdColumn →
      ∃ value, c.toColumn attr values = .ok value ∧ row.get? attr = some value
  left : ∀ s ∈ t.structuredColumns, s.name ∉ identityColumns →
    (∀ a ∈ r.dataAttributes, a.1 ≠ s.name) → row.get? s.name = some .emptyContainer

/-- A record of which no row can be made. -/
inductive Faulty (d : Directory Memory) (r : ChangeRecord) : Prop
  | badName {fault : Dn.Fault} (unread : Dn.parse r.dn = .error fault)
  | badValue {t : Table} {attr : String} {values : List String} {fault : Coercion.Fault}
      (target : targetClass? r = some t.name) (known : d.described? t.name = some t)
      (given : (attr, values) ∈ r.dataAttributes) (has : t.hasColumn attr = true)
      (unconverted : d.coercion.toColumn attr values = .error fault)

/-! ## The columns of a row -/

theorem contains_iff : row.contains column = true ↔ ∃ value, row.get? column = some value :=
  Option.isSome_iff_exists

theorem contains_set (row : Row) (name : String) (value : Value) :
    (row.set name value).contains column = true ↔ column = name ∨ row.contains column = true := by
  rw [contains_iff, contains_iff, Row.get?_set]
  by_cases same : column = name
  · simp [same]
  · simp [same]

theorem contains_namedRow (t : Table) (dn leaf cls : String) :
    (namedRow t dn leaf cls).contains column = true ↔ column ∈ identityColumns := by
  have nothing : (Row.empty t.name).contains column = false := rfl
  simp only [namedRow, contains_set, nothing, identityColumns, List.mem_cons, List.not_mem_nil,
    Bool.false_eq_true, or_false]
  tauto

theorem contains_filled {attributes : List (String × List String)}
    (run : filled c t row attributes = .ok full) :
    full.contains column = true ↔ row.contains column = true ∨
      (t.hasColumn column = true ∧ ∃ a ∈ attributes, a.1 = column) := by
  induction attributes generalizing row with
  | nil =>
    cases run
    simp
  | cons held rest ih =>
    obtain ⟨name, values⟩ := held
    simp only [filled] at run
    split at run
    · rename_i has
      obtain ⟨value, _, run⟩ := bind_ok run
      rw [ih run, contains_set]
      by_cases same : column = name
      · simp [same, has]
      · simp [same, Ne.symm same]
    · rename_i lacks
      rw [ih run]
      by_cases same : name = column
      · simp [← same, lacks]
      · simp [same]

theorem fillContainers_cons (row : Row) (s : Column) (columns : List Column) :
    fillContainers row (s :: columns) =
      fillContainers (if row.contains s.name then row else row.set s.name .emptyContainer)
        columns := rfl

theorem contains_fillContainers (columns : List Column) :
    (fillContainers row columns).contains column = true ↔ row.contains column = true ∨
      ∃ s ∈ columns, s.name = column := by
  induction columns generalizing row with
  | nil => simp [fillContainers]
  | cons s rest ih =>
    rw [fillContainers_cons, ih]
    by_cases present : row.contains s.name = true
    · rw [if_pos present]
      by_cases same : s.name = column
      · subst same
        simp [present]
      · simp [same]
    · rw [if_neg present, contains_set]
      by_cases same : s.name = column
      · simp [same]
      · simp [same, Ne.symm same]

/-- A container is put where a column is lacking. -/
theorem get?_fillContainers_lacking {columns : List Column} {s : Column} (member : s ∈ columns)
    (lacks : row.contains s.name = false) :
    (fillContainers row columns).get? s.name = some .emptyContainer := by
  induction columns generalizing row with
  | nil => cases member
  | cons first rest ih =>
    rw [fillContainers_cons]
    by_cases same : s.name = first.name
    · rw [← same, lacks]
      exact get?_fillContainers (by simp)
    · have later : s ∈ rest := by
        rcases List.mem_cons.1 member with rfl | later
        · exact absurd rfl same
        · exact later
      refine ih later ?_
      split
      · exact lacks
      · rw [← Bool.not_eq_true, contains_set]
        simp [same, lacks]

theorem contains_drafted_iff {cls : String} (draft : drafted c t cls r = .ok row) :
    row.contains column = true ↔ column ∈ identityColumns ∨
      (t.hasColumn column = true ∧ ∃ a ∈ r.dataAttributes, a.1 = column) ∨
        ∃ s ∈ t.structuredColumns, s.name = column := by
  obtain ⟨leaf, full, _, fill, rfl⟩ := drafted_ok draft
  rw [contains_fillContainers, contains_filled fill, contains_namedRow, or_assoc]

/-! ## Complete rows -/

/-- Where names are distinct, every attribute is the last of its name. -/
theorem lastValues?_of_nodup {attributes : List (String × List String)} {name : String}
    {values : List String} (distinct : (attributes.map (·.1)).Nodup)
    (member : (name, values) ∈ attributes) : lastValues? name attributes = some values := by
  induction attributes with
  | nil => cases member
  | cons held rest ih =>
    obtain ⟨n, own⟩ := held
    obtain ⟨fresh, distinct⟩ := List.nodup_cons.1 distinct
    rw [lastValues?]
    rcases List.mem_cons.1 member with same | member
    · cases same
      have none : lastValues? name rest = none := by
        refine lastValues?_eq_none.2 ?_
        intro a held same
        exact fresh (List.mem_map.2 ⟨a, held, same⟩)
      rw [none, if_pos rfl, Option.none_or]
    · rw [ih distinct member, Option.some_or]

theorem complete_drafted {cls : String} (distinct : (r.entry.map (·.1)).Nodup)
    (draft : drafted c t cls r = .ok row) : Complete c t r row := by
  have several : (r.dataAttributes.map (·.1)).Nodup :=
    distinct.sublist (List.filter_sublist.map _)
  refine ⟨fun column => contains_drafted_iff draft, ?_, ?_⟩
  all_goals
    obtain ⟨leaf, full, _, fill, rfl⟩ := drafted_ok draft
  · intro attr values member has _ _
    obtain ⟨value, converted, held⟩ :=
      get?_filled_last has (lastValues?_of_nodup several member) fill
    exact ⟨value, converted, get?_fillContainers held⟩
  · intro s member other spared
    refine get?_fillContainers_lacking member ?_
    rw [← Bool.not_eq_true, contains_filled fill, contains_namedRow]
    rintro (named | ⟨_, a, given, same⟩)
    · exact other named
    · exact spared a given same

/-! ## Rows that cannot be made -/

theorem filled_error {attributes : List (String × List String)} {attr : String}
    {values : List String} {fault : Coercion.Fault} (member : (attr, values) ∈ attributes)
    (has : t.hasColumn attr = true) (unconverted : c.toColumn attr values = .error fault) :
    ∃ e, filled c t row attributes = .error e := by
  induction attributes generalizing row with
  | nil => cases member
  | cons held rest ih =>
    obtain ⟨name, own⟩ := held
    simp only [filled]
    rcases List.mem_cons.1 member with same | member
    · cases same
      rw [if_pos has, unconverted]
      exact ⟨_, rfl⟩
    · split
      · cases c.toColumn name own with
        | error e => exact ⟨_, rfl⟩
        | ok value => exact ih member
      · exact ih member

theorem leaf_of_unread {fault : Dn.Fault} {dn : String} (unread : Dn.parse dn = .error fault) :
    Dn.leaf dn = .error fault := by
  rw [Dn.leaf, unread]
  rfl

theorem drafted_of_faulty (known : d.tables = some tables) (faulty : Faulty d r)
    (target : targetClass? r = some t.name) (held : tables.get? t.name = some t) :
    ∃ e, drafted d.coercion t t.name r = .error e := by
  cases faulty with
  | badName unread =>
    rw [drafted, leaf_of_unread unread]
    exact ⟨_, rfl⟩
  | @badValue t' attr values fault target' known' given has unconverted =>
    have same : t'.name = t.name := Option.some.inj (target'.symm.trans target)
    rw [Directory.described?, known, Option.bind_some, same, held, Option.some.injEq] at known'
    subst known'
    cases leaf : Dn.leaf r.dn with
    | error fault =>
      rw [drafted, leaf]
      exact ⟨_, rfl⟩
    | ok leaf' =>
      obtain ⟨e, stopped⟩ : ∃ e, filled d.coercion t (namedRow t r.dn leaf' t.name)
          r.dataAttributes = .error e := filled_error given has unconverted
      rw [drafted, leaf]
      exact ⟨e, by simp only [Except.mapError, ok_bind, stopped, error_bind]⟩

/-! ## Created records -/

/-- A record for a new entry stores a complete row or none. -/
def storedWhole : Law := fun d r a d' => r.operation = .create →
  (a = .created → (r.entry.map (·.1)).Nodup →
    ∃ t row, Made d r d'.store t row ∧ Complete d.coercion t r row) ∧
  (Faulty d r → a ≠ .created ∧ d'.store = d.store)

theorem storedWhole_outcome (tidy : Tidy d) (known : d.tables = some tables) :
    storedWhole d r (outcome d.store tables d.coercion r).1
      { d with store := (outcome d.store tables d.coercion r).2 } := by
  intro new
  constructor
  · intro created distinct
    obtain ⟨_, t, row, target, held, draft, inserted⟩ :=
      insertion_of_created (tidy.byName tables known) created
    have complete := complete_drafted distinct draft
    exact ⟨t, _, made_insert known target held inserted, complete.columns, complete.given,
      complete.left⟩
  · intro faulty
    have spared : (outcome d.store tables d.coercion r).1 ≠ .created := by
      intro created
      obtain ⟨_, t, row, target, held, draft, _⟩ :=
        insertion_of_created (tidy.byName tables known) created
      obtain ⟨e, stopped⟩ := drafted_of_faulty known faulty target held
      rw [draft] at stopped
      cases stopped
    have aim : target? r = none := by simp only [target?, new]
    exact ⟨spared, outcome_still aim spared⟩

/-- Of each record of a batch that is for a new entry the row is stored completely or not at
all. -/
theorem apply_complete (d : Directory Memory) (tidy : Tidy d) (force : Bool)
    (found : (Directory.reflect force d).result = .ok ()) (rs : List ChangeRecord) :
    ∃ as, (apply rs force d).result = .ok (reportOf as) ∧
      Along storedWhole (Directory.reflect force d).state rs as (apply rs force d).state := by
  refine along_apply ?_ tidy found rs
  intro d tables tidy known r
  exact storedWhole_outcome tidy known

/-- A client with an attribute that its table has no column for and none of its redirect URIs, and
one whose name has no value. -/
def namedAndNameless : List ChangeRecord := [
  ⟨"inum=1,o=jans", [("objectClass", ["top", "jansClnt"]), ("displayName", ["one"]),
    ("nickname", ["uno"])]⟩,
  ⟨"inum", [("objectClass", ["top", "jansClnt"]), ("displayName", ["two"])]⟩]

theorem apply_complete_nameless :
    let d := Directory.ofClients []
    let done := apply namedAndNameless false d
    Tidy d ∧ (Directory.reflect false d).result = .ok () ∧ done.result = .ok ⟨1, 0, 0, 1⟩ ∧
      ∃ as, Along storedWhole (Directory.reflect false d).state namedAndNameless as done.state := by
  intro d done
  have tidy : Tidy d := Directory.tidy_ofClients []
  have fine : (Directory.reflect false d).result = .ok () := by decide
  obtain ⟨as, _, along⟩ := apply_complete d tidy false fine namedAndNameless
  exact ⟨tidy, fine, by decide +kernel, as, along⟩

end RelDirectory.Ldif
