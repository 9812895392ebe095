import RelDirectory.Proofs.Effect
import RelDirectory.Proofs.Keyed
import RelDirectory.Store.Memory

/-!
# The rows of the store in memory

A call on the store either fails and leaves it, or it writes: an insertion adds one row to one
table (`insert_ok`), an update sets one column in the rows of one table that have one `dn`
(`update_ok`).  What a write does to the rows is said table by table (`rows_addRow`,
`rows_written`).  A selection gives the rows whose values pass its tests, which is a matter of the
texts they are shown as (`select_of_stored`, `passes_equals_iff`).  Writes keep rows in the tables
that they name (`placed_addRow`, `placed_written`).
-/
set_option autoImplicit false
namespace RelDirectory

theorem Row.ext_get? {r s : Row} (table : r.table = s.table)
    (same : ∀ column, r.get? column = s.get? column) : r = s := by
  obtain ⟨rt, rv⟩ := r
  obtain ⟨st, sv⟩ := s
  cases table
  rw [Keyed.ext_get? (m := rv) (n := sv) same]

theorem Row.set_set (row : Row) (column : String) (first second : Value) :
    (row.set column first).set column second = row.set column second := by
  refine Row.ext_get? rfl ?_
  intro other
  simp only [Row.get?_set]
  split <;> rfl

theorem Row.set_of_get? {row : Row} {column : String} {value : Value}
    (held : row.get? column = some value) : row.set column value = row := by
  refine Row.ext_get? rfl ?_
  intro other
  rw [Row.get?_set]
  split
  · rename_i same
    rw [same, held]
  · rfl

/-- The text that a value is compared as; null has none. -/
def Value.shown? : Value → Option String
  | .null => none
  | value => some value.display

/-- The text of a row's `dn`. -/
def Row.shownDn? (r : Row) : Option String := (r.get? dnColumn).bind Value.shown?

namespace Memory

open Step

/-- A call that changes the store leaves it as it is if it fails. -/
theorem effect_changing {α : Type} (f : Memory → Except Failure (α × Memory)) (m : Memory) :
    effect (changing f) m =
      match f m with
      | .ok (value, next) => (.ok value, next)
      | .error e => (.error e, m) := by
  simp only [effect, changing]
  cases f m <;> rfl

/-! ## Passing a test -/

theorem get?_of_dn? {row : Row} {dn : String} (named : row.dn? = some dn) :
    row.get? dnColumn = some (.text dn) := by
  obtain ⟨value, held, text⟩ := Option.bind_eq_some_iff.1 named
  cases value <;> simp [Value.text?] at text
  rw [held, text]

theorem shownDn?_of_dn? {row : Row} {dn : String} (named : row.dn? = some dn) :
    row.shownDn? = some dn := by
  rw [Row.shownDn?, get?_of_dn? named]
  rfl

theorem passes_equals_iff {held : Option Value} {expected : String} :
    passes (.equals (.text expected)) held = true ↔ held.bind Value.shown? = some expected := by
  cases held with
  | none => simp [passes]
  | some value => cases value <;> simp [passes, Value.shown?, Value.display]

theorem passes_like_iff {held : Option Value} {pattern : String} :
    passes (.like pattern) held = true ↔
      ∃ text, held.bind Value.shown? = some text ∧ Like.matchesPattern pattern text = true := by
  cases held with
  | none => simp [passes]
  | some value => cases value <;> simp [passes, Value.shown?, Value.display]

/-! ## Looking at rows -/

theorem rows_of_get? {m : Memory} {name : String} {t : MemoryTable}
    (found : m.tables.get? name = some t) : m.rows name = t.rows := by
  simp [rows, table, found]

theorem rows_of_get?_none {m : Memory} {name : String} (found : m.tables.get? name = none) :
    m.rows name = [] := by
  simp [rows, table, found]

theorem isStored_of_mem {m : Memory} {name : String} {row : Row} (member : row ∈ m.rows name) :
    ∃ t, m.tables.get? name = some t := by
  cases found : m.tables.get? name with
  | none =>
    rw [rows_of_get?_none found] at member
    cases member
  | some t => exact ⟨t, rfl⟩

theorem mem_allRows_iff {m : Memory} {row : Row} :
    row ∈ m.allRows ↔ ∃ name, row ∈ m.rows name := by
  simp only [allRows, List.mem_flatMap, Keyed.mem_values_iff]
  constructor
  · rintro ⟨t, ⟨name, found⟩, member⟩
    exact ⟨name, by rwa [rows_of_get? found]⟩
  · rintro ⟨name, member⟩
    obtain ⟨t, found⟩ := isStored_of_mem member
    exact ⟨t, ⟨name, found⟩, by rwa [rows_of_get? found] at member⟩

theorem hasDn_iff {m : Memory} {dn : String} :
    m.hasDn dn = true ↔ ∃ name, ∃ row ∈ m.rows name, row.dn? = some dn := by
  simp only [hasDn, List.any_eq_true, beq_iff_eq, mem_allRows_iff]
  constructor
  · rintro ⟨row, ⟨name, member⟩, named⟩
    exact ⟨name, row, member, named⟩
  · rintro ⟨name, row, member, named⟩
    exact ⟨row, ⟨name, member⟩, named⟩

theorem dn?_ne_of_fresh {m : Memory} {dn name : String} {row : Row} (fresh : m.hasDn dn = false)
    (member : row ∈ m.rows name) : row.dn? ≠ some dn := by
  intro named
  have taken := hasDn_iff.2 ⟨name, row, member, named⟩
  rw [fresh] at taken
  cases taken

/-- The first row of a table that passes a test on its `dn`. -/
def firstPassing (m : Memory) (test : Test) (name : String) : Option Row :=
  (m.rows name).find? fun row => passes test (row.get? dnColumn)

theorem head?_upTo_one (p : Row → Bool) (rows : List Row) :
    (upTo (some 1) (rows.filter p)).head? = rows.find? p := by
  rw [← List.head?_filter]
  cases rows.filter p <;> rfl

theorem select_dn {m : Memory} {t : Table} {test : Test} (column : t.hasColumn dnColumn = true) :
    m.select t [⟨dnColumn, test⟩] (some 1) =
      (m.stored t).map fun _ => (m.firstPassing test t.name).toList := by
  simp only [select, List.map_cons, List.map_nil, checkColumns, checkColumn, if_pos column,
    stored, firstPassing]
  cases found : m.tables.get? t.name with
  | none => rfl
  | some s =>
    rw [rows_of_get? found]
    have conditions : satisfiesAll [⟨dnColumn, test⟩] =
        fun row => passes test (row.get? dnColumn) := by
      funext row
      simp [satisfiesAll, satisfies]
    simp only [conditions, bind, Except.bind, pure, Except.pure, Except.map, Except.ok.injEq]
    rw [← head?_upTo_one]
    cases s.rows.filter fun row => passes test (row.get? dnColumn) <;> rfl

/-! ## Writing rows -/

@[simp] theorem table_setTable (m : Memory) (name other : String) (t : MemoryTable) :
    (m.setTable name t).table other = if other = name then t else m.table other := by
  simp only [table, setTable, Keyed.get?_insert]
  split <;> rfl

theorem rows_setTable (m : Memory) (name other : String) (t : MemoryTable) :
    (m.setTable name t).rows other = if other = name then t.rows else m.rows other := by
  simp only [rows, table_setTable]
  split <;> rfl

theorem table_of_stored {m : Memory} {t : Table} {s : MemoryTable} (found : m.stored t = .ok s) :
    m.table t.name = s := by
  simp only [stored] at found
  split at found
  · rename_i present
    cases found
    simp [table, present]
  · cases found

/-- The store with a column set in the rows of a table that have one `dn`. -/
def written (m : Memory) (name dn column : String) (value : Value) : Memory :=
  m.setTable name
    { m.table name with rows := (m.rows name).map (setColumn dn column value) }

theorem rows_written (m : Memory) (name dn column : String) (value : Value) (other : String) :
    (m.written name dn column value).rows other =
      if other = name then (m.rows other).map (setColumn dn column value) else m.rows other := by
  rw [written, rows_setTable]
  split
  · rename_i same
    rw [same]
  · rfl

theorem rows_addRow (m : Memory) (row : Row) (other : String) :
    (m.addRow row).rows other =
      if other = row.table then m.rows other ++ [row] else m.rows other := by
  rw [addRow, rows_setTable]
  split
  · rename_i same
    rw [same]
    rfl
  · rfl

/-- An update that succeeds has the column and the table, and writes. -/
theorem update_ok {m m' : Memory} {t : Table} {dn column : String} {value : Value} {n : Nat}
    (run : m.update t dn column value = .ok (n, m')) :
    t.hasColumn column = true ∧ (∃ s, m.tables.get? t.name = some s) ∧
      m' = m.written t.name dn column value := by
  simp only [update, checkColumn] at run
  split at run
  · rename_i has
    cases found : m.stored t with
    | error e => simp [found, bind, Except.bind] at run
    | ok s =>
      have held := table_of_stored found
      simp only [found, bind, Except.bind, pure, Except.pure, Except.ok.injEq,
        Prod.mk.injEq] at run
      refine ⟨has, ?_, ?_⟩
      · simp only [stored] at found
        split at found
        · exact ⟨_, by assumption⟩
        · cases found
      · rw [← run.2, written, rows, held]
  · cases run

theorem update_of_stored {m : Memory} {t : Table} {dn column : String} {value : Value}
    {s : MemoryTable} (has : t.hasColumn column = true)
    (found : m.tables.get? t.name = some s) :
    m.update t dn column value =
      .ok ((m.rows t.name).countP fun r => r.dn? == some dn, m.written t.name dn column value) := by
  simp only [update, checkColumn, if_pos has, stored, found, bind, Except.bind, pure, Except.pure,
    written, table, rows, Option.getD_some]

theorem update_error_of_column {m : Memory} {t : Table} {dn column : String} {value : Value}
    (has : ¬ t.hasColumn column = true) :
    m.update t dn column value = .error (.noColumn t.name column) := by
  simp only [update, checkColumn, if_neg has]
  rfl

/-- An insertion that succeeds is of a row with known columns and a new `dn`, and adds it. -/
theorem insert_ok {m m' : Memory} {t : Table} {row : Row} (run : m.insert t row = .ok m') :
    checkColumns t row.values.keys = .ok () ∧ (∀ dn, row.dn? = some dn → m.hasDn dn = false) ∧
      (∃ s, m.tables.get? t.name = some s) ∧ m' = m.addRow { row with table := t.name } := by
  simp only [insert] at run
  cases columns : checkColumns t row.values.keys with
  | error e => simp [columns, bind, Except.bind] at run
  | ok _ =>
    cases unique : m.checkUnique t row with
    | error e => simp [columns, unique, bind, Except.bind] at run
    | ok _ =>
      cases found : m.stored t with
      | error e => simp [columns, unique, found, bind, Except.bind] at run
      | ok s =>
        have held := table_of_stored found
        simp only [columns, unique, found, bind, Except.bind, pure, Except.pure,
          Except.ok.injEq] at run
        refine ⟨rfl, ?_, ?_, ?_⟩
        · intro dn named
          simp only [checkUnique, named] at unique
          split at unique
          · cases unique
          · rename_i fresh
            simpa using fresh
        · simp only [stored] at found
          split at found
          · exact ⟨_, by assumption⟩
          · cases found
        · rw [← run, addRow, held]

theorem checkColumns_ok {t : Table} {columns : List String} :
    checkColumns t columns = .ok () ↔ ∀ column ∈ columns, t.hasColumn column = true := by
  induction columns with
  | nil => simp [checkColumns]
  | cons column rest ih =>
    by_cases has : t.hasColumn column = true
    · simp [checkColumns, checkColumn, has, ih]
    · simp [checkColumns, checkColumn, has]

theorem select_of_stored {m : Memory} {t : Table} {s : MemoryTable} {predicates : List Predicate}
    (columns : ∀ p ∈ predicates, t.hasColumn p.column = true)
    (found : m.tables.get? t.name = some s) (limit : Option Nat) :
    m.select t predicates limit =
      .ok (upTo limit ((m.rows t.name).filter (satisfiesAll predicates))) := by
  have checked : checkColumns t (predicates.map (·.column)) = .ok () := by
    refine checkColumns_ok.2 ?_
    intro column member
    obtain ⟨p, held, rfl⟩ := List.mem_map.1 member
    exact columns p held
  simp only [select, checked, stored, found, ok_bind, rows_of_get? found]
  rfl

theorem insert_of_fresh {m : Memory} {t : Table} {row : Row} {s : MemoryTable}
    (columns : checkColumns t row.values.keys = .ok ())
    (fresh : ∀ dn, row.dn? = some dn → m.hasDn dn = false)
    (found : m.tables.get? t.name = some s) :
    m.insert t row = .ok (m.addRow { row with table := t.name }) := by
  have unique : m.checkUnique t row = .ok () := by
    simp only [checkUnique]
    cases named : row.dn? with
    | none => rfl
    | some dn => simp [fresh dn named]
  simp only [insert, columns, unique, stored, found, ok_bind, addRow, table, Option.getD_some]
  rfl

/-! ## A column set in a row -/

@[simp] theorem table_setColumn (dn column : String) (value : Value) (row : Row) :
    (setColumn dn column value row).table = row.table := by
  simp only [setColumn]
  split <;> rfl

theorem get?_setColumn (dn column other : String) (value : Value) (row : Row) :
    (setColumn dn column value row).get? other =
      if row.dn? = some dn ∧ other = column then some value else row.get? other := by
  by_cases named : row.dn? = some dn
  · simp [setColumn, named]
  · simp [setColumn, named]

theorem get?_dn_setColumn {column : String} (other : column ≠ dnColumn) (dn : String)
    (value : Value) (row : Row) :
    (setColumn dn column value row).get? dnColumn = row.get? dnColumn := by
  rw [get?_setColumn, if_neg]
  rintro ⟨_, same⟩
  exact other same.symm

theorem dn?_setColumn {column : String} (other : column ≠ dnColumn) (dn : String)
    (value : Value) (row : Row) : (setColumn dn column value row).dn? = row.dn? := by
  simp only [Row.dn?, get?_dn_setColumn other]

theorem shownDn?_setColumn {column : String} (other : column ≠ dnColumn) (dn : String)
    (value : Value) (row : Row) :
    (setColumn dn column value row).shownDn? = row.shownDn? := by
  simp only [Row.shownDn?, get?_dn_setColumn other]

theorem setColumn_setColumn {column : String} (other : column ≠ dnColumn) (dn : String)
    (first second : Value) (row : Row) :
    setColumn dn column second (setColumn dn column first row) =
      setColumn dn column second row := by
  refine Row.ext_get? (by simp only [table_setColumn]) fun asked => ?_
  simp only [get?_setColumn, dn?_setColumn other]
  split <;> rfl

/-- Of two values that are set in a column one after the other the second one stays. -/
theorem written_written (m : Memory) (name dn : String) {column : String}
    (other : column ≠ dnColumn) (first second : Value) :
    (m.written name dn column first).written name dn column second =
      m.written name dn column second := by
  have rows : ((m.written name dn column first).rows name).map (setColumn dn column second) =
      (m.rows name).map (setColumn dn column second) := by
    rw [rows_written, if_pos rfl, List.map_map]
    exact List.map_congr_left fun row _ => setColumn_setColumn other dn first second row
  have tables (old new : MemoryTable) :
      (m.setTable name old).setTable name new = m.setTable name new := by
    simp only [setTable, Memory.mk.injEq, true_and, and_true]
    refine Keyed.ext_get? fun asked => ?_
    simp only [Keyed.get?_insert]
    split <;> rfl
  rw [written, rows, written, table_setTable, if_pos rfl, tables]
  rfl

/-! ## What every store keeps -/

/-- Every row stands in the table that it names. -/
def Placed (m : Memory) : Prop := ∀ name, ∀ row ∈ m.rows name, row.table = name

/-- Every row has a text as its `dn`. -/
def TextDns (m : Memory) : Prop := ∀ name, ∀ row ∈ m.rows name, ∃ dn, row.dn? = some dn

theorem placed_new (b : Backend) : (new b).Placed := by
  intro name row member
  cases member

theorem placed_addTable {m : Memory} (placed : m.Placed) (t : Table) : (m.addTable t).Placed := by
  intro name row member
  rw [addTable, rows_setTable] at member
  split at member
  · rename_i same
    rw [same]
    exact placed t.name row member
  · exact placed name row member

theorem placed_addRow {m : Memory} (placed : m.Placed) (row : Row) : (m.addRow row).Placed := by
  intro name r member
  rw [rows_addRow] at member
  split at member
  · rename_i same
    rcases List.mem_append.1 member with member | member
    · exact placed name r member
    · rw [List.mem_singleton.1 member, same]
  · exact placed name r member

theorem placed_written {m : Memory} (placed : m.Placed) (name dn column : String)
    (value : Value) : (m.written name dn column value).Placed := by
  intro other r member
  rw [rows_written] at member
  split at member
  · obtain ⟨row, held, rfl⟩ := List.mem_map.1 member
    rw [table_setColumn]
    exact placed other row held
  · exact placed other r member

theorem textDns_new (b : Backend) : (new b).TextDns := by
  intro name row member
  cases member

theorem textDns_addTable {m : Memory} (texts : m.TextDns) (t : Table) :
    (m.addTable t).TextDns := by
  intro name row member
  rw [addTable, rows_setTable] at member
  split at member
  · exact texts t.name row member
  · exact texts name row member

theorem textDns_addRow {m : Memory} (texts : m.TextDns) {row : Row} {dn : String}
    (named : row.dn? = some dn) : (m.addRow row).TextDns := by
  intro name r member
  rw [rows_addRow] at member
  split at member
  · rcases List.mem_append.1 member with member | member
    · exact texts name r member
    · rw [List.mem_singleton.1 member]
      exact ⟨dn, named⟩
  · exact texts name r member

theorem textDns_written {m : Memory} (texts : m.TextDns) {column : String}
    (other : column ≠ dnColumn) (name dn : String) (value : Value) :
    (m.written name dn column value).TextDns := by
  intro table r member
  rw [rows_written] at member
  split at member
  · obtain ⟨row, held, rfl⟩ := List.mem_map.1 member
    rw [dn?_setColumn other]
    exact texts table row held
  · exact texts table r member

/-! ## Stores with one table -/

/-- A store with one table and some rows. -/
def single (t : Table) (rows : List Row) : Memory := rows.foldl addRow ((new .mysql).addTable t)

theorem placed_single (t : Table) (rows : List Row) : (single t rows).Placed := by
  have general : ∀ (rows : List Row) (m : Memory), m.Placed → (rows.foldl addRow m).Placed := by
    intro rows
    induction rows with
    | nil => exact fun _ placed => placed
    | cons row rest ih => exact fun m placed => ih _ (placed_addRow placed row)
  exact general rows _ (placed_addTable (placed_new .mysql) t)

theorem textDns_single (t : Table) {rows : List Row} (named : ∀ row ∈ rows, row.dn?.isSome) :
    (single t rows).TextDns := by
  have general : ∀ (rows : List Row) (m : Memory), m.TextDns → (∀ row ∈ rows, row.dn?.isSome) →
      (rows.foldl addRow m).TextDns := by
    intro rows
    induction rows with
    | nil => exact fun _ texts _ => texts
    | cons row rest ih =>
      intro m texts named
      obtain ⟨dn, first⟩ := Option.isSome_iff_exists.1 (named row List.mem_cons_self)
      exact ih _ (textDns_addRow texts first) fun other member =>
        named other (List.mem_cons_of_mem _ member)
  exact general rows _ (textDns_addTable (textDns_new .mysql) t) named

/-- A table of clients, with one column that holds several values. -/
def clients : Table :=
  ⟨"jansClnt", [⟨"dn", "VARCHAR"⟩, ⟨"doc_id", "VARCHAR"⟩, ⟨"objectClass", "VARCHAR"⟩,
    ⟨"displayName", "VARCHAR"⟩, ⟨"jansRedirectURI", "JSON"⟩]⟩

def client (dn displayName : String) (uris : List String) : Row :=
  (((Row.empty clients.name).set dnColumn (.text dn)).set "displayName" (.text displayName)).set
    "jansRedirectURI" (.ofStrings uris)

end Memory

end RelDirectory
