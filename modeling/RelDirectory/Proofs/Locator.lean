import Mathlib.Data.List.Find
import RelDirectory.Directory
import RelDirectory.Proofs.Growth

/-!
# Where an entry is found

On the store in memory, finding an entry is a function of the known tables and the stored rows
(`Memory.entryRow?`), which the directory computes without changing the store (`effect_find?`),
asking for its tables if it does not know them (`effect_find?_asked`).  In a `Tidy` directory the
row found is the first of its table with its `dn` (`entryRow?_leads`).  A write to another column
than `dn` moves no entry: it is found where it was, with the column set (`entryRow?_written`).
-/
set_option autoImplicit false
namespace RelDirectory

namespace Memory

/-- The tables that can name entries, in order of name. -/
def naming (tables : Keyed Table) : List Table := tables.values.filter (·.hasColumn dnColumn)

/-- Of all tables the first row that passes a test on its `dn`. -/
def firstRow (m : Memory) (test : Test) (tables : List Table) : Option Row :=
  tables.findSome? fun t => m.firstPassing test t.name

/-- The row of an entry: the first with just this `dn`, else the first whose `dn` ends so. -/
def entryRow? (m : Memory) (tables : Keyed Table) (dn : String) : Option Row :=
  if Text.allBlank dn.toList then none
  else
    (m.firstRow (Directory.exactly dn) (naming tables)).or
      (m.firstRow (Directory.endingIn dn) (naming tables))

/-- The first row of a table with a text as its `dn`. -/
def leader (m : Memory) (name dn : String) : Option Row :=
  (m.rows name).find? fun row => row.dn? == some dn

end Memory

namespace Directory

open Step

variable (d : Directory Memory)

/-! ## What the directory's lookups do -/

@[simp] theorem effect_onStore {α : Type} (x : Step Memory α) :
    effect (onStore x) d = ((effect x d.store).1, { d with store := (effect x d.store).2 }) := rfl

theorem effect_select (t : Table) (predicates : List Predicate) (limit : Option Nat) :
    effect (onStore (Store.select t predicates limit)) d =
      (d.store.select t predicates limit, d) := rfl

theorem effect_discover :
    effect discover d =
      match d.store.reflect with
      | .ok found => (.ok (), { d with tables := some (keyed found) })
      | .error e => (.error e, d) := by
  have asked : effect (onStore (Store.reflect (σ := Memory))) d = (d.store.reflect, d) := rfl
  cases answer : d.store.reflect with
  | ok found =>
    rw [answer] at asked
    simp [discover, asked]
  | error e =>
    rw [answer] at asked
    simp [discover, asked]

theorem effect_reflect (force : Bool) :
    effect (reflect force) d =
      if d.tables.isSome && !force then (.ok (), d) else effect discover d := by
  simp only [reflect, effect_bind, effect_current]
  split <;> rfl

variable {d}

theorem effect_reflect_known {tables : Keyed Table} (known : d.tables = some tables) :
    effect (reflect false) d = (.ok (), d) := by
  rw [effect_reflect, known]
  rfl

/-- Discovery finds tables, or it fails and leaves the directory as it is. -/
theorem reflect_cases (d : Directory Memory) (force : Bool) :
    (∃ e, effect (reflect force) d = (.error e, d)) ∨
      ∃ d' tables, effect (reflect force) d = (.ok (), d') ∧ d'.store = d.store ∧
        d'.tables = some tables := by
  rw [effect_reflect]
  by_cases kept : (d.tables.isSome && !force) = true
  · rw [if_pos kept]
    obtain ⟨tables, known⟩ := Option.isSome_iff_exists.1 (Bool.and_eq_true_iff.1 kept).1
    exact Or.inr ⟨d, tables, rfl, rfl, known⟩
  · rw [if_neg kept, effect_discover]
    cases d.store.reflect with
    | error e => exact Or.inl ⟨e, rfl⟩
    | ok found => exact Or.inr ⟨{ d with tables := some (keyed found) }, _, rfl, rfl, rfl⟩

theorem effect_knownTables_discovered {d' : Directory Memory} {tables : Keyed Table}
    (discovered : effect (reflect false) d = (.ok (), d')) (known : d'.tables = some tables) :
    effect knownTables d = (.ok tables, d') := by
  simp only [knownTables, effect_bind, discovered, effect_current, effect_pure, known,
    Option.getD_some]

theorem effect_knownTables {tables : Keyed Table} (known : d.tables = some tables) :
    effect knownTables d = (.ok tables, d) :=
  effect_knownTables_discovered (effect_reflect_known known) known

/-- Tables are asked for with an answer that is kept, or the directory stays as it is. -/
theorem knownTables_cases (d : Directory Memory) :
    (∃ e, effect knownTables d = (.error e, d)) ∨
      ∃ d' tables, effect knownTables d = (.ok tables, d') ∧ d'.store = d.store ∧
        d'.tables = some tables := by
  rcases reflect_cases d false with ⟨e, failed⟩ | ⟨d', tables, found, store, known⟩
  · refine Or.inl ⟨e, ?_⟩
    simp only [knownTables, effect_bind, failed]
  · exact Or.inr ⟨d', tables, effect_knownTables_discovered found known, store, known⟩

theorem effect_table? {tables : Keyed Table} (known : d.tables = some tables) (name : String) :
    effect (table? name) d = (.ok (tables.get? name), d) := by
  simp only [table?, effect_bind, effect_knownTables known, effect_pure]

theorem effect_tableOf {tables : Keyed Table} (known : d.tables = some tables) (row : Row) :
    effect (tableOf row) d =
      match tables.get? row.table with
      | some t => (.ok t, d)
      | none => (.error (.noTable row.table), d) := by
  simp only [tableOf, effect_bind, effect_table? known]
  cases tables.get? row.table <;> rfl

theorem effect_firstIn (dn : String) (test : Test) {ts : List Table}
    (naming : ∀ t ∈ ts, t.hasColumn dnColumn = true) :
    effect (firstIn dn test ts) d = (.ok (d.store.firstRow test ts), d) := by
  induction ts with
  | nil => rfl
  | cons t ts ih =>
    have rest := ih fun other member => naming other (List.mem_cons_of_mem _ member)
    have selected : d.store.select t [⟨dnColumn, test⟩] (some 1) = _ :=
      Memory.select_dn (naming t List.mem_cons_self)
    simp only [firstIn, effect_bind, effect_attempt, effect_select, selected]
    cases present : d.store.stored t with
    | error e =>
      -- the table is passed over, and as it is not stored it has no rows
      have absent : d.store.firstPassing test t.name = none := by
        simp only [Memory.stored] at present
        split at present
        · cases present
        · rename_i missing
          simp [Memory.firstPassing, Memory.rows_of_get?_none missing]
      simp [Except.map, rest, Memory.firstRow, absent]
    | ok s =>
      cases first : d.store.firstPassing test t.name with
      | none => simp [Except.map, rest, Memory.firstRow, first]
      | some row => simp [Except.map, Memory.firstRow, first]

theorem hasColumn_of_mem_naming {tables : Keyed Table} {t : Table}
    (member : t ∈ Memory.naming tables) : t.hasColumn dnColumn = true :=
  (List.mem_filter.1 member).2

/-- Finding an entry looks at the known tables and the rows, and changes nothing. -/
theorem effect_find? {tables : Keyed Table} (known : d.tables = some tables) (dn : String) :
    effect (find? dn) d = (.ok (d.store.entryRow? tables dn), d) := by
  have named : ∀ t ∈ Memory.naming tables, t.hasColumn dnColumn = true := fun _ member =>
    hasColumn_of_mem_naming member
  have precise := effect_firstIn (d := d) dn (exactly dn) named
  have ending := effect_firstIn (d := d) dn (endingIn dn) named
  simp only [Memory.naming] at precise ending
  simp only [find?, Memory.entryRow?, Memory.naming]
  split
  · simp
  · simp only [effect_bind, effect_knownTables known, precise]
    cases d.store.firstRow (exactly dn) (tables.values.filter (·.hasColumn dnColumn)) with
    | some row => rfl
    | none => simp only [ending, Option.none_or]

/-- A table that is looked up is one of those asked for, and the store stays. -/
theorem table?_known {name : String} {t : Table}
    (known : (table? name d).result = .ok (some t)) :
    ∃ d', effect (table? name) d = (.ok (some t), d') ∧ d'.store = d.store := by
  rcases knownTables_cases d with ⟨e, failed⟩ | ⟨d', tables, asked, store, _⟩
  · have ran : effect (table? name) d = (.error e, d) := by
      simp only [table?, effect_bind, failed]
    rw [result_of_effect ran] at known
    cases known
  · have ran : effect (table? name) d = (.ok (tables.get? name), d') := by
      simp only [table?, effect_bind, asked, effect_pure]
    rw [result_of_effect ran, Except.ok.injEq] at known
    rw [known] at ran
    exact ⟨d', ran, store⟩

/-- A name that is not blank is looked for in the tables that are asked for. -/
theorem effect_find?_asked {d' : Directory Memory} {tables : Keyed Table}
    (asked : effect knownTables d = (.ok tables, d')) (known : d'.tables = some tables)
    {dn : String} (named : Text.allBlank dn.toList = false) :
    effect (find? dn) d = (.ok (d'.store.entryRow? tables dn), d') := by
  rw [← effect_find? known dn]
  simp only [find?, named, Bool.false_eq_true, if_false, effect_bind, asked,
    effect_knownTables known]

theorem effect_find?_error {e : Failure} (failed : effect knownTables d = (.error e, d))
    {dn : String} (named : Text.allBlank dn.toList = false) :
    effect (find? dn) d = (.error e, d) := by
  simp only [find?, named, Bool.false_eq_true, if_false, effect_bind, failed]

/-! ## Tables known by their names -/

/-- Every known table stands under its own name. -/
def KeyedByName (tables : Keyed Table) : Prop := ∀ name t, tables.get? name = some t → t.name = name

/-- Of several tables of one name the last one is known. -/
theorem get?_keyed (found : List Table) (name : String) :
    (keyed found).get? name = (found.filter (·.name == name)).getLast? := by
  rw [keyed, Keyed.get?_ofList, List.filter_map, List.getLast?_map, Option.map_map]
  exact congrFun Option.map_id _

theorem keyedByName_keyed (found : List Table) : KeyedByName (keyed found) := by
  intro name t held
  have member := Keyed.get?_ofList_mem held
  obtain ⟨t', _, same⟩ := List.mem_map.1 member
  cases same
  rfl

/-- Every row stands in the table that it names, and every known table under its own name. -/
structure Tidy (d : Directory Memory) : Prop where
  placed : d.store.Placed
  byName : ∀ tables, d.tables = some tables → KeyedByName tables

theorem tidy_new {m : Memory} (placed : m.Placed) (c : Catalog) : Tidy (new m c) := ⟨placed, nofun⟩

theorem tidy_discovered (tidy : Tidy d) (found : List Table) :
    Tidy { d with tables := some (keyed found) } := by
  refine ⟨tidy.placed, ?_⟩
  intro tables known
  cases known
  exact keyedByName_keyed found

theorem get?_of_mem_naming {tables : Keyed Table} (byName : KeyedByName tables) {t : Table}
    (member : t ∈ Memory.naming tables) : tables.get? t.name = some t := by
  obtain ⟨name, held⟩ := Keyed.mem_values_iff.1 (List.mem_filter.1 member).1
  rw [byName name t held]
  exact held

/-- The directory of some clients, in which several redirect URIs share a column and every other
attribute is a text. -/
def ofClients (rows : List Row) : Directory Memory :=
  new (Memory.single Memory.clients rows)
    ⟨[⟨["jansRedirectURI"], "", true⟩],
      .ofList [(Catalog.structuredSyntax, .ofList [("mysql", ⟨"JSON", none⟩)]),
        (Catalog.directoryString, .ofList [("mysql", ⟨"VARCHAR", some 64⟩)])],
      .empty, .empty⟩

/-- A directory over a store with one table knows it when asked. -/
theorem effect_knownTables_single {t : Table} {rows : List Row}
    (home : ∀ row ∈ rows, row.table = t.name) (c : Catalog) :
    effect knownTables (new (Memory.single t rows) c) =
      (.ok (keyed [t]), { new (Memory.single t rows) c with tables := some (keyed [t]) }) := by
  have found := (Memory.rows_single home).2
  simp only [knownTables, effect_bind, effect_reflect, effect_discover, new, found]
  rfl

theorem tidy_ofClients (rows : List Row) : Tidy (ofClients rows) :=
  tidy_new (Memory.placed_single Memory.clients rows) _

theorem textDns_ofClients {rows : List Row} (named : ∀ row ∈ rows, row.dn?.isSome) :
    (ofClients rows).store.TextDns := Memory.textDns_single Memory.clients named

end Directory

namespace Memory

variable {m : Memory} {tables : Keyed Table}

/-! ## The row that is found -/

theorem firstRow_mem {test : Test} {ts : List Table} {row : Row}
    (found : m.firstRow test ts = some row) :
    ∃ t ∈ ts, m.firstPassing test t.name = some row :=
  List.exists_of_findSome?_eq_some found

/-- A row that is found stands in a known table and passes one of the two tests. -/
theorem entryRow?_mem {dn : String} {row : Row} (found : m.entryRow? tables dn = some row) :
    ∃ t ∈ naming tables, m.firstPassing (Directory.exactly dn) t.name = some row ∨
      m.firstPassing (Directory.endingIn dn) t.name = some row := by
  simp only [entryRow?] at found
  split at found
  · cases found
  · rcases Option.or_eq_some_iff.1 found with found | ⟨_, found⟩
    · obtain ⟨t, member, first⟩ := firstRow_mem found
      exact ⟨t, member, Or.inl first⟩
    · obtain ⟨t, member, first⟩ := firstRow_mem found
      exact ⟨t, member, Or.inr first⟩

theorem mem_of_firstPassing {test : Test} {name : String} {row : Row}
    (first : m.firstPassing test name = some row) : row ∈ m.rows name :=
  List.mem_of_find?_eq_some first

theorem passes_of_firstPassing {test : Test} {name : String} {row : Row}
    (first : m.firstPassing test name = some row) : passes test (row.get? dnColumn) = true :=
  List.find?_some (p := fun row : Row => passes test (row.get? dnColumn)) first

/-- The row that is found stands in a known table, the one that it names. -/
theorem entryRow?_held (placed : m.Placed) {dn : String} {row : Row}
    (found : m.entryRow? tables dn = some row) :
    ∃ t ∈ naming tables, row.table = t.name ∧ row ∈ m.rows t.name := by
  obtain ⟨t, naming, first⟩ := entryRow?_mem found
  have member : row ∈ m.rows t.name := by
    rcases first with first | first <;> exact mem_of_firstPassing first
  exact ⟨t, naming, placed t.name row member, member⟩

/-- A row with just the name that is asked for comes before any that only ends so. -/
theorem shownDn?_entryRow? {t : Table} (known : t ∈ naming tables) {dn : String} {row entry : Row}
    (member : row ∈ m.rows t.name) (named : row.shownDn? = some dn)
    (found : m.entryRow? tables dn = some entry) : entry.shownDn? = some dn := by
  have hit : (m.firstRow (Directory.exactly dn) (naming tables)).isSome := by
    rw [firstRow, List.findSome?_isSome_iff]
    refine ⟨t, known, ?_⟩
    rw [firstPassing, List.find?_isSome]
    exact ⟨row, member, passes_equals_iff.2 named⟩
  obtain ⟨first, before⟩ := Option.isSome_iff_exists.1 hit
  have same : first = entry := by
    simp only [entryRow?, before, Option.some_or] at found
    split at found
    · cases found
    · exact Option.some.inj found
  subst same
  obtain ⟨_, _, passing⟩ := firstRow_mem before
  exact passes_equals_iff.1 (passes_of_firstPassing passing)

/-- The first row that passes a test on its `dn` is the first of its table with its `dn`. -/
theorem leader_of_firstPassing {test : Test} {name dn : String} {row : Row}
    (first : m.firstPassing test name = some row) (named : row.dn? = some dn) :
    m.leader name dn = some row := by
  obtain ⟨passed, before, behind, split, earlier⟩ := List.find?_eq_some_iff_append.1 first
  refine List.find?_eq_some_iff_append.2 ⟨by simp [named], before, behind, split, ?_⟩
  intro other member
  have failed := earlier other member
  cases same : other.dn? == some dn with
  | false => rfl
  | true =>
    have held := get?_of_dn? (eq_of_beq same)
    rw [held, ← get?_of_dn? named, passed] at failed
    cases failed

theorem firstPassing_exactly (texts : m.TextDns) (dn name : String) :
    m.firstPassing (Directory.exactly dn) name = m.leader name dn := by
  refine List.find?_congr ?_
  intro row member
  obtain ⟨own, named⟩ := texts name row member
  rw [get?_of_dn? named, named]
  simp [passes, Directory.exactly, Value.display]

theorem leader_mem {name dn : String} {first : Row} (leads : m.leader name dn = some first) :
    first ∈ m.rows name ∧ first.dn? = some dn :=
  ⟨List.mem_of_find?_eq_some leads, by simpa using List.find?_some leads⟩

theorem leader_of_mem {name dn : String} {row : Row} (member : row ∈ m.rows name)
    (named : row.dn? = some dn) : ∃ first, m.leader name dn = some first := by
  apply Option.isSome_iff_exists.1
  rw [leader, List.find?_isSome]
  exact ⟨row, member, by simp [named]⟩

theorem leader_of_fresh {dn : String} (fresh : m.hasDn dn = false) (name : String) :
    m.leader name dn = none := by
  cases found : m.leader name dn with
  | none => rfl
  | some row =>
    obtain ⟨member, named⟩ := leader_mem found
    exact absurd named (dn?_ne_of_fresh fresh member)

/-- Where every row has a text as its `dn` and tables are known by name, the row that is found
stands in the table it names, as the first with its `dn`. -/
theorem entryRow?_leads (placed : m.Placed) (texts : m.TextDns)
    (byName : Directory.KeyedByName tables) {asked : String} {row : Row}
    (found : m.entryRow? tables asked = some row) :
    ∃ t dn, tables.get? row.table = some t ∧ t.name = row.table ∧ row.dn? = some dn ∧
      m.leader row.table dn = some row := by
  obtain ⟨t, member, first⟩ := entryRow?_mem found
  have held : row ∈ m.rows t.name := by
    rcases first with first | first <;> exact mem_of_firstPassing first
  have home : row.table = t.name := placed t.name row held
  obtain ⟨dn, named⟩ := texts t.name row held
  refine ⟨t, dn, ?_, home.symm, named, ?_⟩
  · rw [home]
    exact Directory.get?_of_mem_naming byName member
  · rw [home]
    rcases first with first | first <;> exact leader_of_firstPassing first named

/-! ## Finding after a write -/

/-- A column set in a row if it is one of those that a write reaches. -/
def overwrite (name dn column : String) (value : Value) (row : Row) : Row :=
  if row.table = name then setColumn dn column value row else row

theorem rows_written_eq_map (placed : m.Placed) (name dn column : String) (value : Value)
    (other : String) : (m.written name dn column value).rows other =
      (m.rows other).map (overwrite name dn column value) := by
  rw [rows_written]
  split
  · rename_i same
    refine List.map_congr_left ?_
    intro row member
    rw [overwrite, if_pos ((placed other row member).trans same)]
  · rename_i different
    refine ((List.map_id' _).symm.trans (List.map_congr_left ?_))
    intro row member
    rw [overwrite, if_neg fun same => different ((placed other row member).symm.trans same)]

theorem table_overwrite (name dn column : String) (value : Value) (row : Row) :
    (overwrite name dn column value row).table = row.table := by
  rw [overwrite]
  split
  · exact table_setColumn dn column value row
  · rfl

theorem get?_overwrite (name dn column : String) (value : Value) (row : Row) (other : String) :
    (overwrite name dn column value row).get? other =
      if row.table = name ∧ row.dn? = some dn ∧ other = column then some value
      else row.get? other := by
  rw [overwrite]
  by_cases home : row.table = name
  · rw [if_pos home, get?_setColumn]
    simp only [home, true_and]
  · rw [if_neg home, if_neg fun both => home both.1]

theorem get?_dn_overwrite {column : String} (other : column ≠ dnColumn) (name dn : String)
    (value : Value) (row : Row) :
    (overwrite name dn column value row).get? dnColumn = row.get? dnColumn := by
  rw [overwrite]
  split
  · exact get?_dn_setColumn other dn value row
  · rfl

theorem firstPassing_written (placed : m.Placed) {column : String} (other : column ≠ dnColumn)
    (name dn : String) (value : Value) (test : Test) (table : String) :
    (m.written name dn column value).firstPassing test table =
      (m.firstPassing test table).map (overwrite name dn column value) := by
  rw [firstPassing, rows_written_eq_map placed, List.find?_map]
  have same : ((fun row : Row => passes test (row.get? dnColumn)) ∘
      overwrite name dn column value) = fun row => passes test (row.get? dnColumn) := by
    funext row
    simp only [Function.comp_apply, get?_dn_overwrite other]
  rw [same]
  rfl

theorem firstRow_written (placed : m.Placed) {column : String} (other : column ≠ dnColumn)
    (name dn : String) (value : Value) (test : Test) (ts : List Table) :
    (m.written name dn column value).firstRow test ts =
      (m.firstRow test ts).map (overwrite name dn column value) := by
  induction ts with
  | nil => rfl
  | cons t ts ih =>
    simp only [firstRow, List.findSome?_cons, firstPassing_written placed other] at ih ⊢
    cases m.firstPassing test t.name with
    | none => exact ih
    | some row => rfl

theorem entryRow?_written (placed : m.Placed) {column : String} (other : column ≠ dnColumn)
    (name dn : String) (value : Value) (asked : String) :
    (m.written name dn column value).entryRow? tables asked =
      (m.entryRow? tables asked).map (overwrite name dn column value) := by
  simp only [entryRow?, firstRow_written placed other]
  split
  · rfl
  · cases m.firstRow (Directory.exactly asked) (naming tables) <;> rfl

theorem leader_written (placed : m.Placed) {column : String} (other : column ≠ dnColumn)
    (name dn : String) (value : Value) (table asked : String) :
    (m.written name dn column value).leader table asked =
      (m.leader table asked).map (overwrite name dn column value) := by
  rw [leader, rows_written_eq_map placed, List.find?_map]
  have same : ((fun row : Row => row.dn? == some asked) ∘ overwrite name dn column value) =
      fun row => row.dn? == some asked := by
    funext row
    simp only [Function.comp_apply, Row.dn?, get?_dn_overwrite other]
  rw [same]
  rfl

end Memory

end RelDirectory
