import RelDirectory.Directory.Configuration
import RelDirectory.Directory.Search
import RelDirectory.Proofs.Locator

/-!
# What looking up an entry can do

Looking up an entry or a table and searching cannot tell directories apart that know the same
tables and whose stores select the same rows (`respects_find?`, `respects_search`).  They may
discover the tables, and change nothing else: they preserve what discovering preserves, so the
store stays (`store_entry`).  A call that sets an attribute sends at most one update, to the row
and table of its entry (`store_setAttribute`).
-/
set_option autoImplicit false
namespace RelDirectory.Directory

open Step
open RelDirectory.Configuration (authDn scriptDn documentColumn propertyColumn)

section Lookups

variable {R : Directory Memory → Directory Memory → Prop}

/-- Related directories know the same tables, and their stores select the same rows. -/
structure LooksAlike (R : Directory Memory → Directory Memory → Prop) : Prop where
  backend : ∀ d d', R d d' → d'.backend = d.backend
  known : Respects R knownTables
  selects : ∀ t predicates limit, Respects R (onStore (Store.select t predicates limit))

theorem respects_failed (context message : String) : Respects R (failed context message) :=
  respects_bind (respects_report _) fun _ => respects_pure _

variable (looks : LooksAlike R)

include looks

theorem respects_table? (name : String) : Respects R (table? name) :=
  respects_bind looks.known fun _ => respects_pure _

theorem respects_firstIn (dn : String) (test : Test) (ts : List Table) :
    Respects R (firstIn dn test ts) := by
  induction ts with
  | nil => exact respects_pure none
  | cons t ts ih =>
    refine respects_bind (respects_attempt (looks.selects t _ _)) ?_
    intro answer
    split
    · exact respects_bind (respects_report _) fun _ => respects_pure _
    · exact ih
    · exact respects_bind (respects_report _) fun _ => ih

theorem respects_find? (dn : String) : Respects R (find? dn) := by
  simp only [find?]
  split
  · exact respects_bind (respects_report _) fun _ => respects_pure none
  · refine respects_bind looks.known ?_
    intro tables
    refine respects_bind (respects_firstIn looks dn _ _) ?_
    intro found
    cases found with
    | some row => exact respects_pure (some row)
    | none => exact respects_firstIn looks dn _ _

theorem respects_findOrReport (dn : String) : Respects R (findOrReport dn) := by
  refine respects_bind (respects_report _) fun _ => ?_
  refine respects_bind (respects_attempt (respects_find? looks dn)) ?_
  intro answer
  cases answer with
  | ok found => exact respects_pure found
  | error e => exact respects_bind (respects_report _) fun _ => respects_pure none

theorem respects_existsIn (dn table : String) : Respects R (existsIn dn table) := by
  refine respects_bind (respects_report _) fun _ => ?_
  refine respects_bind (respects_table? looks table) ?_
  intro home
  cases home with
  | none => exact respects_pure false
  | some t => exact respects_bind (looks.selects t _ _) fun _ => respects_pure _

theorem respects_entry (dn : String) : Respects R (entry dn) := by
  refine respects_bind (respects_find? looks dn) ?_
  intro found
  cases found with
  | none => exact respects_fail _
  | some row => exact respects_pure row

theorem respects_tableOf (row : Row) : Respects R (tableOf row) := by
  refine respects_bind (respects_table? looks row.table) ?_
  intro found
  cases found with
  | none => exact respects_fail _
  | some t => exact respects_pure t

theorem respects_authDocument : Respects R authDocument := by
  refine respects_bind (respects_entry looks _) ?_
  intro row
  split
  · split
    · exact respects_pure _
    · exact respects_fail _
  · exact respects_pure _
  · exact respects_fail _

/-! ### Searching -/

theorem respects_runQuery (q : Filter.Query) (many : Bool) : Respects R (runQuery q many) := by
  refine respects_bind (respects_attempt (respects_table? looks q.table)) ?_
  intro home
  split
  · exact respects_failed _ _
  · exact respects_failed _ _
  · split
    · exact respects_failed _ _
    · refine respects_bind (respects_attempt (looks.selects _ _ _)) ?_
      intro answer
      cases answer with
      | error e => exact respects_failed _ _
      | ok rows => exact respects_bind (respects_report _) fun _ => respects_pure _

theorem respects_search (base filter : String) (scope : Scope) (many : Bool) :
    Respects R (search base filter scope many) := by
  have warned : ∀ rest : Step (Directory Memory) QueryOutcome, Respects R rest →
      Respects R (if Filter.parse filter = .unsupported then
        report (.warn .search ("Unsupported filter " ++ filter)) >>= fun _ => rest else rest) := by
    intro rest held
    split
    · exact respects_bind (respects_report _) fun _ => held
    · exact held
  simp only [search]
  cases (Filter.parse filter).query? with
  | none => exact respects_bind (respects_report _) fun _ => warned _ (respects_failed _ _)
  | some q =>
    exact respects_bind (respects_report _) fun _ => warned _ (respects_runQuery looks q many)

theorem respects_execute (statement : String) (fetch : Fetch) :
    Respects R (execute statement fetch) := by
  have runs : Respects R (onStore (Store.execute statement fetch : Step Memory (List Row))) :=
    fun _ _ related => ⟨rfl, related⟩
  refine respects_current ?_ fun d => ?_
  · intro d d' related
    rw [looks.backend d d' related]
  · refine respects_bind (respects_report _) fun _ => ?_
    refine respects_bind (respects_attempt runs) ?_
    intro answer
    cases answer with
    | ok rows => exact respects_pure _
    | error e => exact respects_failed _ _

/-! ### Calls that set an attribute of one entry -/

theorem respects_setAttribute
    (updates : ∀ t dn column value, Respects R (updateColumn t dn column value))
    (dn column : String) (value : Value) : Respects R (setAttribute dn column value) := by
  refine respects_bind (respects_entry looks dn) ?_
  intro row
  refine respects_bind (respects_tableOf looks row) ?_
  intro t
  split
  · exact respects_bind (updates t _ column value) fun _ => respects_report _
  · exact respects_fail _

theorem respects_addClientToScript (inum client : String)
    (sets : ∀ value, Respects R (setAttribute (scriptDn inum) propertyColumn value)) :
    Respects R (addClientToScript inum client) := by
  refine respects_bind (respects_entry looks _) ?_
  intro row
  exact respects_bind (respects_report _) fun _ => sets _

theorem respects_updateAuthDocument (entries : List (String × Json))
    (sets : ∀ value, Respects R (setAttribute authDn documentColumn value)) :
    Respects R (updateAuthDocument entries) := by
  refine respects_bind (respects_authDocument looks) ?_
  intro document
  exact respects_bind (respects_report _) fun _ => sets _

end Lookups

/-! ## What discovering preserves -/

section Preserved

variable {P : Directory Memory → Prop}

theorem preserves_reflect (discovers : ∀ d found, P d → P { d with tables := some (keyed found) })
    (force : Bool) : Preserves P (reflect force) := by
  intro d held
  rw [effect_reflect]
  split
  · exact held
  · rw [effect_discover]
    split
    · exact discovers d _ held
    · exact held

variable (reflects : Preserves P (reflect false))

include reflects

theorem looksAlike_only : LooksAlike (Only P) where
  backend := by
    rintro d _ ⟨rfl, _⟩
    rfl
  known := by
    refine respects_bind (respects_only_iff.2 reflects) fun _ => ?_
    refine respects_current ?_ fun _ => respects_pure _
    rintro d _ ⟨rfl, _⟩
    rfl
  selects _ _ _ := respects_only_iff.2 fun _ held => held

theorem preserves_entry (dn : String) : Preserves P (entry dn) :=
  respects_only_iff.1 (respects_entry (looksAlike_only reflects) dn)

theorem preserves_tableOf (row : Row) : Preserves P (tableOf row) :=
  respects_only_iff.1 (respects_tableOf (looksAlike_only reflects) row)

theorem preserves_setAttribute
    (updates : ∀ t dn column value, Preserves P (updateColumn t dn column value))
    (dn column : String) (value : Value) : Preserves P (setAttribute dn column value) := by
  have sends := fun t dn column value => respects_only_iff.2 (updates t dn column value)
  exact respects_only_iff.1 (respects_setAttribute (looksAlike_only reflects) sends _ _ _)

theorem preserves_addClientToScript (inum client : String)
    (sets : ∀ value, Preserves P (setAttribute (scriptDn inum) propertyColumn value)) :
    Preserves P (addClientToScript inum client) := by
  have each := fun value => respects_only_iff.2 (sets value)
  exact respects_only_iff.1 (respects_addClientToScript (looksAlike_only reflects) _ _ each)

theorem preserves_updateAuthDocument (entries : List (String × Json))
    (sets : ∀ value, Preserves P (setAttribute authDn documentColumn value)) :
    Preserves P (updateAuthDocument entries) := by
  have each := fun value => respects_only_iff.2 (sets value)
  exact respects_only_iff.1 (respects_updateAuthDocument (looksAlike_only reflects) _ each)

end Preserved

theorem tidy_reflect (force : Bool) : Preserves Tidy (reflect force) :=
  preserves_reflect (fun _ found tidy => tidy_discovered tidy found) force

theorem tidy_of_reflect {d d' : Directory Memory} {force : Bool} (tidy : Tidy d)
    (discovered : effect (reflect force) d = (.ok (), d')) : Tidy d' := by
  have kept := tidy_reflect force d tidy
  rwa [discovered] at kept

/-! ## The store stays -/

theorem store_reflect (m : Memory) :
    Preserves (fun d : Directory Memory => d.store = m) (reflect false) :=
  preserves_reflect (fun _ _ same => same) false

theorem store_entry (dn : String) (d : Directory Memory) :
    (effect (entry dn) d).2.store = d.store :=
  preserves_entry (store_reflect d.store) dn d rfl

theorem store_tableOf (row : Row) (d : Directory Memory) :
    (effect (tableOf row) d).2.store = d.store :=
  preserves_tableOf (store_reflect d.store) row d rfl

/-! ## Setting one column of an entry -/

/-- The row of an entry and its table, if both are found. -/
def placeOf (d : Directory Memory) (dn : String) : Option (Row × Table) :=
  match effect (entry dn) d with
  | (.error _, _) => none
  | (.ok row, d') =>
    match effect (tableOf row) d' with
    | (.error _, _) => none
    | (.ok t, _) => some (row, t)

theorem store_setAttribute (d : Directory Memory) (dn column : String) (value : Value) :
    (setAttribute dn column value d).state.store =
      match placeOf d dn with
      | none => d.store
      | some (row, t) =>
        match d.store.update t (row.dn?.getD dn) column value with
        | .ok (_, m) => m
        | .error _ => d.store := by
  -- neither lookup writes, so the update is sent to the store of `d`
  have found := store_entry dn d
  have given : (setAttribute dn column value d).state =
      (effect (setAttribute dn column value) d).2 := rfl
  rw [given, placeOf, setAttribute, effect_bind]
  cases entered : effect (entry dn) d with
  | mk result d' =>
    rw [entered] at found
    cases result with
    | error e => exact found
    | ok row =>
      have tabled := store_tableOf row d'
      simp only [effect_bind]
      cases home : effect (tableOf row) d' with
      | mk result d'' =>
        rw [home, found] at tabled
        cases result with
        | error e => exact tabled
        | ok t =>
          have same : d''.store = d.store := tabled
          by_cases has : t.hasColumn column = true
          · simp only [if_pos has, effect_bind, updateColumn, effect_onStore, Store.update,
              Memory.effect_changing, same]
            cases d.store.update t (row.dn?.getD dn) column value with
            | error e => rfl
            | ok sent => rfl
          · simp only [if_neg has, effect_fail, Memory.update_error_of_column has]
            exact same

end RelDirectory.Directory
