import RelDirectory.Proofs.Ldif.Run
import RelDirectory.Proofs.Undiscovered

/-!
# The tables that are known

A directory discovers its tables once and keeps them, while other handles of its store register
tables, seed rows or cut the connection.  `learnt_after` says all that a call can do to the known
tables.  From it follows the discipline that every history of calls and changes of the store keeps
(`disciplined_history`): tables stand under their own names, a failed discovery changes nothing,
known tables stay known, and only a forced discovery or a table found by asking for it changes
what is known.  Every other call gets along without discovery.
-/
set_option autoImplicit false
namespace RelDirectory.Directory

open Step
open Memory (Alike SameRows)

/-- The calls on a directory. -/
inductive Operation where
  | ping
  | reflect (force : Bool)
  | tables
  | table (name : String)
  | tableExists (name : String)
  | find (dn : String)
  | findOrReport (dn : String)
  | existsIn (dn table : String)
  | search (base filter : String) (scope : Scope) (many : Bool)
  | execute (statement : String) (fetch : Fetch)
  | insertRow (t : Table) (row : Row)
  | updateColumn (t : Table) (dn column : String) (value : Value)
  | setAttribute (dn column : String) (value : Value)
  | apply (records : List ChangeRecord) (force : Bool)
  | authDocument
  | updateAuthDocument (entries : List (String × Json))
  | enableScript (inum : String)
  | setConfiguration (component : String) (value : Value)
  | enableService (service : String)
  | addClientToScript (inum client : String)

namespace Operation

/-- What a call gives if it succeeds. -/
abbrev Answer : Operation → Type
  | .tables => Keyed Table
  | .table _ => Option Table
  | .tableExists _ => Bool
  | .find _ => Option Row
  | .findOrReport _ => Option Row
  | .existsIn _ _ => Bool
  | .search _ _ _ _ => QueryOutcome
  | .execute _ _ => QueryOutcome
  | .updateColumn _ _ _ _ => Nat
  | .apply _ _ => Report
  | .authDocument => Json
  | _ => Unit

def step : (op : Operation) → Step (Directory Memory) op.Answer
  | .ping => Directory.ping
  | .reflect force => Directory.reflect force
  | .tables => knownTables
  | .table name => table? name
  | .tableExists name => Directory.tableExists name
  | .find dn => find? dn
  | .findOrReport dn => Directory.findOrReport dn
  | .existsIn dn home => Directory.existsIn dn home
  | .search base filter scope many => Directory.search base filter scope many
  | .execute statement fetch => Directory.execute statement fetch
  | .insertRow t row => Directory.insertRow t row
  | .updateColumn t dn column value => Directory.updateColumn t dn column value
  | .setAttribute dn column value => Directory.setAttribute dn column value
  | .apply records force => Ldif.apply records force
  | .authDocument => Directory.authDocument
  | .updateAuthDocument entries => Directory.updateAuthDocument entries
  | .enableScript inum => Directory.enableScript inum
  | .setConfiguration component value => Directory.setConfiguration component value
  | .enableService service => Directory.enableService service
  | .addClientToScript inum client => Directory.addClientToScript inum client

/-- What a call gives on a directory. -/
def result (op : Operation) (d : Directory Memory) : Except Failure op.Answer :=
  (effect op.step d).1

/-- The directory after a call, whether it fails or not. -/
def after (op : Operation) (d : Directory Memory) : Directory Memory := (effect op.step d).2

/-- Whether a call discovers the tables anew though they are known. -/
def forces : Operation → Bool
  | .reflect force => force
  | .apply _ force => force
  | _ => false

/-- Whether a call asks the store for its tables when some are known. -/
def discovers (tables : Keyed Table) : Operation → Bool
  | .tableExists name => !tables.contains name
  | op => op.forces

end Operation

/-- A call on a directory, or a change of its store through another handle. -/
inductive Action where
  | call (op : Operation)
  | register (t : Table)
  | seed (row : Row)
  | reach (reachable : Bool)

def Action.after (d : Directory Memory) : Action → Directory Memory
  | .call op => op.after d
  | .register t => { d with store := d.store.addTable t }
  | .seed row => { d with store := d.store.addRow row }
  | .reach reachable => { d with store := d.store.setReachable reachable }

/-- The directory after calls and changes of its store one after the other. -/
def history (d : Directory Memory) (actions : List Action) : Directory Memory :=
  actions.foldl Action.after d

/-- The tables are known as a store reports them, of several of one name the last. -/
def AsReported (found : List Table) (tables : Keyed Table) : Prop :=
  ∀ name, tables.get? name = (found.filter (·.name == name)).getLast?

/-- The tables are those known before and one more. -/
def JoinedBy (t : Table) (before after : Keyed Table) : Prop :=
  ∀ name, after.get? name = if name = t.name then some t else before.get? name

/-! ## Calls that ask for nothing new -/

/-- A call that neither forces a discovery nor asks the store for a table or for an answer cannot
tell directories apart that look and write alike. -/
theorem respects_step {R : Directory Memory → Directory Memory → Prop} (alike : WritesAlike R)
    {op : Operation} (quiet : op.forces = false) (silent : op ≠ .ping)
    (unasked : ∀ name, op ≠ .tableExists name) : Respects R op.step := by
  have looks := alike.toLooksAlike
  have sets := respects_setAttribute looks alike.updates
  cases op with
  | ping => exact absurd rfl silent
  | reflect force =>
    cases (quiet : force = false)
    exact alike.reflects
  | tables => exact looks.known
  | table name => exact respects_table? looks name
  | tableExists name => exact absurd rfl (unasked name)
  | find dn => exact respects_find? looks dn
  | findOrReport dn => exact respects_findOrReport looks dn
  | existsIn dn table => exact respects_existsIn looks dn table
  | search base filter scope many => exact respects_search looks base filter scope many
  | execute statement fetch => exact respects_execute looks statement fetch
  | insertRow t row => exact alike.inserts t row
  | updateColumn t dn column value => exact alike.updates t dn column value
  | setAttribute dn column value => exact sets dn column value
  | apply records force =>
    cases (quiet : force = false)
    exact Ldif.respects_apply alike records
  | authDocument => exact respects_authDocument looks
  | updateAuthDocument entries => exact respects_updateAuthDocument looks entries (sets _ _)
  | enableScript inum => exact respects_bind (respects_report _) fun _ => sets _ _ _
  | setConfiguration component value => exact sets _ component value
  | enableService service => exact respects_bind (respects_report _) fun _ => sets _ _ _
  | addClientToScript inum client => exact respects_addClientToScript looks inum client (sets _ _)

/-! ## What a call can do to the known tables -/

/-- What is known after a call: what was known before it, what the store reports, or what was
known and a table that was asked for. -/
inductive Learnt (d : Directory Memory) (op : Operation) : Option (Keyed Table) → Prop where
  | kept : Learnt d op d.tables
  | discovered {found : List Table} (wanted : op.forces = true ∨ d.tables = none)
      (answer : d.store.reflect = .ok found) : Learnt d op (some (keyed found))
  | joined {tables : Keyed Table} {name : String} {found : List Table} {t : Table}
      (asked : op = .tableExists name) (known : d.tables = some tables)
      (new : tables.get? name = none) (answer : d.store.reflect = .ok found)
      (first : found.find? (·.name == name) = some t) :
      Learnt d op (some (tables.insert t.name t))

/-- A directory at some point of a call that forces no discovery, seen from where the call began:
only rows were written, and tables discovered if none were known. -/
structure Settled (start d : Directory Memory) : Prop where
  alike : Alike start.store d.store
  tables : d.tables = start.tables ∨
    start.tables = none ∧
      ∃ found, start.store.reflect = .ok found ∧ d.tables = some (keyed found)

theorem settled_refl (d : Directory Memory) : Settled d d := ⟨Memory.alike_refl _, Or.inl rfl⟩

section Settled

variable {start : Directory Memory}

theorem settled_reflect : Preserves (Settled start) (reflect false) := by
  intro d settled
  rw [effect_reflect]
  split
  · exact settled
  · rename_i missing
    have unknown : d.tables = none := by simpa using missing
    have before : start.tables = none := by
      rcases settled.tables with same | ⟨none, _⟩
      · rw [← same, unknown]
      · exact none
    rw [effect_discover, Memory.reflect_alike settled.alike]
    split
    · rename_i found answer
      exact ⟨settled.alike, Or.inr ⟨before, found, answer, rfl⟩⟩
    · exact settled

theorem settled_insertRow (t : Table) (row : Row) :
    Preserves (Settled start) (insertRow t row) := by
  intro d settled
  rw [Ldif.effect_insertRow]
  cases inserted : d.store.insert t row with
  | error e => exact settled
  | ok m =>
    exact ⟨Memory.alike_trans settled.alike (Memory.alike_insert inserted), settled.tables⟩

theorem settled_updateColumn (t : Table) (dn column : String) (value : Value) :
    Preserves (Settled start) (updateColumn t dn column value) := by
  intro d settled
  simp only [updateColumn, effect_onStore, Store.update, Memory.effect_changing]
  cases sent : d.store.update t dn column value with
  | error e => exact settled
  | ok outcome =>
    exact ⟨Memory.alike_trans settled.alike (Memory.alike_update sent), settled.tables⟩

/-- Looking up and writing keep a directory settled. -/
theorem writesAlike_settled (start : Directory Memory) :
    WritesAlike (Only (Settled start)) where
  toLooksAlike := looksAlike_only settled_reflect
  catalog := by
    rintro d _ ⟨rfl, _⟩
    rfl
  reflects := respects_only_iff.2 settled_reflect
  inserts t row := respects_only_iff.2 (settled_insertRow t row)
  updates t dn column value := respects_only_iff.2 (settled_updateColumn t dn column value)

end Settled

theorem learnt_of_settled {d d' : Directory Memory} (op : Operation) (settled : Settled d d') :
    Learnt d op d'.tables := by
  rcases settled.tables with same | ⟨unknown, found, answer, now⟩
  · rw [same]
    exact .kept
  · rw [now]
    exact .discovered (Or.inr unknown) answer

theorem learnt_reflect (d : Directory Memory) (op : Operation) {force : Bool}
    (forces : force = true → op.forces = true) :
    Learnt d op (effect (reflect force) d).2.tables := by
  rw [effect_reflect]
  split
  · exact .kept
  · rename_i asks
    rw [effect_discover]
    split
    · rename_i found answer
      refine .discovered ?_ answer
      cases known : d.tables with
      | none => exact Or.inr rfl
      | some tables => exact Or.inl (forces (by simpa [known] using asks))
    · exact .kept

/-- Applying records leaves known what discovering the tables leaves known. -/
theorem tables_apply (records : List ChangeRecord) (force : Bool) (d : Directory Memory) :
    (effect (Ldif.apply records force) d).2.tables = (effect (reflect force) d).2.tables := by
  rcases reflect_cases d force with ⟨e, failed⟩ | ⟨d', tables, found, _, known⟩
  · rw [Ldif.effect_apply_error failed, failed]
  · rw [Ldif.effect_apply found known, found]

/-- A table that is not known is asked for, and joins the known ones if the store has it. -/
theorem effect_tableExists (d : Directory Memory) (name : String) :
    effect (tableExists name) d =
      if (d.tables.map (·.contains name)).getD false then (.ok true, d)
      else
        match d.store.reflect with
        | .error _ => (.ok false, d)
        | .ok found =>
          match found.find? (·.name == name) with
          | none => (.ok false, d)
          | some t => (.ok true, { d with tables := d.tables.map (·.insert t.name t) }) := by
  have asked : effect (onStore (Store.reflect (σ := Memory))) d = (d.store.reflect, d) := rfl
  simp only [tableExists, effect_bind, effect_current]
  split
  · rfl
  · simp only [effect_bind, effect_attempt, asked]
    cases d.store.reflect with
    | error e => rfl
    | ok found =>
      simp only
      cases found.find? (·.name == name) <;> rfl

theorem learnt_tableExists (d : Directory Memory) (name : String) :
    Learnt d (.tableExists name) (effect (tableExists name) d).2.tables := by
  rw [effect_tableExists]
  split
  · exact .kept
  · rename_i missing
    split
    · exact .kept
    · rename_i found answer
      split
      · exact .kept
      · rename_i t first
        cases known : d.tables with
        | none =>
          have same : Learnt d (.tableExists name) d.tables := .kept
          rwa [known] at same
        | some tables =>
          have new : tables.get? name = none := by
            simpa [known, Keyed.contains] using missing
          exact .joined rfl known new answer first

/-- All that a call can do to the known tables. -/
theorem learnt_after (d : Directory Memory) (op : Operation) :
    Learnt d op (op.after d).tables := by
  have settles : op.forces = false → op ≠ .ping → (∀ name, op ≠ .tableExists name) →
      Learnt d op (op.after d).tables := by
    intro quiet silent unasked
    have respects := respects_step (writesAlike_settled d) quiet silent unasked
    exact learnt_of_settled op (respects_only_iff.1 respects d (settled_refl d))
  cases op with
  | ping => exact .kept
  | reflect force => exact learnt_reflect d (.reflect force) id
  | tableExists name => exact learnt_tableExists d name
  | apply records force =>
    have same : ((Operation.apply records force).after d).tables = _ := tables_apply records force d
    rw [same]
    exact learnt_reflect d (.apply records force) id
  | _ => exact settles rfl nofun nofun

/-! ## What follows for the known tables -/

section Known

variable {d : Directory Memory} {op : Operation} {tables : Keyed Table}

/-- What a call makes of tables that are known. -/
theorem learnt_known {now : Option (Keyed Table)} (learnt : Learnt d op now)
    (known : d.tables = some tables) :
    now = some tables ∨
      (op.forces = true ∧ ∃ found, d.store.reflect = .ok found ∧ now = some (keyed found)) ∨
      ∃ name found t, op = .tableExists name ∧ tables.get? name = none ∧
        d.store.reflect = .ok found ∧ found.find? (·.name == name) = some t ∧
          now = some (tables.insert t.name t) := by
  cases learnt with
  | kept => exact Or.inl known
  | discovered wanted answer =>
    rcases wanted with forces | unknown
    · exact Or.inr (Or.inl ⟨forces, _, answer, rfl⟩)
    · rw [known] at unknown
      cases unknown
  | joined asked before new answer first =>
    rw [known] at before
    cases before
    exact Or.inr (Or.inr ⟨_, _, _, asked, new, answer, first, rfl⟩)

theorem keyedByName_insert (byName : KeyedByName tables) (t : Table) :
    KeyedByName (tables.insert t.name t) := by
  intro name held found
  rw [Keyed.get?_insert] at found
  split at found
  · rename_i same
    cases found
    exact same.symm
  · exact byName name held found

theorem byName_learnt {now : Option (Keyed Table)} (learnt : Learnt d op now)
    (byName : ∀ tables, d.tables = some tables → KeyedByName tables) :
    ∀ tables, now = some tables → KeyedByName tables := by
  intro tables held
  cases learnt with
  | kept => exact byName tables held
  | discovered wanted answer =>
    cases held
    exact keyedByName_keyed _
  | joined asked known new answer first =>
    cases held
    exact keyedByName_insert (byName _ known) _

theorem learnt_failing {now : Option (Keyed Table)} {e : Failure} (learnt : Learnt d op now)
    (failing : d.store.reflect = .error e) : now = d.tables := by
  cases learnt with
  | kept => rfl
  | discovered wanted answer =>
    rw [failing] at answer
    cases answer
  | joined asked known new answer first =>
    rw [failing] at answer
    cases answer

/-- A discovery that fails leaves the directory as it is. -/
theorem reflect_refused {force : Bool} {e : Failure}
    (refused : (effect (reflect force) d).1 = .error e) : (effect (reflect force) d).2 = d := by
  rcases reflect_cases d force with ⟨e, failed⟩ | ⟨d', tables, found, _, _⟩
  · rw [failed]
  · rw [found] at refused
    cases refused

theorem tables_forced {found : List Table} (forces : op.forces = true)
    (answer : d.store.reflect = .ok found) : (op.after d).tables = some (keyed found) := by
  have renewed : (effect (reflect true) d).2.tables = some (keyed found) := by
    rw [effect_reflect, Bool.not_true, Bool.and_false, if_neg Bool.false_ne_true,
      effect_discover, answer]
  cases op with
  | reflect force =>
    cases (forces : force = true)
    exact renewed
  | apply records force =>
    cases (forces : force = true)
    exact (tables_apply records true d).trans renewed
  | _ => cases forces

theorem tables_joined {name : String} {found : List Table} {t : Table}
    (known : d.tables = some tables) (new : tables.get? name = none)
    (answer : d.store.reflect = .ok found) (first : found.find? (·.name == name) = some t) :
    (effect (tableExists name) d).2.tables = some (tables.insert t.name t) := by
  have missing : (d.tables.map (·.contains name)).getD false = false := by
    simp [known, Keyed.contains, new]
  rw [effect_tableExists, missing, if_neg Bool.false_ne_true, answer]
  simp only [first, known, Option.map_some]

/-- A table that exists is known then. -/
theorem known_of_exists {name : String} (known : d.tables = some tables)
    (present : (effect (tableExists name) d).1 = .ok true) :
    ∃ now t, (effect (tableExists name) d).2.tables = some now ∧ now.get? name = some t := by
  rw [effect_tableExists, known] at present ⊢
  by_cases held : tables.contains name = true
  · obtain ⟨t, found⟩ := Option.isSome_iff_exists.1 held
    exact ⟨tables, t, by simp [held, known], found⟩
  · simp only [Option.map_some, Option.getD_some, if_neg held] at present ⊢
    cases answer : d.store.reflect with
    | error e => simp [answer] at present
    | ok found =>
      cases first : found.find? (·.name == name) with
      | none => simp [answer, first] at present
      | some t =>
        have named : t.name = name := by simpa using List.find?_some first
        exact ⟨tables.insert t.name t, t, by simp only [first], by simp [named]⟩

/-- A call that does not discover tells no twins apart, but for a ping. -/
theorem respects_twins (quiet : op.discovers tables = false) (silent : op ≠ .ping) :
    Respects (Twins tables) op.step := by
  cases op with
  | ping => exact absurd rfl silent
  | tableExists name =>
    have held : tables.contains name = true := by simpa [Operation.discovers] using quiet
    have answers : ∀ {d : Directory Memory}, d.tables = some tables →
        effect (tableExists name) d = (.ok true, d) := by
      intro d known
      have there : (d.tables.map (·.contains name)).getD false = true := by
        rw [known]
        exact held
      exact (effect_tableExists d name).trans (if_pos there)
    exact respects_of_known answers
  | _ => exact respects_step writesAlike_twins quiet silent nofun

end Known

/-! ## Whole histories -/

theorem history_induction {P : Directory Memory → Prop} {d : Directory Memory}
    (step : ∀ d action, P d → P (Action.after d action)) (start : P d) (actions : List Action) :
    P (history d actions) := by
  induction actions generalizing d with
  | nil => exact start
  | cons action rest ih => exact ih (step d action start)

theorem byName_history {d : Directory Memory}
    (byName : ∀ tables, d.tables = some tables → KeyedByName tables) (actions : List Action) :
    ∀ tables, (history d actions).tables = some tables → KeyedByName tables := by
  refine history_induction (P := fun d => ∀ tables, d.tables = some tables → KeyedByName tables)
    ?_ byName actions
  intro d action byName
  cases action with
  | call op => exact byName_learnt (learnt_after d op) byName
  | _ => exact byName

theorem known_history {d : Directory Memory} (known : ∃ tables, d.tables = some tables)
    (actions : List Action) : ∃ tables, (history d actions).tables = some tables := by
  refine history_induction (P := fun d => ∃ tables, d.tables = some tables) ?_ known actions
  rintro d action ⟨tables, known⟩
  cases action with
  | call op =>
    rcases learnt_known (learnt_after d op) known with
      same | ⟨_, _, _, now⟩ | ⟨_, _, _, _, _, _, _, now⟩
    · exact ⟨_, same⟩
    · exact ⟨_, now⟩
    · exact ⟨_, now⟩
  | _ => exact ⟨tables, known⟩

/-- How a directory deals with its tables.  A call `discovers` if it forces a discovery or asks
whether a table exists that is not known. -/
structure Disciplined (d : Directory Memory) : Prop where
  /-- Every known table stands under its own name. -/
  byName : ∀ tables, d.tables = some tables → KeyedByName tables
  /-- A discovery that fails leaves the directory as it was. -/
  refused : ∀ force e, (Operation.reflect force).result d = .error e →
    (Operation.reflect force).after d = d
  /-- While the store reports no tables, no call changes what is known. -/
  failing : ∀ e, d.store.reflect = .error e → ∀ op : Operation, (op.after d).tables = d.tables
  /-- Nothing that other handles of the store do changes what is known. -/
  aside : ∀ action : Action, (∀ op, action ≠ .call op) → (action.after d).tables = d.tables
  /-- Known tables stay known, whatever comes later. -/
  stays : ∀ tables, d.tables = some tables → ∀ later,
    ∃ tables', (history d later).tables = some tables'
  /-- Known tables change only by a forced discovery, or by asking for a table that the store
  has and that is not known; the store has answered then. -/
  changes : ∀ tables, d.tables = some tables → ∀ op : Operation,
    (op.after d).tables ≠ some tables → ∃ found, d.store.reflect = .ok found ∧
      (op.forces = true ∨ ∃ name, op = .tableExists name ∧ tables.get? name = none ∧
        ∃ t ∈ found, t.name = name)
  /-- A forced discovery that succeeds puts what the store reports in place of what was known. -/
  renewed : ∀ op : Operation, op.forces = true → ∀ found, d.store.reflect = .ok found →
    ∃ tables', (op.after d).tables = some tables' ∧ AsReported found tables'
  /-- A table that was asked for joins the known ones, which stay as they were. -/
  joined : ∀ tables, d.tables = some tables → ∀ name, tables.get? name = none →
    ∀ found, d.store.reflect = .ok found → ∀ t, found.find? (·.name == name) = some t →
      ∃ tables', ((Operation.tableExists name).after d).tables = some tables' ∧
        JoinedBy t tables tables'
  /-- With tables known, a call that does not discover gives the same and does the same whatever
  the store reports and whether it answers or not; only a ping asks whether it answers. -/
  undiscovered : ∀ tables, d.tables = some tables → ∀ op : Operation,
    op.discovers tables = false → ∀ m, SameRows d.store m →
      (op = .ping → m.reachable = d.store.reachable) →
        op.result { d with store := m } = op.result d ∧
          Twins tables (op.after d) (op.after { d with store := m })
  /-- With tables known, a table that exists can be looked up then. -/
  probed : ∀ tables, d.tables = some tables → ∀ name,
    (Operation.tableExists name).result d = .ok true →
      ∃ t, (Operation.table name).result ((Operation.tableExists name).after d) = .ok (some t) ∧
        t.name = name

theorem disciplined_of_byName {d : Directory Memory}
    (byName : ∀ tables, d.tables = some tables → KeyedByName tables) : Disciplined d where
  byName := byName
  refused _ _ refused := reflect_refused refused
  failing _ failing op := learnt_failing (learnt_after d op) failing
  aside action other := by
    cases action with
    | call op => exact absurd rfl (other op)
    | _ => rfl
  stays tables known later := known_history ⟨tables, known⟩ later
  changes tables known op differs := by
    rcases learnt_known (learnt_after d op) known with
      same | ⟨forces, found, answer, _⟩ | ⟨name, found, t, asked, new, answer, first, _⟩
    · exact absurd same differs
    · exact ⟨found, answer, Or.inl forces⟩
    · have named : t.name = name := by simpa using List.find?_some first
      exact ⟨found, answer, Or.inr ⟨name, asked, new, t, List.mem_of_find?_eq_some first, named⟩⟩
  renewed op forces found answer := ⟨_, tables_forced forces answer, get?_keyed found⟩
  joined tables known name new found answer t first :=
    ⟨_, tables_joined known new answer first, fun other => Keyed.get?_insert tables t.name other t⟩
  undiscovered tables known op quiet m same answers := by
    have twins : Twins tables d { d with store := m } := ⟨rfl, known, known, same⟩
    by_cases silent : op = .ping
    · subst silent
      refine ⟨?_, twins⟩
      have asked : ∀ d : Directory Memory,
          Operation.ping.result d = d.store.checkReachable "ping" := fun _ => rfl
      rw [asked, asked, Memory.checkReachable, Memory.checkReachable, answers rfl]
    · exact respects_twins quiet silent d _ twins
  probed tables known name present := by
    obtain ⟨now, t, held, found⟩ := known_of_exists known present
    have stands := byName_learnt (learnt_after d (.tableExists name)) byName now held
    refine ⟨t, ?_, stands name t found⟩
    have looked := effect_table? (d := (Operation.tableExists name).after d) held name
    rw [found] at looked
    exact congrArg Prod.fst looked

/-- Over every history of calls and changes of its store a directory keeps to the discipline. -/
theorem disciplined_history (m : Memory) (c : Catalog) (actions : List Action) :
    Disciplined (history (new m c) actions) :=
  disciplined_of_byName (byName_history (d := new m c) nofun actions)

/-- A table registered later is known once it was asked for, also when the store is then gone. -/
example (c : Catalog) : (Operation.table "jansScr").result
    (history (new (Memory.single Memory.clients []) c) [.call (.reflect false),
      .register ⟨"jansScr", []⟩, .call (.tableExists "jansScr"), .reach false,
      .call (.reflect true)]) = .ok (some ⟨"jansScr", []⟩) := rfl

end RelDirectory.Directory
