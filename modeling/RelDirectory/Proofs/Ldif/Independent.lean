import Mathlib.Data.List.Basic
import Mathlib.Data.List.Pairwise
import RelDirectory.Proofs.Ldif.Edit
import RelDirectory.Proofs.Ldif.Run
import RelDirectory.Proofs.Lookups

/-!
# Records that do not meet

What a record on an existing entry comes to is decided by the entry's row, and it writes at most
one column of the rows with the entry's name (`decision`, `outcome_decision`).  A write of another
entry or of another column leaves the decision as it is (`decision_run`), and such writes can be
made in either order (`Write.run_comm`).  So the records of a batch can be put in any order if no
two of them change one attribute of one entry (`effect_apply_perm`).
-/
set_option autoImplicit false
namespace RelDirectory

namespace Memory

/-- A column to be set in the rows of a table that have one `dn`. -/
structure Write where
  table : String
  dn : String
  column : String
  value : Value

namespace Write

def run (m : Memory) (w : Write) : Memory := m.written w.table w.dn w.column w.value

/-- The writes go to different entries or to different columns, and to no `dn`. -/
structure Apart (v w : Write) : Prop where
  left : v.column ≠ dnColumn
  right : w.column ≠ dnColumn
  cells : v.dn ≠ w.dn ∨ v.column ≠ w.column

variable {v w : Write}

theorem setColumn_comm (apart : v.Apart w) (row : Row) :
    setColumn v.dn v.column v.value (setColumn w.dn w.column w.value row) =
      setColumn w.dn w.column w.value (setColumn v.dn v.column v.value row) := by
  refine Row.ext_get? (by simp only [table_setColumn]) ?_
  intro column
  simp only [get?_setColumn, dn?_setColumn apart.left, dn?_setColumn apart.right]
  by_cases here : row.dn? = some v.dn ∧ column = v.column
  · have elsewhere : ¬ (row.dn? = some w.dn ∧ column = w.column) := by
      rintro ⟨named, same⟩
      rcases apart.cells with other | other
      · exact other (Option.some.inj (here.1.symm.trans named))
      · exact other (here.2.symm.trans same)
    rw [if_pos here, if_neg elsewhere, if_pos here]
  · rw [if_neg here, if_neg here]

theorem get?_run (m : Memory) (w : Write) (name : String) :
    (run m w).tables.get? name =
      if name = w.table then
        some { m.table name with rows := (m.rows name).map (setColumn w.dn w.column w.value) }
      else m.tables.get? name := by
  simp only [run, written, setTable, Keyed.get?_insert]
  split
  · rename_i same
    rw [same]
  · rfl

theorem table_run (m : Memory) (w : Write) (name : String) :
    (run m w).table name =
      if name = w.table then
        { m.table name with rows := (m.rows name).map (setColumn w.dn w.column w.value) }
      else m.table name := by
  rw [Memory.table, get?_run]
  split <;> rfl

theorem run_comm (apart : v.Apart w) (m : Memory) : run (run m v) w = run (run m w) v := by
  have same : (run (run m v) w).tables = (run (run m w) v).tables := by
    refine Keyed.ext_get? ?_
    intro name
    simp only [get?_run, table_run, rows]
    by_cases inV : name = v.table
    · by_cases inW : name = w.table
      · simp only [if_pos inV, if_pos inW, List.map_map]
        have swap : setColumn v.dn v.column v.value ∘ setColumn w.dn w.column w.value =
            setColumn w.dn w.column w.value ∘ setColumn v.dn v.column v.value :=
          funext (setColumn_comm apart)
        rw [swap]
      · simp only [if_pos inV, if_neg inW]
    · simp only [if_neg inV]
  simp only [run, written, setTable, Memory.mk.injEq, true_and, and_true] at same ⊢
  exact same

end Write

/-- A table that can name entries has a row with just this text as its `dn`. -/
def Entered (m : Memory) (tables : Keyed Table) (dn : String) : Prop :=
  ∃ t ∈ naming tables, ∃ row ∈ m.rows t.name, row.dn? = some dn

variable {m : Memory} {tables : Keyed Table}

theorem entered_run {w : Write} (other : w.column ≠ dnColumn) {dn : String}
    (entered : m.Entered tables dn) : (Write.run m w).Entered tables dn := by
  obtain ⟨t, naming, row, member, named⟩ := entered
  by_cases home : t.name = w.table
  · refine ⟨t, naming, setColumn w.dn w.column w.value row, ?_, ?_⟩
    · rw [Write.run, rows_written, if_pos home]
      exact List.mem_map.2 ⟨row, member, rfl⟩
    · rw [dn?_setColumn other]
      exact named
  · refine ⟨t, naming, row, ?_, named⟩
    rw [Write.run, rows_written, if_neg home]
    exact member

theorem getD_dn_entered {dn : String} {entry : Row} (entered : m.Entered tables dn)
    (found : m.entryRow? tables dn = some entry) : entry.dn?.getD dn = dn := by
  obtain ⟨t, known, row, member, named⟩ := entered
  have shown := shownDn?_entryRow? known member (shownDn?_of_dn? named) found
  cases text : entry.dn? with
  | none => rfl
  | some own => exact Option.some.inj ((shownDn?_of_dn? text).symm.trans shown)

end Memory

namespace Ldif

open Step
open Directory (KeyedByName Tidy)
open Memory (Write Entered overwrite)

/-- The record changes an attribute, but no `dn`, of an entry that has a row with its name. -/
structure ChangesEntry (m : Memory) (tables : Keyed Table) (r : ChangeRecord) : Prop where
  aims : (target? r).isSome
  spares : target? r ≠ some dnColumn
  entered : m.Entered tables r.dn

/-- The records change different entries or different attributes. -/
def Independent (r s : ChangeRecord) : Prop := r.dn ≠ s.dn ∨ target? r ≠ target? s

instance (r s : ChangeRecord) : Decidable (Independent r s) :=
  inferInstanceAs (Decidable (r.dn ≠ s.dn ∨ target? r ≠ target? s))

/-- What becomes of a record on an existing entry, and the write that it makes, if any. -/
def decision (m : Memory) (tables : Keyed Table) (c : Coercion) (r : ChangeRecord) :
    Applied × Option Write :=
  match planned m tables c r with
  | .ok (some p) =>
    if p.row.get? p.column = some p.value then (.unchanged, none)
    else (.updated, some ⟨p.table.name, r.dn, p.column, p.value⟩)
  | _ => (.skipped, none)

def perform (m : Memory) (w? : Option Write) : Memory := w?.elim m (Write.run m)

variable {m : Memory} {tables : Keyed Table} {c : Coercion} {r s : ChangeRecord}

theorem write_decision {w : Write} (made : (decision m tables c r).2 = some w) :
    w.dn = r.dn ∧ target? r = some w.column := by
  simp only [decision] at made
  split at made
  · rename_i p plan
    split at made
    · cases made
    · cases made
      exact ⟨rfl, (planned_aim plan).2.2.2⟩
  · cases made

theorem outcome_decision (placed : m.Placed) (byName : KeyedByName tables)
    (changes : ChangesEntry m tables r) :
    outcome m tables c r =
      ((decision m tables c r).1, perform m (decision m tables c r).2) := by
  obtain ⟨attr, aim⟩ := Option.isSome_iff_exists.1 changes.aims
  have modify := modify_of_target? aim
  cases plan : planned m tables c r with
  | error e => simp only [outcome, applied_of_modify modify, decision, plan, pursued, perform,
      Option.elim_none]
  | ok found =>
    cases found with
    | none => simp only [outcome, applied_of_modify modify, decision, plan, pursued, perform,
        Option.elim_none]
    | some p =>
      obtain ⟨entry, known, has, _⟩ := planned_aim plan
      obtain ⟨t, _, home, member⟩ := Memory.entryRow?_held placed entry
      have own : p.table.name = t.name := (byName _ _ known).trans home
      obtain ⟨s, stored⟩ := Memory.isStored_of_mem member
      rw [← own] at stored
      rw [outcome_of_planned plan, carryOut_stored has stored,
        Memory.getD_dn_entered changes.entered entry]
      simp only [decision, plan]
      by_cases current : p.row.get? p.column = some p.value
      · simp only [if_pos current]
        rfl
      · simp only [if_neg current]
        rfl

/-- A write elsewhere does not change what becomes of a record, nor what it writes. -/
theorem decision_run (placed : m.Placed) (changes : ChangesEntry m tables r) {w : Write}
    (other : w.column ≠ dnColumn) (apart : w.dn ≠ r.dn ∨ some w.column ≠ target? r) :
    decision (Write.run m w) tables c r = decision m tables c r := by
  simp only [decision, Write.run, planned_written placed other]
  cases plan : planned m tables c r with
  | error e => rfl
  | ok found =>
    cases found with
    | none => rfl
    | some p =>
      obtain ⟨entry, _, _, aim⟩ := planned_aim plan
      -- the row that is found is not named like the write, or the write is of another column
      have same : (overwrite w.table w.dn w.column w.value p.row).get? p.column =
          p.row.get? p.column := by
        rw [Memory.get?_overwrite, if_neg]
        rintro ⟨_, named, column⟩
        rcases apart with dns | columns
        · have target := Memory.getD_dn_entered changes.entered entry
          rw [named] at target
          exact dns target
        · exact columns ((congrArg some column).symm.trans aim.symm)
      simp only [Except.map, Option.map_some, Plan.value, same]
      rfl

/-! ## Two records -/

theorem independent_symm (independent : Independent r s) : Independent s r :=
  independent.imp Ne.symm Ne.symm

/-- The writes of independent records go to different cells. -/
theorem apart_decision (first : ChangesEntry m tables r) (second : ChangesEntry m tables s)
    (independent : Independent r s) {v w : Write} (left : (decision m tables c r).2 = some v)
    (right : (decision m tables c s).2 = some w) : v.Apart w := by
  obtain ⟨dnV, aimV⟩ := write_decision left
  obtain ⟨dnW, aimW⟩ := write_decision right
  refine ⟨?_, ?_, ?_⟩
  · intro same
    exact first.spares (same ▸ aimV)
  · intro same
    exact second.spares (same ▸ aimW)
  · rcases independent with dns | targets
    · exact Or.inl (dnV ▸ dnW ▸ dns)
    · refine Or.inr fun same => targets ?_
      rw [aimV, aimW, same]

theorem changesEntry_outcome (placed : m.Placed) (byName : KeyedByName tables)
    (first : ChangesEntry m tables r) (second : ChangesEntry m tables s) :
    ChangesEntry (outcome m tables c s).2 tables r := by
  refine ⟨first.aims, first.spares, ?_⟩
  rw [outcome_decision placed byName second]
  cases made : (decision m tables c s).2 with
  | none => exact first.entered
  | some w =>
    refine Memory.entered_run (fun same => ?_) first.entered
    exact second.spares (same ▸ (write_decision made).2)

/-- After an independent record the same becomes of a record as before it. -/
theorem decision_outcome (placed : m.Placed) (byName : KeyedByName tables)
    (first : ChangesEntry m tables r) (second : ChangesEntry m tables s)
    (independent : Independent r s) :
    decision (outcome m tables c s).2 tables c r = decision m tables c r := by
  rw [outcome_decision placed byName second]
  cases made : (decision m tables c s).2 with
  | none => rfl
  | some w =>
    obtain ⟨dn, aim⟩ := write_decision made
    refine decision_run placed first (fun same => second.spares (same ▸ aim)) ?_
    rw [dn, ← aim]
    exact independent_symm independent

/-- The same becomes of a record if an independent one is applied before it. -/
theorem outcome_after (placed : m.Placed) (byName : KeyedByName tables)
    (first : ChangesEntry m tables r) (second : ChangesEntry m tables s)
    (independent : Independent r s) :
    (outcome (outcome m tables c s).2 tables c r).1 = (outcome m tables c r).1 := by
  have later := changesEntry_outcome (c := c) placed byName first second
  rw [outcome_decision (placed_outcome placed) byName later,
    decision_outcome placed byName first second independent, outcome_decision placed byName first]

theorem perform_comm {v? w? : Option Write} (apart : ∀ v w, v? = some v → w? = some w → v.Apart w) :
    perform (perform m v?) w? = perform (perform m w?) v? := by
  cases v? with
  | none => rfl
  | some v =>
    cases w? with
    | none => rfl
    | some w => exact Write.run_comm (apart v w rfl rfl) m

/-! ## Batches -/

variable {rs ss : List ChangeRecord}

/-- In a batch of independent records each one does what it would do alone. -/
theorem outcomes_independent (placed : m.Placed) (byName : KeyedByName tables)
    (changes : ∀ r ∈ rs, ChangesEntry m tables r) (independent : rs.Pairwise Independent) :
    outcomes tables c m rs = (rs.map fun r => (decision m tables c r).1,
      rs.foldl (fun m' r => perform m' (decision m tables c r).2) m) := by
  -- the first record leaves a store in which the others decide as they do in `m`
  induction rs generalizing m with
  | nil => rfl
  | cons r rs ih =>
    obtain ⟨here, there⟩ := List.forall_mem_cons.1 changes
    obtain ⟨apart, others⟩ := List.pairwise_cons.1 independent
    have later : ∀ s ∈ rs, decision (outcome m tables c r).2 tables c s = decision m tables c s :=
      fun s member => decision_outcome placed byName (there s member) here
        (independent_symm (apart s member))
    have rest := ih (placed_outcome placed) (fun s member =>
      changesEntry_outcome (c := c) placed byName (there s member) here) others
    have after : (outcome m tables c r).2 = perform m (decision m tables c r).2 := by
      rw [outcome_decision placed byName here]
    have verdicts : rs.map (fun s => (decision (outcome m tables c r).2 tables c s).1) =
        rs.map fun s => (decision m tables c s).1 :=
      List.map_congr_left fun s member => by rw [later s member]
    have writes : ∀ start, rs.foldl
        (fun m' s => perform m' (decision (outcome m tables c r).2 tables c s).2) start =
          rs.foldl (fun m' s => perform m' (decision m tables c s).2) start :=
      fun start => List.foldl_ext _ _ start fun m' s member => by rw [later s member]
    rw [outcomes_cons, rest, verdicts, writes, after, outcome_decision placed byName here]
    rfl

/-- A batch of independent records leaves the same store in any order, and the same comes of each
record. -/
theorem outcomes_perm (placed : m.Placed) (byName : KeyedByName tables) (perm : rs.Perm ss)
    (changes : ∀ r ∈ rs, ChangesEntry m tables r) (independent : rs.Pairwise Independent) :
    (outcomes tables c m rs).1.Perm (outcomes tables c m ss).1 ∧
      (outcomes tables c m rs).2 = (outcomes tables c m ss).2 := by
  have symm : Std.Symm Independent := ⟨fun _ _ => independent_symm⟩
  have changes' : ∀ r ∈ ss, ChangesEntry m tables r :=
    fun r member => changes r (perm.mem_iff.2 member)
  have independent' : ss.Pairwise Independent := perm.pairwise independent independent_symm
  rw [outcomes_independent placed byName changes independent,
    outcomes_independent placed byName changes' independent']
  refine ⟨perm.map _, perm.foldl_eq' ?_ m⟩
  intro r inR s inS m'
  by_cases same : r = s
  · rw [same]
  · have apart := independent.forall inR inS same
    exact perform_comm fun v w left right =>
      apart_decision (changes r inR) (changes s inS) apart left right

/-! ## The directory computes it -/

variable {d d' : Directory Memory} {force : Bool}

theorem reportOf_perm {as bs : List Applied} (perm : as.Perm bs) : reportOf as = reportOf bs := by
  simp only [reportOf, foldl_count, perm.count_eq]

/-- The records of a batch may be applied in any order if they are independent. -/
theorem effect_apply_perm (tidy : Tidy d)
    (discovered : effect (Directory.reflect force) d = (.ok (), d'))
    (known : d'.tables = some tables) (perm : rs.Perm ss)
    (changes : ∀ r ∈ rs, ChangesEntry d'.store tables r) (independent : rs.Pairwise Independent) :
    effect (apply rs force) d = effect (apply ss force) d := by
  have tidy' := Directory.tidy_of_reflect tidy discovered
  obtain ⟨verdicts, stores⟩ := outcomes_perm (c := d'.coercion) tidy'.placed
    (tidy'.byName tables known) perm changes independent
  rw [effect_apply discovered known, effect_apply discovered known, reportOf_perm verdicts, stores]

theorem effect_applyOrSkip_after (known : d.tables = some tables) (r s : ChangeRecord) :
    effect (applyOrSkip s) { d with store := (outcome d.store tables d.coercion r).2 } =
      (.ok (outcome (outcome d.store tables d.coercion r).2 tables d.coercion s).1,
        { d with store :=
          (outcome (outcome d.store tables d.coercion r).2 tables d.coercion s).2 }) := by
  have ran := effect_applyOrSkip
    (d := { d with store := (outcome d.store tables d.coercion r).2 }) known s
  rwa [coercion_alike (outcome_alike d.store tables d.coercion r)] at ran

/-- Two records that change different entries, or different attributes, do the same to the store
in either order, and the same becomes of each of them. -/
theorem apply_independent (d d' : Directory Memory) (tidy : Tidy d) (force : Bool)
    (tables : Keyed Table) (discovered : effect (Directory.reflect force) d = (.ok (), d'))
    (known : d'.tables = some tables) (r s : ChangeRecord)
    (first : ChangesEntry d'.store tables r) (second : ChangesEntry d'.store tables s)
    (independent : Independent r s) :
    ∃ a b mid mid' last, (a ≠ .created ∧ b ≠ .created) ∧
      (effect (applyOrSkip r) d' = (.ok a, mid) ∧ effect (applyOrSkip s) mid = (.ok b, last)) ∧
      (effect (applyOrSkip s) d' = (.ok b, mid') ∧ effect (applyOrSkip r) mid' = (.ok a, last)) ∧
      effect (apply [r, s] force) d = (.ok (reportOf [a, b]), last) ∧
      effect (apply [s, r] force) d = (.ok (reportOf [b, a]), last) := by
  have tidy' := Directory.tidy_of_reflect tidy discovered
  have byName := tidy'.byName tables known
  have swapped := independent_symm independent
  have changes : ∀ x ∈ [r, s], ChangesEntry d'.store tables x := by simp [first, second]
  have pair : [r, s].Pairwise Independent := by simp [independent]
  have same := (outcomes_perm (c := d'.coercion) tidy'.placed byName (List.Perm.swap s r [])
    changes pair).2
  have forward := effect_applyOrSkip_after known r s
  have backward := effect_applyOrSkip_after known s r
  rw [outcome_after tidy'.placed byName second first swapped] at forward
  rw [outcome_after tidy'.placed byName first second independent] at backward
  have whole := effect_apply discovered known [r, s]
  have reversed := effect_apply_perm tidy discovered known (List.Perm.swap s r []) changes pair
  simp only [outcomes, outcome_after tidy'.placed byName second first swapped] at whole same
  obtain ⟨attr, aim⟩ := Option.isSome_iff_exists.1 first.aims
  obtain ⟨other, aim'⟩ := Option.isSome_iff_exists.1 second.aims
  refine ⟨_, _, _, _, _, ⟨not_created_of_modify (modify_of_target? aim),
    not_created_of_modify (modify_of_target? aim')⟩, ⟨effect_applyOrSkip known r, forward⟩,
    ⟨effect_applyOrSkip known s, ?_⟩, whole, ?_⟩
  · rw [backward, same]
  · rw [← reversed, whole, reportOf_perm (List.Perm.swap _ _ [])]

/-- One more redirect URI for a client, and another name for it. -/
def addUri : ChangeRecord :=
  ⟨"inum=1,o=jans", [("changetype", ["modify"]), ("add", ["jansRedirectURI"]),
    ("jansRedirectURI", ["https://b"])]⟩

def renameClient : ChangeRecord :=
  ⟨"inum=1,o=jans", [("changetype", ["modify"]), ("replace", ["displayName"]),
    ("displayName", ["two"])]⟩

theorem apply_independent_oneClient :
    let d := Directory.ofClients [Memory.client "inum=1,o=jans" "one" ["https://a"]]
    let d' := (Directory.reflect false d).state
    let tables := Directory.keyed [Memory.clients]
    (ChangesEntry d'.store tables addUri ∧ ChangesEntry d'.store tables renameClient ∧
      Independent addUri renameClient) ∧
      (apply [addUri, renameClient] false d).result = .ok ⟨0, 2, 0, 0⟩ ∧
      (apply [renameClient, addUri] false d).state =
        (apply [addUri, renameClient] false d).state := by
  intro d d' tables
  have tidy : Tidy d := Directory.tidy_ofClients _
  have independent : Independent addUri renameClient := by decide
  have entered : d'.store.Entered tables "inum=1,o=jans" :=
    ⟨Memory.clients, by decide, Memory.client "inum=1,o=jans" "one" ["https://a"], by decide,
      by decide⟩
  have first : ChangesEntry d'.store tables addUri := ⟨by decide, by decide, entered⟩
  have second : ChangesEntry d'.store tables renameClient := ⟨by decide, by decide, entered⟩
  obtain ⟨_, _, _, _, last, _, _, _, ran, reversed⟩ :=
    apply_independent d d' tidy false tables rfl rfl addUri renameClient first second independent
  refine ⟨⟨first, second, independent⟩, by decide +kernel, ?_⟩
  rw [state_of_effect ran, state_of_effect reversed]

end Ldif

end RelDirectory
