import RelDirectory.Proofs.Ldif.Frame

/-!
# The names of a new row

A new row is named first, and then gets the record's own attributes.  So it is stored in the table
of its class, which it names, and its `dn` and its `doc_id` are those of the record unless the last
attribute with this name says otherwise (`apply_identified`).  A record without such attributes
keeps both (`keepsNames_of_spared`).
-/
set_option autoImplicit false
namespace RelDirectory.Ldif

open Directory (Tidy)
open Memory (Appended)

variable {m m' : Memory} {d : Directory Memory} {tables : Keyed Table} {c : Coercion}
  {r : ChangeRecord} {t : Table}

/-- What a column holds that is filled with a value before the attributes are. -/
def overridden (c : Coercion) (column : String) (attributes : List (String × List String))
    (own : Value) : Value :=
  ((lastValues? column attributes).bind fun values => (c.toColumn column values).toOption).getD own

/-- The new row has the record's name, the value of its first component and the table's name. -/
def Addressable (r : ChangeRecord) (m m' : Memory) : Prop :=
  ∃ cls leaf row, Appended m m' cls row ∧ Dn.leaf r.dn = .ok leaf ∧
    row.get? dnColumn = some (.text r.dn) ∧ row.get? docIdColumn = some (.text leaf) ∧
    row.get? classColumn = some (.text cls)

/-- The new row, with what the record's attributes make of its names. -/
def Identified (c : Coercion) (r : ChangeRecord) (m m' : Memory) : Prop :=
  ∃ cls leaf row, targetClass? r = some cls ∧ Appended m m' cls row ∧ Dn.leaf r.dn = .ok leaf ∧
    row.get? dnColumn = some (overridden c dnColumn r.dataAttributes (.text r.dn)) ∧
    row.get? docIdColumn = some (overridden c docIdColumn r.dataAttributes (.text leaf)) ∧
    row.get? classColumn = some (.text cls)

/-- The record's attributes leave its names as they are. -/
def KeepsNames (c : Coercion) (r : ChangeRecord) : Prop :=
  overridden c dnColumn r.dataAttributes (.text r.dn) = .text r.dn ∧
    ∀ leaf, Dn.leaf r.dn = .ok leaf →
      overridden c docIdColumn r.dataAttributes (.text leaf) = .text leaf

theorem overridden_of_spared {column : String} {attributes : List (String × List String)}
    (spared : ∀ a ∈ attributes, a.1 ≠ column) (own : Value) :
    overridden c column attributes own = own := by
  rw [overridden, lastValues?_eq_none.2 spared]
  rfl

/-- No attribute `dn` and no attribute `doc_id` are needed for the names to stay. -/
theorem keepsNames_of_spared
    (spared : ∀ a ∈ r.dataAttributes, a.1 ≠ dnColumn ∧ a.1 ≠ docIdColumn) :
    KeepsNames c r :=
  ⟨overridden_of_spared (fun a member => (spared a member).1) _,
    fun _ _ => overridden_of_spared (fun a member => (spared a member).2) _⟩

/-! ## The drafted row -/

theorem get?_filled_lacking {attributes : List (String × List String)} {column : String}
    (lacks : t.hasColumn column = false) {row row' : Row}
    (run : filled c t row attributes = .ok row') : row'.get? column = row.get? column := by
  induction attributes generalizing row with
  | nil =>
    cases run
    rfl
  | cons held rest ih =>
    obtain ⟨name, values⟩ := held
    simp only [filled] at run
    split at run
    · rename_i has
      obtain ⟨value, _, run⟩ := bind_ok run
      have other : column ≠ name := by
        rintro rfl
        rw [lacks] at has
        cases has
      rw [ih run, Row.get?_set, if_neg other]
    · exact ih run

/-- A column that is filled first holds what the last attribute with its name says, if the table
takes the row. -/
theorem get?_of_filled {attributes : List (String × List String)} {column : String} {own : Value}
    {row full : Row} (fill : filled c t row attributes = .ok full)
    (first : row.get? column = some own)
    (columns : Memory.checkColumns t (fillContainers full t.structuredColumns).values.keys = .ok ()) :
    (fillContainers full t.structuredColumns).get? column =
      some (overridden c column attributes own) := by
  have has : t.hasColumn column = true := by
    by_contra lacks
    have kept := get?_filled_lacking (Bool.not_eq_true _ ▸ lacks) fill
    have held : (fillContainers full t.structuredColumns).get? column = some own :=
      get?_fillContainers (kept.trans first)
    exact lacks (Memory.checkColumns_ok.1 columns column (Keyed.mem_keys_of_get? held))
  apply get?_fillContainers
  cases given : lastValues? column attributes with
  | none =>
    rw [get?_filled (lastValues?_eq_none.1 given) fill, first, overridden, given]
    rfl
  | some values =>
    obtain ⟨value, converted, held⟩ := get?_filled_last has given fill
    rw [held, overridden, given, Option.bind_some, converted]
    rfl

theorem get?_namedRow (t : Table) (dn leaf cls : String) :
    (namedRow t dn leaf cls).get? dnColumn = some (.text dn) ∧
      (namedRow t dn leaf cls).get? docIdColumn = some (.text leaf) ∧
      (namedRow t dn leaf cls).get? classColumn = some (.text cls) := by
  have afterClass : docIdColumn ≠ classColumn := by decide
  refine ⟨get?_dn_namedRow t dn leaf cls, ?_, ?_⟩
  · simp only [namedRow, Row.get?_set, if_neg afterClass, if_true]
  · simp only [namedRow, Row.get?_set, if_true]

/-- An attribute that names the class is no data, whatever the case of its letters. -/
theorem dataAttributes_ne_class (r : ChangeRecord) : ∀ a ∈ r.dataAttributes, a.1 ≠ classColumn := by
  intro a member same
  have kept := (List.mem_filter.1 member).2
  have named : Text.sameLetters a.1 classColumn = true := by
    rw [same]
    decide
  rw [named] at kept
  cases kept

/-! ## Created records -/

theorem identified_insert {row : Row} (target : targetClass? r = some t.name)
    (draft : drafted c t t.name r = .ok row) (inserted : m.insert t row = .ok m') :
    Identified c r m m' := by
  have columns := (Memory.insert_ok inserted).1
  obtain ⟨leaf, full, found, fill, rfl⟩ := drafted_ok draft
  obtain ⟨dn, docId, cls⟩ := get?_namedRow t r.dn leaf t.name
  refine ⟨t.name, leaf, _, target, Memory.appended_insert inserted, found,
    get?_of_filled fill dn columns, get?_of_filled fill docId columns, ?_⟩
  have own := get?_of_filled fill cls columns
  rwa [overridden_of_spared (dataAttributes_ne_class r)] at own

theorem identified_outcome (tidy : Tidy d) (known : d.tables = some tables)
    (made : (outcome d.store tables d.coercion r).1 = .created) :
    Identified d.coercion r d.store (outcome d.store tables d.coercion r).2 := by
  obtain ⟨_, t, row, target, _, draft, inserted⟩ :=
    insertion_of_created (tidy.byName tables known) made
  exact identified_insert target draft inserted

/-- Only one row has been appended. -/
theorem appended_unique {name other : String} {row row' : Row} (one : Appended m m' name row)
    (two : Appended m m' other row') : other = name ∧ row' = row := by
  have same : other = name := by
    by_contra different
    have kept := one.elsewhere other different
    rw [two.here] at kept
    exact absurd kept (by simp)
  subst same
  have rows := one.here.symm.trans two.here
  exact ⟨rfl, (List.singleton_inj.1 (List.append_cancel_left rows)).symm⟩

theorem addressable_iff (identified : Identified c r m m') :
    Addressable r m m' ↔ KeepsNames c r := by
  obtain ⟨cls, leaf, row, _, appended, found, dn, docId, named⟩ := identified
  constructor
  · rintro ⟨cls', leaf', row', appended', found', dn', docId', _⟩
    obtain ⟨rfl, rfl⟩ := appended_unique appended appended'
    refine ⟨Option.some.inj (dn.symm.trans dn'), fun other held => ?_⟩
    cases found.symm.trans held
    cases found.symm.trans found'
    exact Option.some.inj (docId.symm.trans docId')
  · rintro ⟨keepsDn, keepsDocId⟩
    rw [keepsDn] at dn
    rw [keepsDocId leaf found] at docId
    exact ⟨cls, leaf, row, appended, found, dn, docId, named⟩

/-- Created rows have the names of their records. -/
def addressableRows : Law := fun d r a d' => a = .created → Addressable r d.store d'.store

def identifiedRows : Law := fun d r a d' => a = .created →
  Identified d.coercion r d.store d'.store ∧
    (Addressable r d.store d'.store ↔ KeepsNames d.coercion r)

/-- Each created row is stored in the table that it names and gets the names that the record's
attributes leave it.  They are the record's own exactly if the last attributes `dn` and `doc_id`,
if there are any, say the same. -/
theorem apply_identified (d : Directory Memory) (tidy : Tidy d) (force : Bool)
    (found : (Directory.reflect force d).result = .ok ()) (rs : List ChangeRecord) :
    ∃ as, (apply rs force d).result = .ok (reportOf as) ∧
      Along identifiedRows (Directory.reflect force d).state rs as (apply rs force d).state := by
  refine along_apply ?_ tidy found rs
  intro d tables tidy known r made
  have identified := identified_outcome tidy known made
  exact ⟨identified, addressable_iff identified⟩

/-- A new client whose record goes on with another `dn`. -/
def twiceNamed : ChangeRecord :=
  ⟨"inum=1,o=jans", [("objectClass", ["top", "jansClnt"]), ("dn", ["inum=2,o=jans"])]⟩

theorem apply_identified_twiceNamed :
    let d := Directory.ofClients []
    let done := apply [twiceNamed] false d
    Tidy d ∧ done.result = .ok ⟨1, 0, 0, 0⟩ ∧ ∃ as,
      Along identifiedRows (Directory.reflect false d).state [twiceNamed] as done.state := by
  intro d done
  have tidy : Tidy d := Directory.tidy_ofClients []
  have fine : (Directory.reflect false d).result = .ok () := by decide
  obtain ⟨as, _, along⟩ := apply_identified d tidy false fine [twiceNamed]
  exact ⟨tidy, by decide +kernel, as, along⟩

theorem hasDn_of_addressable (addressable : Addressable r m m') : m'.hasDn r.dn = true := by
  obtain ⟨cls, leaf, row, appended, _, dn, _, _⟩ := addressable
  refine Memory.hasDn_iff.2 ⟨cls, row, ?_, ?_⟩
  · rw [appended.here]
    exact List.mem_append_right _ List.mem_cons_self
  · rw [Row.dn?, dn]
    rfl

theorem not_addressableRows : ¬ ∀ (d : Directory Memory), Tidy d → ∀ force,
    (Directory.reflect force d).result = .ok () → ∀ rs, ∃ as,
      (apply rs force d).result = .ok (reportOf as) ∧
        Along addressableRows (Directory.reflect force d).state rs as
          (apply rs force d).state := by
  intro always
  have fine : (Directory.reflect false (Directory.ofClients [])).result = .ok () := by decide
  obtain ⟨as, answer, along⟩ :=
    always (Directory.ofClients []) (Directory.tidy_ofClients []) false fine [twiceNamed]
  obtain ⟨a, rfl, held⟩ := along_one along
  have counted : (apply [twiceNamed] false (Directory.ofClients [])).result =
      .ok ⟨1, 0, 0, 0⟩ := by decide +kernel
  have created := created_of_reportOf (Except.ok.inj (answer.symm.trans counted))
  have lost : (apply [twiceNamed] false (Directory.ofClients [])).state.store.hasDn
      twiceNamed.dn = false := by decide +kernel
  rw [hasDn_of_addressable (held created)] at lost
  cases lost

end RelDirectory.Ldif
