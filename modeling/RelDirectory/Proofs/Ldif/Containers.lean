import RelDirectory.Proofs.Ldif.Change
import RelDirectory.Proofs.Ldif.Frame

/-!
# Columns with several values

Whether a column is a container is asked twice: the catalog tells how values are converted for a
new row or a replacement, and the type of the column whether values are added.  Where the one
that is asked says so, the column has all values of the record afterwards, and an addition keeps
the items that it finds (`apply_containers`).
-/
set_option autoImplicit false
namespace RelDirectory

/-- The table with this name among those that the directory has discovered. -/
def Directory.described? (d : Directory Memory) (name : String) : Option Table :=
  d.tables.bind (·.get? name)

/-- The attribute's column takes containers. -/
def Table.Structured (t : Table) (attr : String) : Prop :=
  ∃ column, t.column? attr = some column ∧ column.isStructured = true

/-- The attribute's values are converted to a container. -/
def Coercion.Structured (c : Coercion) (attr : String) : Prop := c.kind attr = .ok .structured

namespace Ldif

open Directory (Tidy)
open Memory (Appended Overwritten)

variable {m m' : Memory} {d : Directory Memory} {tables : Keyed Table} {c : Coercion}
  {r : ChangeRecord} {t : Table} {attr : String} {values : List String}

/-- The column holds a container with all the values. -/
def Includes (held : Option Value) (values : List String) : Prop :=
  ∃ items, held = some (.container items) ∧ ∀ v ∈ values, Json.string v ∈ items

theorem includes_ofStrings (values : List String) :
    Includes (some (Value.ofStrings values)) values :=
  ⟨values.map .string, rfl, fun _ given => List.mem_map_of_mem given⟩

theorem includes_addItems (items : List Json) (values : List String) :
    Includes (some (.container (addItems items values))) values :=
  ⟨_, rfl, fun v given => mem_addItems.2 (Or.inr ⟨v, given, rfl⟩)⟩

theorem toColumn_structured (structured : c.Structured attr) {value : Value}
    (converted : c.toColumn attr values = .ok value) : value = Value.ofStrings values := by
  rw [Coercion.toColumn, structured] at converted
  cases converted
  rfl

/-! ## What a record writes -/

/-- A record has made a row in a known table. -/
structure Made (d : Directory Memory) (r : ChangeRecord) (m' : Memory) (t : Table) (row : Row) :
    Prop where
  target : targetClass? r = some t.name
  known : d.described? t.name = some t
  appended : Appended d.store m' t.name row

/-- A record has put a value into a column of the row that was found for it, and of every other
row of the table with this row's `dn`. -/
structure Put (d : Directory Memory) (r : ChangeRecord) (m' : Memory) (attr : String) (entry : Row)
    (t : Table) (value : Value) : Prop where
  target : target? r = some attr
  found : (Directory.find? r.dn d).result = .ok (some entry)
  held : entry ∈ d.store.rows entry.table
  known : d.described? entry.table = some t
  overwritten : Overwritten d.store m' entry attr value
  reached : ∀ row ∈ d.store.rows entry.table, row.dn? = some (entry.dn?.getD r.dn) →
    row.set attr value ∈ m'.rows entry.table

theorem made_insert (known : d.tables = some tables) {row : Row}
    (target : targetClass? r = some t.name) (held : tables.get? t.name = some t)
    (inserted : d.store.insert t row = .ok m') : Made d r m' t { row with table := t.name } := by
  refine ⟨target, ?_, Memory.appended_insert inserted⟩
  rw [Directory.described?, known]
  exact held

theorem put_planned (tidy : Tidy d) (known : d.tables = some tables) {p : Plan} {n : Nat}
    (plan : planned d.store tables d.coercion r = .ok (some p))
    (sent : d.store.update p.table (p.row.dn?.getD r.dn) p.column p.value = .ok (n, m')) :
    Put d r m' p.column p.row p.table p.value := by
  obtain ⟨entry, held, _, aimed⟩ := planned_aim plan
  obtain ⟨found, overwritten⟩ := overwritten_planned tidy known plan sent
  have own : p.table.name = p.row.table := tidy.byName tables known _ _ held
  refine ⟨aimed, found, ?_, ?_, overwritten, ?_⟩
  · obtain ⟨t, _, home, member⟩ := Memory.entryRow?_held tidy.placed entry
    rwa [home]
  · rw [Directory.described?, known]
    exact held
  · intro row member named
    obtain ⟨_, _, rfl⟩ := Memory.update_ok sent
    rw [Memory.rows_written, if_pos own.symm]
    exact List.mem_map.2 ⟨row, member, if_pos named⟩

/-! ## New rows -/

theorem includes_drafted {cls : String} {row : Row} (draft : drafted c t cls r = .ok row)
    (given : lastValues? attr r.dataAttributes = some values) (has : t.hasColumn attr = true)
    (structured : c.Structured attr) : Includes (row.get? attr) values := by
  obtain ⟨_, full, _, fill, rfl⟩ := drafted_ok draft
  obtain ⟨value, converted, held⟩ := get?_filled_last has given fill
  rw [get?_fillContainers held, toColumn_structured structured converted]
  exact includes_ofStrings values

/-! ## Changed columns -/

/-- Values are added to the attribute's column, and it takes containers. -/
def Joins (r : ChangeRecord) (t : Table) (attr : String) : Prop :=
  r.operation = .add attr ∧ t.Structured attr

/-- The change that a plan makes. -/
theorem planned_change {p : Plan} (plan : planned m tables c r = .ok (some p)) :
    ∃ values, changedValues r p.column = .ok values ∧
      (Joins r p.table p.column ∧ p.change = .join values ∨
        ¬ Joins r p.table p.column ∧ ∃ value, c.toColumn p.column values = .ok value ∧
          p.change = .set value) := by
  cases kind : r.operation with
  | create => simp [planned, kind] at plan
  | unsupported word => simp [planned, kind] at plan
  | add name =>
    simp only [planned, kind] at plan
    obtain ⟨_, rfl, values, column, given, held, added⟩ := plannedAdd_ok plan
    refine ⟨values, given, ?_⟩
    rw [addition] at added
    split at added
    · rename_i structured
      exact Or.inl ⟨⟨kind, column, held, structured⟩, (Except.ok.inj added).symm⟩
    · -- a column of another kind is overwritten, as a replacement would do
      rename_i plain
      cases converted : c.toColumn p.column values with
      | error e =>
        rw [converted] at added
        cases added
      | ok value =>
        rw [converted] at added
        refine Or.inr ⟨?_, value, rfl, (Except.ok.inj added).symm⟩
        rintro ⟨_, other, held', structured⟩
        rw [held, Option.some.injEq] at held'
        subst held'
        exact plain structured
  | replace name =>
    simp only [planned, kind] at plan
    obtain ⟨_, rfl, _, values, value, given, converted, set⟩ := plannedReplace_ok plan
    refine ⟨values, given, Or.inr ⟨?_, value, converted, set⟩⟩
    rintro ⟨adds, _⟩
    rw [kind] at adds
    cases adds

theorem includes_planned {p : Plan} (plan : planned m tables c r = .ok (some p)) :
    ∃ values, changedValues r p.column = .ok values ∧
      (c.Structured p.column ∨ Joins r p.table p.column → Includes (some p.value) values) := by
  obtain ⟨values, given, change⟩ := planned_change plan
  refine ⟨values, given, ?_⟩
  rcases change with ⟨_, join⟩ | ⟨apart, value, converted, set⟩
  · intro _
    rw [Plan.value, join]
    exact includes_addItems _ values
  · rintro (structured | joins)
    · rw [Plan.value, set, Change.value, toColumn_structured structured converted]
      exact includes_ofStrings values
    · exact absurd joins apart

theorem heldItems_set (row : Row) (attr : String) (items : List Json) :
    heldItems (row.set attr (.container items)) attr = items := by
  simp [heldItems]

theorem heldItems_planned {p : Plan} (plan : planned m tables c r = .ok (some p))
    (joins : Joins r p.table p.column) :
    heldItems p.row p.column ⊆ heldItems (p.row.set p.column p.value) p.column := by
  obtain ⟨values, _, change⟩ := planned_change plan
  rcases change with ⟨_, join⟩ | ⟨apart, _⟩
  · rw [Plan.value, join, Change.value, heldItems_set]
    exact fun item old => mem_addItems.2 (Or.inl old)
  · exact absurd joins apart

/-! ## Laws -/

/-- When an attribute of a record is to be stored in a container. -/
abbrev Criterion : Type := Coercion → Table → ChangeRecord → String → Prop

/-- After a record that has made or changed a row, the columns that it has written and that are to
be containers hold all values. -/
def columnsHold (criterion : Criterion) : Law := fun d r a d' =>
  (a = .created → ∃ t row, Made d r d'.store t row ∧ ∀ attr values,
    lastValues? attr r.dataAttributes = some values → t.hasColumn attr = true →
      criterion d.coercion t r attr → Includes (row.get? attr) values) ∧
  (a = .updated → ∃ attr values entry t value, Put d r d'.store attr entry t value ∧
    changedValues r attr = .ok values ∧
      (criterion d.coercion t r attr → Includes (some value) values))

/-- An addition leaves the store as it is, or in the row that was found every item which a
container column holds. -/
def additionsKeep : Law := fun d r _ d' => ∀ attr, r.operation = .add attr →
  d'.store = d.store ∨ ∃ entry t value, Put d r d'.store attr entry t value ∧
    (t.Structured attr → heldItems entry attr ⊆ heldItems (entry.set attr value) attr)

/-- The catalog or the column asks for a container. -/
def eitherAsks : Criterion := fun c t _ attr => c.Structured attr ∨ t.Structured attr

/-- The catalog asks for a container, or the column to which values are added. -/
def decisiveAsks : Criterion := fun c t r attr => c.Structured attr ∨ Joins r t attr

theorem columnsHold_outcome (tidy : Tidy d) (known : d.tables = some tables) :
    columnsHold decisiveAsks d r (outcome d.store tables d.coercion r).1
      { d with store := (outcome d.store tables d.coercion r).2 } := by
  constructor
  · intro created
    obtain ⟨new, t, row, target, held, draft, inserted⟩ :=
      insertion_of_created (tidy.byName tables known) created
    refine ⟨t, _, made_insert known target held inserted, ?_⟩
    rintro attr values given has (structured | ⟨adds, _⟩)
    · have full : Includes (row.get? attr) values := includes_drafted draft given has structured
      exact full
    · rw [new] at adds
      cases adds
  · intro updated
    obtain ⟨p, n, plan, _, sent⟩ := plan_of_updated updated
    obtain ⟨values, given, includes⟩ := includes_planned plan
    exact ⟨p.column, values, p.row, p.table, p.value, put_planned tidy known plan sent, given,
      includes⟩

theorem additionsKeep_outcome (tidy : Tidy d) (known : d.tables = some tables) :
    additionsKeep d r (outcome d.store tables d.coercion r).1
      { d with store := (outcome d.store tables d.coercion r).2 } := by
  intro attr adds
  have modify : r.operation ≠ .create := by simp [adds]
  by_cases updated : (outcome d.store tables d.coercion r).1 = .updated
  · obtain ⟨p, n, plan, _, sent⟩ := plan_of_updated updated
    have put := put_planned tidy known plan sent
    have aimed : p.column = attr := by
      have target := put.target
      simp only [target?, adds, Option.some.injEq] at target
      exact target.symm
    subst aimed
    exact Or.inr ⟨p.row, p.table, p.value, put, fun structured =>
      heldItems_planned plan ⟨adds, structured⟩⟩
  · exact Or.inl (store_of_neither (not_created_of_modify modify) updated)

def containersKept : Law := fun d r a d' => columnsHold decisiveAsks d r a d' ∧ additionsKeep d r a d'

/-- After each record of a batch the column of an attribute that it has written holds all of the
record's values, if the catalog stores the attribute in containers or values were added to a
container column; and no addition to a container column drops an item. -/
theorem apply_containers (d : Directory Memory) (tidy : Tidy d) (force : Bool)
    (found : (Directory.reflect force d).result = .ok ()) (rs : List ChangeRecord) :
    ∃ as, (apply rs force d).result = .ok (reportOf as) ∧
      Along containersKept (Directory.reflect force d).state rs as (apply rs force d).state := by
  refine along_apply ?_ tidy found rs
  intro d tables tidy known r
  exact ⟨columnsHold_outcome tidy known, additionsKeep_outcome tidy known⟩

/-- A new client with a redirect URI, one more URI for it, and others in their place. -/
def redirectedClient : List ChangeRecord := [
  ⟨"inum=1,o=jans", [("objectClass", ["top", "jansClnt"]), ("jansRedirectURI", ["https://a"])]⟩,
  ⟨"inum=1,o=jans", [("changetype", ["modify"]), ("add", ["jansRedirectURI"]),
    ("jansRedirectURI", ["https://b"])]⟩,
  ⟨"inum=1,o=jans", [("changetype", ["modify"]), ("replace", ["jansRedirectURI"]),
    ("jansRedirectURI", ["https://c", "https://d"])]⟩]

theorem apply_containers_redirected :
    let d := Directory.ofClients []
    let done := apply redirectedClient false d
    Tidy d ∧ done.result = .ok ⟨1, 2, 0, 0⟩ ∧ ∃ as,
      Along containersKept (Directory.reflect false d).state redirectedClient as done.state := by
  intro d done
  have tidy : Tidy d := Directory.tidy_ofClients []
  have fine : (Directory.reflect false d).result = .ok () := by decide
  obtain ⟨as, _, along⟩ := apply_containers d tidy false fine redirectedClient
  exact ⟨tidy, by decide +kernel, as, along⟩

/-- A directory of clients with any number of names each, which the catalog calls texts. -/
def manyNamed : Directory Memory :=
  .new (Memory.single ⟨"jansClnt", [⟨"dn", "VARCHAR"⟩, ⟨"doc_id", "VARCHAR"⟩,
    ⟨"objectClass", "VARCHAR"⟩, ⟨"displayName", "JSON"⟩]⟩ []) (Directory.ofClients []).catalog

def namedClient : ChangeRecord :=
  ⟨"inum=1,o=jans", [("objectClass", ["top", "jansClnt"]), ("displayName", ["one"])]⟩

theorem not_columnsHold_either : ¬ ∀ (d : Directory Memory), Tidy d → ∀ force,
    (Directory.reflect force d).result = .ok () → ∀ rs, ∃ as,
      (apply rs force d).result = .ok (reportOf as) ∧
        Along (columnsHold eitherAsks) (Directory.reflect force d).state rs as
          (apply rs force d).state := by
  intro always
  have tidy : Tidy manyNamed := Directory.tidy_new (Memory.placed_single _ []) _
  have fine : (Directory.reflect false manyNamed).result = .ok () := by decide
  obtain ⟨as, answer, along⟩ := always manyNamed tidy false fine [namedClient]
  obtain ⟨a, rfl, columns, _⟩ := along_one along
  have counted : (apply [namedClient] false manyNamed).result = .ok ⟨1, 0, 0, 0⟩ := by
    decide +kernel
  have created := created_of_reportOf (Except.ok.inj (answer.symm.trans counted))
  obtain ⟨t, row, made, holds⟩ := columns created
  have target : targetClass? namedClient = some "jansClnt" := by decide
  have home : t.name = "jansClnt" := Option.some.inj (made.target.symm.trans target)
  have columns : ∀ t, (Directory.reflect false manyNamed).state.described? "jansClnt" = some t →
      t.column? "displayName" = some ⟨"displayName", "JSON"⟩ := by
    rintro _ ⟨⟩
    rfl
  have column := columns t (home ▸ made.known)
  have has : t.hasColumn "displayName" = true := by rw [Table.hasColumn, column]; rfl
  obtain ⟨items, container, _⟩ :=
    holds "displayName" ["one"] (by decide) has (Or.inr ⟨_, column, by decide⟩)
  -- the only row of the table is the new one
  have member : row ∈ (apply [namedClient] false manyNamed).state.store.rows "jansClnt" := by
    rw [← home, made.appended.here]
    exact List.mem_append_right _ List.mem_cons_self
  have plain : ∀ row ∈ (apply [namedClient] false manyNamed).state.store.rows "jansClnt",
      row.get? "displayName" = some (.text "one") := by decide +kernel
  rw [plain row member] at container
  cases container

end Ldif

end RelDirectory
