import RelDirectory.Proofs.FirstMatch
import RelDirectory.Proofs.Ldif.Containers

/-!
# Unions

A value that is added to a container goes behind the items, unless it is among them.  Records that
add to one container one after the other so make the union of its items with all their values
(`addItems_eq_union`).  They do it in the row with their name, if this is the only such row and the
name leads to it at all: a blank name does not, nor does one to a table that cannot name entries
(`apply_union`).
-/
set_option autoImplicit false
namespace RelDirectory

/-- The row is stored, and no other row has a `dn` with this text. -/
structure Memory.Sole (m : Memory) (dn : String) (row : Row) : Prop where
  here : (m.rows row.table).filter (fun other => other.shownDn? == some dn) = [row]
  elsewhere : ∀ name, name ≠ row.table → ∀ other ∈ m.rows name, other.shownDn? ≠ some dn

/-- A row of the table can be found by this name once the tables are discovered. -/
structure Directory.Leads (d : Directory Memory) (force : Bool) (dn : String) (t : Table) :
    Prop where
  discovered : (Directory.reflect force d).result = .ok ()
  named : Text.allBlank dn.toList = false
  column : t.hasColumn dnColumn = true

namespace Ldif

open Step
open Directory (KeyedByName Tidy)
open Memory (naming)

/-- The items, and behind them each value that is not one of them, once, in the order in which the
values first appear. -/
def union (items : List Json) (values : List String) : List Json :=
  items ++ (values.filter fun v => !items.contains (.string v)).eraseDups.map .string

/-- The row with values added to a container; it stays as it is if there are none. -/
def joined (row : Row) (attr : String) (values : List String) : Row :=
  if values = [] then row else row.set attr (.container (union (heldItems row attr) values))

/-- The values that a record gives an attribute. -/
def given (r : ChangeRecord) (attr : String) : List String := (r.values? attr).getD []

variable {m : Memory} {tables : Keyed Table} {c : Coercion} {r : ChangeRecord}
  {rs : List ChangeRecord} {t : Table} {row : Row} {dn attr : String}

/-! ## Items -/

theorem addItems_eq_union (items : List Json) (values : List String) :
    addItems items values = union items values := by
  induction values generalizing items with
  | nil => simp [addItems, union]
  | cons v rest ih =>
    rw [addItems_cons, ih, union, union, List.filter_cons]
    by_cases held : items.contains (.string v) = true
    · rw [if_pos held, held, Bool.not_true, if_neg Bool.false_ne_true]
    · -- a later copy of the value is one of the items now
      have later : (rest.filter fun w => !(items ++ [Json.string v]).contains (.string w)) =
          (rest.filter fun w => !items.contains (.string w)).filter fun w => !w == v := by
        rw [List.filter_filter]
        refine List.filter_congr ?_
        intro w _
        have single : [Json.string v].contains (.string w) = (w == v) := by
          simp [Bool.beq_eq_decide_eq]
        rw [List.contains_append, Bool.not_or, Bool.and_comm, single]
      rw [if_neg held, later, if_pos (by simpa using held), List.eraseDups_cons, List.map_cons,
        List.append_assoc, List.singleton_append]

theorem union_append (items : List Json) (values others : List String) :
    union items (values ++ others) = union (union items values) others := by
  simp only [← addItems_eq_union, addItems_append]

theorem heldItems_joined (row : Row) (attr : String) (values : List String) :
    heldItems (joined row attr values) attr = union (heldItems row attr) values := by
  rw [joined]
  split
  · rename_i nothing
    rw [nothing, union]
    simp
  · exact heldItems_set row attr _

theorem get?_joined {other : String} (apart : other ≠ attr) (values : List String) :
    (joined row attr values).get? other = row.get? other := by
  rw [joined]
  split
  · rfl
  · rw [Row.get?_set, if_neg apart]

theorem table_joined (values : List String) : (joined row attr values).table = row.table := by
  rw [joined]
  split <;> rfl

theorem set_joined (values : List String) (value : Value) :
    (joined row attr values).set attr value = row.set attr value := by
  rw [joined]
  split
  · rfl
  · exact Row.set_set row attr _ value

theorem joined_append (row : Row) (attr : String) (values others : List String) :
    joined row attr (values ++ others) = joined (joined row attr values) attr others := by
  by_cases last : others = []
  · rw [last, List.append_nil, joined.eq_def (joined row attr values), if_pos rfl]
  · have several : values ++ others ≠ [] := fun both => last (List.append_eq_nil_iff.1 both).2
    rw [joined, if_neg several, joined.eq_def (joined row attr values), if_neg last, set_joined,
      heldItems_joined, union_append]

/-! ## The only row with a name -/

theorem mem_of_sole (sole : m.Sole dn row) :
    row ∈ m.rows row.table ∧ row.shownDn? = some dn := by
  have held : row ∈ (m.rows row.table).filter fun other => other.shownDn? == some dn := by
    rw [sole.here]
    exact List.mem_singleton_self row
  obtain ⟨member, named⟩ := List.mem_filter.1 held
  exact ⟨member, eq_of_beq named⟩

theorem eq_of_sole (sole : m.Sole dn row) {name : String} {other : Row}
    (member : other ∈ m.rows name) (named : other.shownDn? = some dn) : other = row := by
  by_cases home : name = row.table
  · subst home
    have held : other ∈ (m.rows row.table).filter fun other => other.shownDn? == some dn :=
      List.mem_filter.2 ⟨member, beq_iff_eq.2 named⟩
    rw [sole.here] at held
    exact List.mem_singleton.1 held
  · exact absurd named (sole.elsewhere name home other member)

theorem sole_written_elsewhere (sole : m.Sole dn row) {name : String} (apart : name ≠ row.table)
    {column : String} (other : column ≠ dnColumn) (own : String) (value : Value) :
    (m.written name own column value).Sole dn row := by
  refine ⟨?_, ?_⟩
  · rw [Memory.rows_written, if_neg apart.symm]
    exact sole.here
  · intro home different r member
    rw [Memory.rows_written] at member
    split at member
    · obtain ⟨r', held, rfl⟩ := List.mem_map.1 member
      rw [Memory.shownDn?_setColumn other]
      exact sole.elsewhere home different r' held
    · exact sole.elsewhere home different r member

theorem sole_written (sole : m.Sole dn row) (own : row.dn? = some dn) {column : String}
    (other : column ≠ dnColumn) (value : Value) :
    (m.written row.table dn column value).Sole dn (row.set column value) := by
  refine ⟨?_, ?_⟩
  · have reads : ((fun r : Row => r.shownDn? == some dn) ∘ Memory.setColumn dn column value) =
        fun r => r.shownDn? == some dn := by
      funext r
      simp only [Function.comp_apply, Memory.shownDn?_setColumn other]
    rw [Row.table_set, Memory.rows_written, if_pos rfl, List.filter_map, reads, sole.here,
      List.map_singleton, Memory.setColumn, if_pos own]
  · intro name different r member
    have apart : name ≠ row.table := different
    rw [Memory.rows_written, if_neg apart] at member
    exact sole.elsewhere name apart r member

/-- The name leads to its only row. -/
theorem entryRow?_sole (placed : m.Placed) (sole : m.Sole dn row)
    (named : Text.allBlank dn.toList = false) (naming : t ∈ naming tables)
    (home : t.name = row.table) : m.entryRow? tables dn = some row := by
  obtain ⟨held, reads⟩ := mem_of_sole sole
  have member : row ∈ Directory.candidates m tables :=
    List.mem_flatMap.2 ⟨t, naming, home ▸ held⟩
  obtain ⟨first, hit⟩ :=
    Option.isSome_iff_exists.1 (Directory.firstRow_isSome_of_mem member reads)
  have found : m.entryRow? tables dn = some first := by
    simp only [Memory.entryRow?, named, Bool.false_eq_true, if_false, hit, Option.some_or]
  obtain ⟨_, _, _, stands⟩ := Memory.entryRow?_held placed found
  have same := Memory.shownDn?_entryRow? naming (home ▸ held) reads found
  rw [found, eq_of_sole sole stands same]

/-! ## One addition -/

theorem changedValues_cases (r : ChangeRecord) (attr : String) :
    (given r attr = [] ∧ ∃ e, changedValues r attr = .error e) ∨
      (given r attr ≠ [] ∧ changedValues r attr = .ok (given r attr)) := by
  rw [changedValues, given]
  cases r.values? attr with
  | none => exact Or.inl ⟨rfl, _, rfl⟩
  | some values =>
    cases values with
    | nil => exact Or.inl ⟨rfl, _, rfl⟩
    | cons v rest => exact Or.inr ⟨List.cons_ne_nil v rest, rfl⟩

/-- Without values nothing is added. -/
theorem store_of_nothing (adds : r.operation = .add attr) (nothing : given r attr = []) :
    (outcome m tables c r).2 = m := by
  rcases changedValues_cases r attr with ⟨_, e, said⟩ | ⟨something, _⟩
  · have failed : planned m tables c r = .error e := by
      simp only [planned, adds, plannedAdd, said, error_bind]
    simp only [outcome, applied, adds, failed, pursued]
  · exact absurd nothing something

theorem planned_join (adds : r.operation = .add attr) (something : given r attr ≠ [])
    (entry : m.entryRow? tables r.dn = some row) (known : tables.get? row.table = some t)
    (structured : t.Structured attr) :
    planned m tables c r = .ok (some ⟨row, t, attr, .join (given r attr)⟩) := by
  obtain ⟨column, held, container⟩ := structured
  have place : located m tables r.dn = .ok (some (row, t)) := by
    simp only [located, entry, known]
  have said := ((changedValues_cases r attr).resolve_left fun none => something none.1).2
  simp only [planned, adds, plannedAdd, said, place, held, addition, container, ok_bind]
  rfl

/-- A record whose name leads to the row puts its values into the row's container. -/
theorem sole_outcome (sole : m.Sole dn row) (own : row.dn? = some dn)
    (entry : m.entryRow? tables dn = some row) (known : tables.get? row.table = some t)
    (home : t.name = row.table) (structured : t.Structured attr) (other : attr ≠ dnColumn)
    (named : r.dn = dn) (adds : r.operation = .add attr) :
    (outcome m tables c r).2.Sole dn (joined row attr (given r attr)) := by
  by_cases nothing : given r attr = []
  · rw [store_of_nothing adds nothing, nothing, joined, if_pos rfl]
    exact sole
  · let p : Plan := ⟨row, t, attr, .join (given r attr)⟩
    have plan : planned m tables c r = .ok (some p) :=
      planned_join adds nothing (named ▸ entry) known structured
    have value : p.value = .container (union (heldItems row attr) (given r attr)) := by
      rw [← addItems_eq_union]
      rfl
    obtain ⟨s, stored⟩ := Memory.isStored_of_mem (mem_of_sole sole).1
    have run := carryOut_stored (planned_aim plan).2.2.1 (home ▸ stored) r.dn
    rw [outcome_of_planned plan, run, joined, if_neg nothing, ← value]
    by_cases same : row.get? attr = some p.value
    · rw [if_pos same, Row.set_of_get? same]
      exact sole
    · have written := sole_written sole own other p.value
      have name : p.row.dn?.getD r.dn = dn := by rw [own, Option.getD_some]
      rw [if_neg same, name]
      exact home ▸ written

/-- A record whose name leads elsewhere, or nowhere, leaves the row as it is. -/
theorem sole_outcome_elsewhere (sole : m.Sole dn row) (byName : KeyedByName tables)
    (apart : ∀ entry, m.entryRow? tables dn = some entry → entry.table ≠ row.table)
    (other : attr ≠ dnColumn) (named : r.dn = dn) (adds : r.operation = .add attr) :
    (outcome m tables c r).2.Sole dn row := by
  refine outcome_induction (P := fun m' => m'.Sole dn row) sole ?_ ?_
  · intro _ _ _ _ new _ _
    rw [adds] at new
    cases new
  · intro p _ _ plan sent
    obtain ⟨entry, held, _, aimed⟩ := planned_aim plan
    obtain ⟨_, _, rfl⟩ := Memory.update_ok sent
    have own : p.table.name = p.row.table := byName _ _ held
    have column : attr = p.column := by
      simpa only [target?, adds, Option.some.injEq] using aimed
    subst column
    refine sole_written_elsewhere sole ?_ other _ _
    rw [own]
    exact apart p.row (named ▸ entry)

/-! ## Many additions -/

/-- Records that all add to one attribute of one entry. -/
def Adding (dn attr : String) (rs : List ChangeRecord) : Prop :=
  ∀ r ∈ rs, r.dn = dn ∧ r.operation = .add attr

instance (dn attr : String) (rs : List ChangeRecord) : Decidable (Adding dn attr rs) :=
  inferInstanceAs (Decidable (∀ r ∈ rs, r.dn = dn ∧ r.operation = .add attr))

theorem sole_outcomes (placed : m.Placed) (sole : m.Sole dn row) (own : row.dn? = some dn)
    (nonblank : Text.allBlank dn.toList = false) (known : tables.get? row.table = some t)
    (home : t.name = row.table) (naming : t ∈ naming tables) (structured : t.Structured attr)
    (other : attr ≠ dnColumn) (adding : Adding dn attr rs) :
    (outcomes tables c m rs).2.Sole dn (joined row attr (rs.flatMap (given · attr))) := by
  induction rs generalizing m row with
  | nil =>
    rw [List.flatMap_nil, joined, if_pos rfl]
    exact sole
  | cons r rs ih =>
    obtain ⟨⟨named, adds⟩, rest⟩ := List.forall_mem_cons.1 adding
    have entry := entryRow?_sole placed sole nonblank naming home
    have first : (outcome m tables c r).2.Sole dn (joined row attr (given r attr)) :=
      sole_outcome sole own entry known home structured other named adds
    have own' : (joined row attr (given r attr)).dn? = some dn := by
      rw [Row.dn?, get?_joined (Ne.symm other)]
      exact own
    rw [List.flatMap_cons, joined_append]
    exact ih (placed_outcome placed) first own' (by rwa [table_joined]) (by rwa [table_joined]) rest

theorem sole_outcomes_elsewhere (placed : m.Placed) (sole : m.Sole dn row)
    (byName : KeyedByName tables) (known : tables.get? row.table = some t)
    (unnamed : Text.allBlank dn.toList = true ∨ t.hasColumn dnColumn = false)
    (other : attr ≠ dnColumn) (adding : Adding dn attr rs) :
    (outcomes tables c m rs).2.Sole dn row := by
  have both : (outcomes tables c m rs).2.Placed ∧ (outcomes tables c m rs).2.Sole dn row := by
    refine outcomes_induction (P := fun m => m.Placed ∧ m.Sole dn row) ?_ ⟨placed, sole⟩
    rintro r member m ⟨placed, sole⟩
    refine ⟨placed_outcome placed, ?_⟩
    refine sole_outcome_elsewhere sole byName ?_ other (adding r member).1 (adding r member).2
    intro entry found
    rcases unnamed with blank | lacks
    · rw [Memory.entryRow?, if_pos blank] at found
      cases found
    · obtain ⟨u, naming, stands, _⟩ := Memory.entryRow?_held placed found
      intro same
      have held := Directory.get?_of_mem_naming byName naming
      rw [← stands, same, known, Option.some.injEq] at held
      subst held
      rw [Directory.hasColumn_of_mem_naming naming] at lacks
      cases lacks
  exact both.2

variable {d : Directory Memory}

/-- The column holds a container, null or nothing. -/
def Fillable (row : Row) (attr : String) : Prop :=
  ∀ value, row.get? attr = some value → value = .null ∨ value.items?.isSome = true

theorem ne_dn_of_fillable (own : row.dn? = some dn) (fillable : Fillable row attr) :
    attr ≠ dnColumn := by
  rintro rfl
  rcases fillable _ (Memory.get?_of_dn? own) with null | items
  · cases null
  · cases items

/-- Records that add to a container of the only row with their name make the union of its items
with all their values, if the name leads to the row's table; otherwise the row stays as it is. -/
theorem apply_union (d : Directory Memory) (tidy : Tidy d) (force : Bool) (dn attr : String)
    (row : Row) (sole : d.store.Sole dn row) (own : row.dn? = some dn) (t : Table)
    (known : (Directory.reflect force d).state.described? row.table = some t)
    (structured : t.Structured attr) (fillable : Fillable row attr) (rs : List ChangeRecord)
    (adding : Adding dn attr rs) :
    let after := (apply rs force d).state.store
    let values := rs.flatMap (given · attr)
    (d.Leads force dn t → after.Sole dn (joined row attr values) ∧
      heldItems (joined row attr values) attr = union (heldItems row attr) values) ∧
    (¬ d.Leads force dn t → after.Sole dn row) := by
  intro after values
  have other := ne_dn_of_fillable own fillable
  rcases Directory.reflect_cases d force with ⟨e, failed⟩ | ⟨d', tables, found, store, tabled⟩
  · have same : after = d.store :=
      congrArg Directory.store (state_of_effect (effect_apply_error failed rs))
    refine ⟨?_, fun _ => same ▸ sole⟩
    intro leads
    have fine := leads.discovered
    rw [result_of_effect failed] at fine
    cases fine
  · have same : after = (outcomes tables d'.coercion d'.store rs).2 :=
      congrArg Directory.store (state_of_effect (effect_apply found tabled rs))
    have tidy' : Tidy d' := Directory.tidy_of_reflect tidy found
    have byName := tidy'.byName tables tabled
    rw [state_of_effect found, Directory.described?, tabled] at known
    have held : tables.get? row.table = some t := known
    have home : t.name = row.table := byName _ _ held
    rw [← store] at sole
    rw [same]
    refine ⟨?_, ?_⟩
    · intro leads
      have naming : t ∈ naming tables :=
        List.mem_filter.2 ⟨Keyed.mem_values_iff.2 ⟨_, held⟩, leads.column⟩
      exact ⟨sole_outcomes tidy'.placed sole own leads.named held home naming structured other
        adding, heldItems_joined row attr values⟩
    · intro astray
      refine sole_outcomes_elsewhere tidy'.placed sole byName held ?_ other adding
      by_contra neither
      obtain ⟨named, column⟩ := not_or.1 neither
      exact astray ⟨result_of_effect found, Bool.not_eq_true _ ▸ named, Bool.of_not_eq_false column⟩

/-- An addition of redirect URIs to a client. -/
def redirects (dn : String) (uris : List String) : ChangeRecord :=
  ⟨dn, [("changetype", ["modify"]), ("add", ["jansRedirectURI"]), ("jansRedirectURI", uris)]⟩

theorem sole_client (dn displayName : String) (uris : List String) :
    let row := Memory.client dn displayName uris
    (Directory.ofClients [row]).store.Sole dn row := by
  intro row
  have rows : ∀ name, (Directory.ofClients [row]).store.rows name =
      if name = row.table then [row] else [] := by
    intro name
    have empty : ((Memory.new .mysql).addTable Memory.clients).rows name = [] := by
      rw [Memory.addTable, Memory.rows_setTable]
      split <;> rfl
    have whole : (Directory.ofClients [row]).store =
        ((Memory.new .mysql).addTable Memory.clients).addRow row := rfl
    rw [whole, Memory.rows_addRow, empty, List.nil_append]
  refine ⟨?_, ?_⟩
  · have reads : (row.shownDn? == some dn) = true :=
      beq_iff_eq.2 (Directory.shownDn?_client dn displayName uris)
    rw [rows, if_pos rfl, List.filter_cons, if_pos reads, List.filter_nil]
  · intro name apart other member
    rw [rows, if_neg apart] at member
    cases member

theorem fillable_client (dn displayName : String) (uris : List String) :
    Fillable (Memory.client dn displayName uris) "jansRedirectURI" := by
  intro value held
  rw [Memory.client, Row.get?_set, if_pos rfl, Option.some.injEq] at held
  subst held
  rw [Value.ofStrings, Value.items?_container]
  exact Or.inr rfl

/-- Two additions, which give values that are there and values twice. -/
theorem apply_union_redirects :
    let dn := "inum=1,o=jans"
    let row := Memory.client dn "one" ["https://a"]
    let d := Directory.ofClients [row]
    let rs := [redirects dn ["https://c", "https://a", "https://c"],
      redirects dn ["https://b", "https://c"]]
    Tidy d ∧ d.store.Sole dn row ∧ row.dn? = some dn ∧
      (Directory.reflect false d).state.described? row.table = some Memory.clients ∧
      Memory.clients.Structured "jansRedirectURI" ∧ Fillable row "jansRedirectURI" ∧
      Adding dn "jansRedirectURI" rs ∧ d.Leads false dn Memory.clients ∧
      (apply rs false d).state.store.Sole dn
        (Memory.client dn "one" ["https://a", "https://c", "https://b"]) := by
  intro dn row d rs
  have tidy : Tidy d := Directory.tidy_ofClients [row]
  have sole : d.store.Sole dn row := sole_client dn "one" ["https://a"]
  have own : row.dn? = some dn := by decide
  have known : (Directory.reflect false d).state.described? row.table = some Memory.clients := by
    decide
  have structured : Memory.clients.Structured "jansRedirectURI" :=
    ⟨⟨"jansRedirectURI", "JSON"⟩, by decide, by decide⟩
  have fillable : Fillable row "jansRedirectURI" := fillable_client dn "one" ["https://a"]
  have adding : Adding dn "jansRedirectURI" rs := by decide
  have leads : d.Leads false dn Memory.clients := ⟨by decide, by decide, by decide⟩
  have done := ((apply_union d tidy false dn "jansRedirectURI" row sole own Memory.clients known
    structured fillable rs adding).1 leads).1
  have together : joined row "jansRedirectURI" (rs.flatMap (given · "jansRedirectURI")) =
      Memory.client dn "one" ["https://a", "https://c", "https://b"] := by
    decide +kernel
  exact ⟨tidy, sole, own, known, structured, fillable, adding, leads, together ▸ done⟩

/-- A client whose name is blank gets nothing. -/
theorem not_union_blank : ¬ ∀ (d : Directory Memory), Tidy d → ∀ force,
    (Directory.reflect force d).result = .ok () → ∀ (dn attr : String) (row : Row),
    d.store.Sole dn row → row.dn? = some dn → ∀ t,
    (Directory.reflect force d).state.described? row.table = some t → t.Structured attr →
    Fillable row attr → ∀ rs, Adding dn attr rs →
      (apply rs force d).state.store.Sole dn (joined row attr (rs.flatMap (given · attr))) := by
  intro always
  let row := Memory.client "" "one" ["https://a"]
  let rs := [redirects "" ["https://b"]]
  have sole := always (Directory.ofClients [row]) (Directory.tidy_ofClients [row]) false
    (by decide) "" "jansRedirectURI" row (sole_client "" "one" ["https://a"]) (by decide)
    Memory.clients (by decide) ⟨⟨"jansRedirectURI", "JSON"⟩, by decide, by decide⟩
    (fillable_client "" "one" ["https://a"]) rs (by decide)
  have member := (mem_of_sole sole).1
  have stays : ∀ other ∈ (apply rs false (Directory.ofClients [row])).state.store.rows "jansClnt",
      other.get? "jansRedirectURI" = some (.ofStrings ["https://a"]) := by
    decide +kernel
  have grown : (joined row "jansRedirectURI" (rs.flatMap (given · "jansRedirectURI"))).get?
      "jansRedirectURI" = some (.ofStrings ["https://a", "https://b"]) := by
    decide +kernel
  have held := stays _ member
  rw [grown] at held
  exact absurd held (by decide)

end Ldif

end RelDirectory
