import RelDirectory.Proofs.Endings

/-!
# Names found exactly

The tests on a `dn` are tried one after the other, each on all tables, so a row with just the name
that is asked for is found however many rows end with it, in whatever tables these stand.  Of
several such rows it is the `Foremost` one, the tables taken in order of name and the rows of a
table in order of insertion (`find?_foremost`).
-/
set_option autoImplicit false
namespace RelDirectory.Directory

open Step
open Memory (naming)

/-- The row is the first with just this name: it stands in a table that can name entries, and no
row before it in this table and none in such a table of lesser name has the name. -/
structure Foremost (m : Memory) (tables : Keyed Table) (dn : String) (row : Row) : Prop where
  named : row.shownDn? = some dn
  first : ∃ name t before behind, tables.get? name = some t ∧ t.hasColumn dnColumn = true ∧
    m.rows t.name = before ++ row :: behind ∧
    (∀ other ∈ before, other.shownDn? ≠ some dn) ∧
    ∀ lesser u, lesser < name → tables.get? lesser = some u → u.hasColumn dnColumn = true →
      ∀ other ∈ m.rows u.name, other.shownDn? ≠ some dn

variable {m : Memory} {tables : Keyed Table} {dn : String} {row : Row}

theorem naming_eq_map (tables : Keyed Table) : naming tables =
    (tables.toList.filter fun e => e.2.hasColumn dnColumn).map (·.2) := by
  rw [naming, Keyed.values, List.filter_map]
  rfl

/-- Tables that can name entries are tried in order of name. -/
theorem naming_split {t : Table} {before behind : List Table}
    (split : naming tables = before ++ t :: behind) : ∃ name, tables.get? name = some t ∧
      ∀ lesser u, lesser < name → tables.get? lesser = some u → u.hasColumn dnColumn = true →
        u ∈ before := by
  rw [naming_eq_map, List.map_eq_append_iff] at split
  obtain ⟨ahead, rest, entries, rfl, cut⟩ := split
  obtain ⟨⟨name, t'⟩, later, rfl, rfl, _⟩ := List.map_eq_cons_iff.1 cut
  have ascending : (ahead ++ (name, t') :: later).Pairwise fun a b => a.1 < b.1 :=
    entries ▸ tables.ascending.sublist List.filter_sublist
  have behindIt := (List.pairwise_cons.1 (List.pairwise_append.1 ascending).2.1).1
  have member : (name, t') ∈ tables.toList :=
    (List.mem_filter.1 (entries ▸ List.mem_append_right ahead List.mem_cons_self)).1
  refine ⟨name, Keyed.mem_toList_iff.1 member, ?_⟩
  intro lesser u less known has
  have kept : (lesser, u) ∈ ahead ++ (name, t') :: later := by
    rw [← entries, List.mem_filter]
    exact ⟨Keyed.mem_toList_iff.2 known, has⟩
  rcases List.mem_append.1 kept with inside | inside
  · exact List.mem_map.2 ⟨(lesser, u), inside, rfl⟩
  · -- a table from this one on has no lesser name
    rcases List.mem_cons.1 inside with same | inside
    · cases same
      exact absurd less (String.lt_irrefl name)
    · exact absurd (String.lt_trans less (behindIt _ inside)) (String.lt_irrefl lesser)

/-- The row that the exact test finds is the foremost one. -/
theorem foremost_of_firstRow (found : m.firstRow (exactly dn) (naming tables) = some row) :
    Foremost m tables dn row := by
  obtain ⟨earlier, t, later, split, first, nothing⟩ := List.findSome?_eq_some_iff.1 found
  obtain ⟨passed, before, behind, rows, failed⟩ := List.find?_eq_some_iff_append.1 first
  obtain ⟨name, known, lesser⟩ := naming_split split
  have member : t ∈ naming tables := split ▸ List.mem_append_right earlier List.mem_cons_self
  have has : t.hasColumn dnColumn = true := hasColumn_of_mem_naming member
  refine ⟨passes_exactly_iff.1 passed, name, t, before, behind, known, has, rows, ?_, ?_⟩
  · intro other member same
    have missed := failed other member
    rw [passes_exactly_iff.2 same] at missed
    cases missed
  · intro key u less held naming other member same
    have missed := List.find?_eq_none.1 (nothing u (lesser key u less held naming)) other member
    exact missed (passes_exactly_iff.2 same)

theorem firstRow_isSome_of_mem (member : row ∈ candidates m tables)
    (same : row.shownDn? = some dn) : (m.firstRow (exactly dn) (naming tables)).isSome := by
  rw [firstRow_eq_find?, List.find?_isSome]
  exact ⟨row, member, passes_exactly_iff.2 same⟩

/-- If some row has just the name that is asked for, the foremost of these rows is found. -/
theorem find?_foremost (d : Directory Memory) (tables : Keyed Table) (dn : String)
    (named : Text.allBlank dn.toList = false)
    (asked : (knownTables d).result = .ok tables)
    (held : ∃ row ∈ candidates d.store tables, row.shownDn? = some dn) :
    ∃ row, (find? dn d).result = .ok (some row) ∧ Foremost d.store tables dn row := by
  obtain ⟨other, member, same⟩ := held
  obtain ⟨row, found⟩ := Option.isSome_iff_exists.1 (firstRow_isSome_of_mem member same)
  rcases knownTables_cases d with ⟨e, failed⟩ | ⟨d', tables', given, store, known⟩
  · rw [result_of_effect failed] at asked
    cases asked
  · rw [result_of_effect given, Except.ok.injEq] at asked
    subst asked
    have ran := result_of_effect (effect_find?_asked given known named)
    have entry : d.store.entryRow? tables' dn = some row := by
      simp only [Memory.entryRow?, named, Bool.false_eq_true, if_false, found, Option.some_or]
    rw [store, entry] at ran
    exact ⟨row, ran, foremost_of_firstRow found⟩

/-- A table of groups, which comes before that of the clients. -/
def groups : Table := ⟨"groups", [⟨"dn", "VARCHAR"⟩]⟩

/-- A group whose `dn` ends with the wild name `o=%`, and two clients with just this name. -/
def wildNames : Directory Memory :=
  let group := (Row.empty groups.name).set dnColumn (.text "ou=a,o=%")
  let store := ((Memory.new .mysql).addTable groups).addTable Memory.clients
  let rows := [group, Memory.client "o=%" "one" [], Memory.client "o=%" "two" []]
  new (rows.foldl Memory.addRow store) ⟨[], .empty, .empty, .empty⟩

theorem find?_foremost_wildNames : Text.allBlank "o=%".toList = false ∧
    (knownTables wildNames).result = .ok (keyed [groups, Memory.clients]) ∧
    (∃ row ∈ candidates wildNames.store (keyed [groups, Memory.clients]),
      row.shownDn? = some "o=%") ∧
    ∃ row, (find? "o=%" wildNames).result = .ok (some row) ∧
      Foremost wildNames.store (keyed [groups, Memory.clients]) "o=%" row := by
  have named : Text.allBlank "o=%".toList = false := by decide
  have asked : (knownTables wildNames).result = .ok (keyed [groups, Memory.clients]) := by
    decide +kernel
  have held : ∃ row ∈ candidates wildNames.store (keyed [groups, Memory.clients]),
      row.shownDn? = some "o=%" := by decide +kernel
  exact ⟨named, asked, held, find?_foremost wildNames _ "o=%" named asked held⟩

end RelDirectory.Directory
