import Mathlib.Data.List.Basic
import RelDirectory.Proofs.Memory

/-!
# Names that are each had once

An insertion looks for the `dn` of its row in the whole store, so it keeps the names of the rows
distinct (`distinctDns_insert`).  An update does not look: it keeps them distinct exactly if it
does not give a row the `dn` of another one (`distinctDns_update_iff`).
-/
set_option autoImplicit false
namespace RelDirectory.Memory

/-- The names of all rows that have a text as `dn`. -/
def dns (m : Memory) : List String := m.allRows.filterMap Row.dn?

/-- No two rows of any tables have the same text as `dn`. -/
def DistinctDns (m : Memory) : Prop := m.dns.Nodup

instance (m : Memory) : Decidable m.DistinctDns := inferInstanceAs (Decidable m.dns.Nodup)

/-- An update of the rows named `dn` of a table gives a row the name of another one. -/
def Takes (m : Memory) (name dn column : String) (value : Value) : Prop :=
  column = dnColumn ∧ (∃ row ∈ m.rows name, row.dn? = some dn) ∧
    ∃ new, value.text? = some new ∧ new ≠ dn ∧ m.hasDn new = true

variable {m m' : Memory}

theorem mem_dns_iff {dn : String} : dn ∈ m.dns ↔ m.hasDn dn = true := by
  simp [dns, hasDn]

/-- The rows before and behind those of a stored table, and what takes their place. -/
theorem allRows_setTable {name : String} {s : MemoryTable} (found : m.tables.get? name = some s) :
    ∃ before behind, m.allRows = before ++ s.rows ++ behind ∧
      ∀ t, (m.setTable name t).allRows = before ++ t.rows ++ behind := by
  obtain ⟨front, back, split, replaced⟩ := Keyed.values_insert_of_split found
  refine ⟨front.flatMap (·.rows), back.flatMap (·.rows), ?_, ?_⟩
  · simp [allRows, split]
  · intro t
    simp [allRows, setTable, replaced t]

/-! ## Insertions -/

theorem distinctDns_insert {t : Table} {row : Row} (distinct : m.DistinctDns)
    (run : m.insert t row = .ok m') : m'.DistinctDns := by
  obtain ⟨_, fresh, ⟨s, found⟩, rfl⟩ := insert_ok run
  obtain ⟨before, behind, rows, replaced⟩ := allRows_setTable found
  have held : m.table t.name = s := by simp [table, found]
  have after : (m.addRow { row with table := t.name }).allRows =
      before ++ (s.rows ++ [{ row with table := t.name }]) ++ behind := by
    simp only [addRow, replaced, held]
  -- in the list of all rows the new one stands at the end of its table, not at the end
  have moved : (m.addRow { row with table := t.name }).allRows.Perm
      ({ row with table := t.name } :: m.allRows) := by
    rw [after, rows]
    simp only [List.append_assoc, List.singleton_append]
    have inner : (s.rows ++ { row with table := t.name } :: behind).Perm
        ({ row with table := t.name } :: (s.rows ++ behind)) := List.perm_middle
    exact (List.Perm.append_left before inner).trans List.perm_middle
  have names := moved.filterMap Row.dn?
  rw [DistinctDns, dns, names.nodup_iff, List.filterMap_cons]
  cases named : ({ row with table := t.name } : Row).dn? with
  | none => exact distinct
  | some dn =>
    refine List.nodup_cons.2 ⟨?_, distinct⟩
    intro member
    have taken := mem_dns_iff.1 member
    rw [fresh dn named] at taken
    cases taken

/-! ## Updates -/

/-- The name of a row after an update. -/
def renamed (dn column : String) (value : Value) (own : String) : Option String :=
  if column = dnColumn ∧ own = dn then value.text? else some own

theorem dn?_updated (dn column : String) (value : Value) (row : Row) :
    (setColumn dn column value row).dn? = row.dn?.bind (renamed dn column value) := by
  by_cases aimed : column = dnColumn
  · subst aimed
    simp only [Row.dn?, get?_setColumn]
    cases own : (row.get? dnColumn).bind Value.text? with
    | none => simp [own]
    | some name =>
      by_cases same : name = dn
      · simp [same, renamed]
      · simp [same, own, renamed]
  · rw [dn?_setColumn aimed]
    cases row.dn? <;> simp [renamed, aimed]

theorem filterMap_updated (dn column : String) (value : Value) (rows : List Row) :
    (rows.map (setColumn dn column value)).filterMap Row.dn? =
      (rows.filterMap Row.dn?).filterMap (renamed dn column value) := by
  rw [List.filterMap_map, List.filterMap_filterMap]
  refine List.filterMap_congr ?_
  intro row _
  exact dn?_updated dn column value row

theorem filterMap_renamed_of_not_mem {dn column : String} {value : Value} {names : List String}
    (absent : column = dnColumn → dn ∉ names) :
    names.filterMap (renamed dn column value) = names := by
  have same : names.filterMap (renamed dn column value) = names.filterMap some := by
    refine List.filterMap_congr ?_
    intro own member
    rw [renamed, if_neg]
    rintro ⟨aimed, rfl⟩
    exact absent aimed member
  rw [same, List.filterMap_some]

/-- A name put in place of one of several distinct names is a name that was there, or all are
distinct again. -/
theorem nodup_renamed_iff {dn : String} {value : Value} {names : List String}
    (distinct : names.Nodup) (member : dn ∈ names) :
    (names.filterMap (renamed dn dnColumn value)).Nodup ↔
      ¬ ∃ new, value.text? = some new ∧ new ≠ dn ∧ new ∈ names := by
  obtain ⟨before, behind, rfl⟩ := List.append_of_mem member
  have moved : (before ++ dn :: behind).Perm (dn :: (before ++ behind)) := List.perm_middle
  obtain ⟨absent, others⟩ := List.nodup_cons.1 (moved.nodup_iff.1 distinct)
  have after : ((before ++ dn :: behind).filterMap (renamed dn dnColumn value)).Perm
      (value.text?.toList ++ (before ++ behind)) := by
    refine (moved.filterMap _).trans ?_
    have rest : (before ++ behind).filterMap (renamed dn dnColumn value) = before ++ behind :=
      filterMap_renamed_of_not_mem fun _ => absent
    rw [List.filterMap_cons, rest]
    simp only [renamed, and_self, if_true]
    cases value.text? <;> exact List.Perm.refl _
  rw [after.nodup_iff]
  cases text : value.text? with
  | none => simp [others]
  | some new =>
    simp only [Option.toList_some, List.singleton_append, List.nodup_cons, others, and_true,
      Option.some.injEq, exists_eq_left']
    rw [moved.mem_iff, List.mem_cons]
    constructor
    · rintro fresh ⟨different, same | held⟩
      · exact different same
      · exact fresh held
    · intro free held
      apply free
      refine ⟨?_, Or.inr held⟩
      rintro rfl
      exact absent held

theorem dns_update {t : Table} {dn column : String} {value : Value} {n : Nat}
    (run : m.update t dn column value = .ok (n, m')) : ∃ before here behind,
      m.dns = before ++ here ++ behind ∧ here = (m.rows t.name).filterMap Row.dn? ∧
      m'.dns = before ++ here.filterMap (renamed dn column value) ++ behind := by
  obtain ⟨_, ⟨s, found⟩, rfl⟩ := update_ok run
  obtain ⟨before, behind, rows, replaced⟩ := allRows_setTable found
  have own : m.rows t.name = s.rows := rows_of_get? found
  refine ⟨before.filterMap Row.dn?, s.rows.filterMap Row.dn?, behind.filterMap Row.dn?, ?_, ?_, ?_⟩
  · simp only [dns, rows, List.filterMap_append]
  · rw [own]
  · simp only [dns, written, replaced, own, List.filterMap_append, filterMap_updated]

/-- An update keeps the names of the rows distinct exactly if it takes no name. -/
theorem distinctDns_update_iff {t : Table} {dn column : String} {value : Value} {n : Nat}
    (distinct : m.DistinctDns) (run : m.update t dn column value = .ok (n, m')) :
    m'.DistinctDns ↔ ¬ m.Takes t.name dn column value := by
  obtain ⟨before, here, behind, split, rows, after⟩ := dns_update run
  have reached : dn ∈ here ↔ ∃ row ∈ m.rows t.name, row.dn? = some dn := by
    rw [rows, List.mem_filterMap]
  by_cases aimed : column = dnColumn ∧ dn ∈ here
  · obtain ⟨rfl, member⟩ := aimed
    have distinct' : (before ++ here ++ behind).Nodup := by rw [← split]; exact distinct
    have member' : dn ∈ before ++ here ++ behind :=
      List.mem_append_left _ (List.mem_append_right _ member)
    -- no other table has the name, so the update is one of all names
    have outside : dn ∉ before ∧ dn ∉ behind := by
      obtain ⟨front, _, apart⟩ := List.nodup_append.1 distinct'
      obtain ⟨_, _, apart'⟩ := List.nodup_append.1 front
      refine ⟨fun held => apart' dn held dn member rfl, fun held => ?_⟩
      exact apart dn (List.mem_append_right _ member) dn held rfl
    have whole : m'.dns = m.dns.filterMap (renamed dn dnColumn value) := by
      rw [after, split, List.filterMap_append, List.filterMap_append,
        filterMap_renamed_of_not_mem fun _ => outside.1,
        filterMap_renamed_of_not_mem fun _ => outside.2]
    rw [DistinctDns, whole, nodup_renamed_iff distinct (by rw [split]; exact member')]
    simp only [Takes, ← reached, member, true_and, mem_dns_iff]
  · have same : m'.dns = m.dns := by
      rw [after, split, filterMap_renamed_of_not_mem fun column held => aimed ⟨column, held⟩]
    have free : ¬ m.Takes t.name dn column value := by
      rintro ⟨column, held, _⟩
      exact aimed ⟨column, reached.2 held⟩
    rw [DistinctDns, same]
    exact ⟨fun _ => free, fun _ => distinct⟩

end RelDirectory.Memory
