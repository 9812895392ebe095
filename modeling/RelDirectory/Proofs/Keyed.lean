import Mathlib.Data.List.Induction
import RelDirectory.Keyed

/-!
# Maps by their lookups

A map in order of key is known by its lookups (`ext_get?`), its values are what lookups give
(`mem_values_iff`), and putting a value in place of another one leaves everything before and after
it as it is (`toList_insert_of_split`).
-/
set_option autoImplicit false
namespace RelDirectory.Keyed

variable {α : Type}

theorem mem_of_find? {key : String} {value : α} {entries : List (String × α)}
    (found : find? key entries = some value) : (key, value) ∈ entries := by
  induction entries with
  | nil => simp [find?] at found
  | cons e rest ih =>
    obtain ⟨k, v⟩ := e
    simp only [find?] at found
    split at found
    · rename_i same
      cases found
      rw [same]
      exact List.mem_cons_self
    · exact List.mem_cons_of_mem _ (ih found)

theorem find?_of_mem {key : String} {value : α} {entries : List (String × α)}
    (ascending : entries.Pairwise fun a b => a.1 < b.1) (member : (key, value) ∈ entries) :
    find? key entries = some value := by
  induction entries with
  | nil => cases member
  | cons e rest ih =>
    obtain ⟨k, v⟩ := e
    have parts := List.pairwise_cons.1 ascending
    rcases List.mem_cons.1 member with same | member
    · cases same
      simp [find?]
    · have before : k < key := parts.1 (key, value) member
      have other : k ≠ key := fun same => String.lt_irrefl key (same ▸ before)
      simp only [find?, if_neg other]
      exact ih parts.2 member

theorem mem_toList_iff {m : Keyed α} {key : String} {value : α} :
    (key, value) ∈ m.toList ↔ m.get? key = some value :=
  ⟨find?_of_mem m.ascending, mem_of_find?⟩

theorem mem_values_iff {m : Keyed α} {value : α} :
    value ∈ m.values ↔ ∃ key, m.get? key = some value := by
  constructor
  · intro member
    obtain ⟨⟨key, v⟩, entry, rfl⟩ := List.mem_map.1 member
    exact ⟨key, mem_toList_iff.1 entry⟩
  · rintro ⟨key, found⟩
    exact List.mem_map.2 ⟨(key, value), mem_toList_iff.2 found, rfl⟩

theorem mem_keys_of_get? {m : Keyed α} {key : String} {value : α}
    (found : m.get? key = some value) : key ∈ m.keys :=
  List.mem_map.2 ⟨(key, value), mem_toList_iff.2 found, rfl⟩

theorem toList_pairwise_eq {xs ys : List (String × α)}
    (ascendingX : xs.Pairwise fun a b => a.1 < b.1)
    (ascendingY : ys.Pairwise fun a b => a.1 < b.1)
    (same : ∀ entry, entry ∈ xs ↔ entry ∈ ys) : xs = ys := by
  have irreflexive : ∀ a : String × α, ¬ a.1 < a.1 := fun a => String.lt_irrefl a.1
  have distinct : ∀ {zs : List (String × α)}, (zs.Pairwise fun a b => a.1 < b.1) → zs.Nodup := by
    intro zs ascending
    refine ascending.imp ?_
    intro a b before equal
    exact irreflexive b (equal ▸ before)
  have permuted : xs.Perm ys :=
    (List.perm_ext_iff_of_nodup (distinct ascendingX) (distinct ascendingY)).2 same
  refine permuted.eq_of_pairwise ?_ ascendingX ascendingY
  intro a b _ _ before after
  exact absurd (String.lt_trans before after) (irreflexive a)

theorem ext_get? {m n : Keyed α} (same : ∀ key, m.get? key = n.get? key) : m = n := by
  refine ext_toList (toList_pairwise_eq m.ascending n.ascending ?_)
  rintro ⟨key, value⟩
  rw [mem_toList_iff, mem_toList_iff, same key]

theorem place_of_split {key : String} {held : α} {entries before behind : List (String × α)}
    (ascending : entries.Pairwise fun a b => a.1 < b.1)
    (split : entries = before ++ (key, held) :: behind) (value : α) :
    place key value entries = before ++ (key, value) :: behind := by
  subst split
  induction before with
  | nil => simp [place]
  | cons e rest ih =>
    obtain ⟨k, v⟩ := e
    have parts := List.pairwise_cons.1 ascending
    have below : k < key := parts.1 (key, held) (by simp)
    have notAbove : ¬ key < k := fun above => String.lt_irrefl k (String.lt_trans below above)
    simp only [List.cons_append, place, if_neg notAbove, if_pos below, ih parts.2]

theorem toList_insert_of_split {m : Keyed α} {key : String} {held : α}
    (found : m.get? key = some held) : ∃ before behind,
      m.toList = before ++ (key, held) :: behind ∧
      ∀ value, (m.insert key value).toList = before ++ (key, value) :: behind := by
  obtain ⟨before, behind, split⟩ := List.append_of_mem (mem_toList_iff.2 found)
  exact ⟨before, behind, split, place_of_split m.ascending split⟩

theorem values_insert_of_split {m : Keyed α} {key : String} {held : α}
    (found : m.get? key = some held) : ∃ before behind,
      m.values = before ++ held :: behind ∧
      ∀ value, (m.insert key value).values = before ++ value :: behind := by
  obtain ⟨before, behind, split, inserted⟩ := toList_insert_of_split found
  refine ⟨before.map (·.2), behind.map (·.2), ?_, ?_⟩
  · simp [values, split]
  · intro value
    simp [values, inserted value]

/-- Of several values for one key the last one is found. -/
theorem get?_ofList (entries : List (String × α)) (key : String) :
    (ofList entries).get? key = (entries.filter (·.1 == key)).getLast?.map (·.2) := by
  -- from the end, where the last insertion stands
  induction entries using List.reverseRecOn with
  | nil => rfl
  | append_singleton before e ih =>
    have placed : ofList (before ++ [e]) = (ofList before).insert e.1 e.2 := by
      rw [ofList, List.foldl_append]
      rfl
    rw [placed, get?_insert, ih, List.filter_append]
    by_cases same : key = e.1
    · simp [same]
    · simp [same, Ne.symm same]

theorem get?_ofList_mem {entries : List (String × α)} {key : String} {value : α}
    (found : (ofList entries).get? key = some value) : (key, value) ∈ entries := by
  rw [get?_ofList] at found
  obtain ⟨⟨k, v⟩, last, rfl⟩ := Option.map_eq_some_iff.1 found
  obtain ⟨member, same⟩ := List.mem_filter.1 (List.mem_of_getLast? last)
  rwa [← eq_of_beq same]

theorem ofList_toList (m : Keyed α) : ofList m.toList = m := by
  refine ext_get? fun key => ?_
  cases found : (ofList m.toList).get? key with
  | some value => exact (mem_toList_iff.1 (get?_ofList_mem found)).symm
  | none =>
    rw [get?_ofList, Option.map_eq_none_iff, List.getLast?_eq_none_iff] at found
    cases held : m.get? key with
    | none => rfl
    | some value =>
      have member : (key, value) ∈ m.toList.filter (·.1 == key) :=
        List.mem_filter.2 ⟨mem_toList_iff.2 held, beq_self_eq_true key⟩
      rw [found] at member
      cases member

/-- Of a key in both maps the value in the second one stays. -/
theorem get?_ofList_append (m n : Keyed α) (key : String) :
    (ofList (m.toList ++ n.toList)).get? key = (n.get? key).or (m.get? key) := by
  rw [get?_ofList, List.filter_append, List.getLast?_append, Option.map_or, ← get?_ofList,
    ← get?_ofList, ofList_toList, ofList_toList]

end RelDirectory.Keyed
