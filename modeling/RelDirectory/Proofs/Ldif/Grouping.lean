import Mathlib.Data.List.Induction
import Mathlib.Data.List.Nodup
import RelDirectory.Proofs.Ldif.Values

/-!
# How pairs are grouped

A record that is made of pairs holds each name that they give once, in the order in which the names
are first met, and with it all the values of this name (`entry_ofPairs`).  Each pair adds one value
to what is held, so no value is lost (`groups_ofPairs`).
-/
set_option autoImplicit false
namespace RelDirectory.ChangeRecord

/-- The names that pairs give, each once. -/
def namesOf (pairs : List (String × String)) : List String := (pairs.map (·.1)).eraseDups

/-- The position of the first pair that gives a name. -/
def firstPush (pairs : List (String × String)) (name : String) : Nat := pairs.findIdx (·.1 == name)

/-- How many values a record holds, under all its names together. -/
def valueCount (r : ChangeRecord) : Nat := (r.entry.flatMap (·.2)).length

/-- The record holds what the pairs give, grouped by their names, and nothing else. -/
structure Groups (pairs : List (String × String)) (r : ChangeRecord) : Prop where
  distinct : (r.entry.map (·.1)).Nodup
  ordered : (r.entry.map (·.1)).Pairwise fun a b => firstPush pairs a < firstPush pairs b
  values : ∀ name, r.values? name =
    if name ∈ pairs.map (·.1) then some (valuesOf pairs name) else none
  filled : ∀ a ∈ r.entry, a.2 ≠ []
  total : r.valueCount = pairs.length

variable {pairs : List (String × String)} {name value : String}

theorem mem_namesOf_iff : name ∈ namesOf pairs ↔ ∃ p ∈ pairs, p.1 = name := by
  rw [namesOf, List.mem_eraseDups, List.mem_map]

theorem namesOf_concat (pairs : List (String × String)) (p : String × String) :
    namesOf (pairs ++ [p]) =
      if p.1 ∈ namesOf pairs then namesOf pairs else namesOf pairs ++ [p.1] := by
  rw [namesOf, List.map_append, List.eraseDups_append, ← namesOf]
  by_cases held : p.1 ∈ namesOf pairs
  · rw [if_pos held]
    rw [namesOf, List.mem_eraseDups] at held
    simp [List.removeAll, held]
  · rw [if_neg held]
    rw [namesOf, List.mem_eraseDups] at held
    simp [List.removeAll, held, List.eraseDups_cons]

theorem nodup_namesOf (pairs : List (String × String)) : (namesOf pairs).Nodup := by
  induction pairs using List.reverseRecOn with
  | nil => exact List.nodup_nil
  | append_singleton pairs p ih =>
    rw [namesOf_concat]
    split
    · exact ih
    · rename_i absent
      rw [← List.concat_eq_append]
      exact ih.concat absent

theorem firstPush_lt_length_iff : firstPush pairs name < pairs.length ↔ name ∈ namesOf pairs := by
  simp only [firstPush, List.findIdx_lt_length, mem_namesOf_iff, beq_iff_eq]

/-- One more pair does not change where a name was first met. -/
theorem firstPush_concat_of_mem (given : name ∈ namesOf pairs) (p : String × String) :
    firstPush (pairs ++ [p]) name = firstPush pairs name := by
  rw [firstPush, List.findIdx_append]
  exact if_pos (firstPush_lt_length_iff.2 given)

theorem firstPush_concat_of_not_mem {p : String × String} (absent : p.1 ∉ namesOf pairs) :
    firstPush (pairs ++ [p]) p.1 = pairs.length := by
  have nowhere : ¬ pairs.findIdx (·.1 == p.1) < pairs.length :=
    fun met => absent (firstPush_lt_length_iff.1 met)
  rw [firstPush, List.findIdx_append, if_neg nowhere]
  simp

theorem namesOf_ordered (pairs : List (String × String)) :
    (namesOf pairs).Pairwise fun a b => firstPush pairs a < firstPush pairs b := by
  -- from the end: a name that comes new with the last pair stands behind all the others
  induction pairs using List.reverseRecOn with
  | nil => exact List.Pairwise.nil
  | append_singleton pairs p ih =>
    have earlier : (namesOf pairs).Pairwise fun a b =>
        firstPush (pairs ++ [p]) a < firstPush (pairs ++ [p]) b := by
      refine ih.imp_of_mem ?_
      intro a b first second before
      rwa [firstPush_concat_of_mem first, firstPush_concat_of_mem second]
    rw [namesOf_concat]
    split
    · exact earlier
    · rename_i absent
      refine List.pairwise_append.2 ⟨earlier, List.pairwise_singleton _ _, ?_⟩
      intro a given b last
      rw [List.mem_singleton.1 last, firstPush_concat_of_mem given,
        firstPush_concat_of_not_mem absent]
      exact firstPush_lt_length_iff.2 given

theorem valuesOf_eq_nil_iff : valuesOf pairs name = [] ↔ name ∉ namesOf pairs := by
  simp only [valuesOf, List.map_eq_nil_iff, List.filter_eq_nil_iff, mem_namesOf_iff, beq_iff_eq,
    not_exists, not_and]

theorem valuesOf_of_not_mem (absent : name ∉ namesOf pairs) : valuesOf pairs name = [] :=
  valuesOf_eq_nil_iff.2 absent

theorem valuesOf_concat (pairs : List (String × String)) (p : String × String) (name : String) :
    valuesOf (pairs ++ [p]) name =
      if name = p.1 then valuesOf pairs name ++ [p.2] else valuesOf pairs name := by
  rw [valuesOf_append, valuesOf_cons]
  by_cases same : name = p.1
  · rw [if_pos same, if_pos same.symm]
    rfl
  · rw [if_neg same, if_neg (Ne.symm same)]
    exact List.append_nil _

theorem pushValue_of_not_mem {entry : List (String × List String)}
    (absent : ∀ a ∈ entry, a.1 ≠ name) :
    pushValue name value entry = entry ++ [(name, [value])] := by
  induction entry with
  | nil => rfl
  | cons a entry ih =>
    obtain ⟨here, there⟩ := List.forall_mem_cons.1 absent
    rw [pushValue, if_neg here, ih there, List.cons_append]

/-- A name that is there takes one more value; the other ones are left as they are. -/
theorem pushValue_map {names : List String} (distinct : names.Nodup) (held : name ∈ names)
    (values : String → List String) :
    pushValue name value (names.map fun n => (n, values n)) =
      names.map fun n => (n, if n = name then values n ++ [value] else values n) := by
  induction names with
  | nil => cases held
  | cons n names ih =>
    obtain ⟨once, distinct⟩ := List.nodup_cons.1 distinct
    rw [List.map_cons, List.map_cons, pushValue]
    by_cases here : n = name
    · rw [if_pos here, if_pos here]
      refine congrArg _ (List.map_congr_left ?_)
      intro m member
      have other : m ≠ name := by
        rintro rfl
        exact once (here ▸ member)
      rw [if_neg other]
    · rw [if_neg here, if_neg here, ih distinct (List.mem_of_ne_of_mem (Ne.symm here) held)]

theorem ofPairs_concat (dn : String) (pairs : List (String × String)) (p : String × String) :
    ofPairs dn (pairs ++ [p]) = (ofPairs dn pairs).push p.1 p.2 := by
  simp only [ofPairs, pushAll, List.foldl_append, List.foldl_cons, List.foldl_nil]

/-- Each name is held once, with all its values. -/
theorem entry_ofPairs (dn : String) (pairs : List (String × String)) :
    (ofPairs dn pairs).entry = (namesOf pairs).map fun name => (name, valuesOf pairs name) := by
  induction pairs using List.reverseRecOn with
  | nil => rfl
  | append_singleton pairs p ih =>
    rw [ofPairs_concat, push, ih, namesOf_concat]
    by_cases held : p.1 ∈ namesOf pairs
    · rw [if_pos held, pushValue_map (nodup_namesOf pairs) held]
      simp only [valuesOf_concat]
    · have apart : ∀ n ∈ namesOf pairs, n ≠ p.1 := by
        rintro n member rfl
        exact held member
      have kept : (namesOf pairs).map (fun n => (n, valuesOf (pairs ++ [p]) n)) =
          (namesOf pairs).map fun n => (n, valuesOf pairs n) := by
        refine List.map_congr_left ?_
        intro n member
        rw [valuesOf_concat, if_neg (apart n member)]
      rw [if_neg held, List.map_append, kept, pushValue_of_not_mem]
      · simp [valuesOf_concat, valuesOf_of_not_mem held]
      · intro a member
        obtain ⟨n, inside, rfl⟩ := List.mem_map.1 member
        exact apart n inside

/-! ## Nothing is lost -/

theorem valueCount_push (r : ChangeRecord) (name value : String) :
    (r.push name value).valueCount = r.valueCount + 1 := by
  obtain ⟨dn, entry⟩ := r
  simp only [valueCount, push]
  induction entry with
  | nil => rfl
  | cons a entry ih =>
    rw [pushValue]
    split
    · simp only [List.flatMap_cons, List.length_append, List.length_singleton]
      omega
    · simp only [List.flatMap_cons, List.length_append, ih, Nat.add_assoc]

theorem valueCount_pushAll (r : ChangeRecord) (pairs : List (String × String)) :
    (pushAll r pairs).valueCount = r.valueCount + pairs.length := by
  induction pairs generalizing r with
  | nil => rfl
  | cons p pairs ih =>
    have step : pushAll r (p :: pairs) = pushAll (r.push p.1 p.2) pairs := rfl
    rw [step, ih, valueCount_push, List.length_cons]
    omega

/-- Grouping loses nothing: the names are held once each, in the order in which they are first
pushed, each with exactly its own values in their order, and there are as many values as pairs. -/
theorem groups_ofPairs (dn : String) (pairs : List (String × String)) :
    Groups pairs (ofPairs dn pairs) := by
  have names : (ofPairs dn pairs).entry.map (·.1) = namesOf pairs := by
    rw [entry_ofPairs, List.map_map]
    exact List.map_id _
  constructor
  case distinct =>
    rw [names]
    exact nodup_namesOf pairs
  case ordered =>
    rw [names]
    exact namesOf_ordered pairs
  case values =>
    intro name
    have given : name ∈ namesOf pairs ↔ name ∈ pairs.map (·.1) := List.mem_eraseDups
    simp only [values?_ofPairs, valuesOf_eq_nil_iff, given, ite_not]
  case filled =>
    intro a held nothing
    rw [entry_ofPairs] at held
    obtain ⟨name, given, rfl⟩ := List.mem_map.1 held
    exact valuesOf_eq_nil_iff.1 nothing given
  case total =>
    have start : (new dn).valueCount = 0 := rfl
    rw [ofPairs, valueCount_pushAll, start, Nat.zero_add]

/-- A name that comes back keeps its place, and its values theirs. -/
example : (ofPairs "o=jans" [("mail", "a"), ("uid", "b"), ("mail", "c")]).entry =
    [("mail", ["a", "c"]), ("uid", ["b"])] := by decide

end RelDirectory.ChangeRecord
