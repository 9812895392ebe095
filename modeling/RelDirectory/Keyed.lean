/-!
# Finite maps in order of key

A `Keyed α` holds at most one value for each name, in order of the name's code points, which is
also the order of its UTF-8 bytes.  `get?_insert` says what an insertion changes.
-/
set_option autoImplicit false
namespace RelDirectory

/-- Values by name, the names strictly ascending. -/
structure Keyed (α : Type) where
  toList : List (String × α)
  ascending : toList.Pairwise fun a b => a.1 < b.1

namespace Keyed

variable {α β : Type}

def place (key : String) (value : α) : List (String × α) → List (String × α)
  | [] => [(key, value)]
  | (k, v) :: rest =>
    if key < k then (key, value) :: (k, v) :: rest
    else if k < key then (k, v) :: place key value rest
    else (key, value) :: rest

def find? (key : String) : List (String × α) → Option α
  | [] => none
  | (k, v) :: rest => if k = key then some v else find? key rest

theorem mem_place {key : String} {value : α} {entry : String × α} {entries : List (String × α)}
    (h : entry ∈ place key value entries) : entry = (key, value) ∨ entry ∈ entries := by
  induction entries with
  | nil => simpa [place] using h
  | cons e rest ih =>
    obtain ⟨k, v⟩ := e
    simp only [place] at h
    split at h
    · simpa using h
    · split at h
      · rcases List.mem_cons.1 h with h | h
        · exact Or.inr (by simp [h])
        · exact (ih h).imp id (List.mem_cons_of_mem _)
      · rcases List.mem_cons.1 h with h | h
        · exact Or.inl h
        · exact Or.inr (List.mem_cons_of_mem _ h)

theorem eq_of_not_lt {a b : String} (h : ¬ a < b) (h' : ¬ b < a) : a = b :=
  String.le_antisymm (String.not_lt.1 h') (String.not_lt.1 h)

theorem pairwise_place {key : String} {value : α} {entries : List (String × α)}
    (h : entries.Pairwise fun a b => a.1 < b.1) :
    (place key value entries).Pairwise fun a b => a.1 < b.1 := by
  induction entries with
  | nil => simp [place]
  | cons e rest ih =>
    obtain ⟨k, v⟩ := e
    have hrest := List.pairwise_cons.1 h
    simp only [place]
    split
    · rename_i hlt
      refine List.pairwise_cons.2 ⟨?_, h⟩
      intro entry hentry
      rcases List.mem_cons.1 hentry with rfl | hentry
      · exact hlt
      · exact String.lt_trans hlt (hrest.1 entry hentry)
    · split
      · rename_i hlt
        refine List.pairwise_cons.2 ⟨?_, ih hrest.2⟩
        intro entry hentry
        rcases mem_place hentry with rfl | hentry
        · exact hlt
        · exact hrest.1 entry hentry
      · rename_i hge hle
        have : k = key := eq_of_not_lt hle hge
        subst this
        exact List.pairwise_cons.2 ⟨hrest.1, hrest.2⟩

theorem find?_place (key other : String) (value : α) (entries : List (String × α)) :
    find? other (place key value entries) =
      if other = key then some value else find? other entries := by
  induction entries with
  | nil => simp [place, find?, eq_comm]
  | cons e rest ih =>
    obtain ⟨k, v⟩ := e
    simp only [place]
    split
    · simp only [find?, eq_comm]
    · split
      · rename_i hlt
        have hne : k ≠ key := fun h => String.lt_irrefl key (h ▸ hlt)
        simp only [find?, ih]
        by_cases hk : k = other
        · subst hk; simp [hne]
        · simp [hk]
      · rename_i hge hle
        have : k = key := eq_of_not_lt hle hge
        subst this
        by_cases hk : k = other
        · simp [find?, hk]
        · simp [find?, hk, Ne.symm hk]

def empty : Keyed α := ⟨[], List.Pairwise.nil⟩

instance : Inhabited (Keyed α) := ⟨empty⟩

/-- The map with `value` under `key`, in place of what was there. -/
def insert (m : Keyed α) (key : String) (value : α) : Keyed α :=
  ⟨place key value m.toList, pairwise_place m.ascending⟩

def get? (m : Keyed α) (key : String) : Option α := find? key m.toList

def contains (m : Keyed α) (key : String) : Bool := (m.get? key).isSome

def keys (m : Keyed α) : List String := m.toList.map (·.1)

def values (m : Keyed α) : List α := m.toList.map (·.2)

def size (m : Keyed α) : Nat := m.toList.length

/-- Of several values for one key the last one stays. -/
def ofList (entries : List (String × α)) : Keyed α :=
  entries.foldl (fun m e => m.insert e.1 e.2) empty

/-- Every value replaced by what `f` makes of it. -/
def map (f : α → β) (m : Keyed α) : Keyed β :=
  ⟨m.toList.map fun e => (e.1, f e.2), by
    rw [List.pairwise_map]
    exact m.ascending⟩

theorem ext_toList {m n : Keyed α} (h : m.toList = n.toList) : m = n := by
  cases m; cases n; cases h; rfl

instance [DecidableEq α] : DecidableEq (Keyed α) := fun m n =>
  if h : m.toList = n.toList then isTrue (ext_toList h)
  else isFalse fun e => h (by rw [e])

@[simp] theorem get?_empty (key : String) : (empty : Keyed α).get? key = none := rfl

@[simp] theorem get?_insert (m : Keyed α) (key other : String) (value : α) :
    (m.insert key value).get? other = if other = key then some value else m.get? other :=
  find?_place key other value m.toList

@[simp] theorem get?_map (f : α → β) (m : Keyed α) (key : String) :
    (m.map f).get? key = (m.get? key).map f := by
  obtain ⟨entries, h⟩ := m
  simp only [map, get?]
  clear h
  induction entries with
  | nil => rfl
  | cons e rest ih =>
    simp only [List.map_cons, find?]
    split
    · rfl
    · exact ih

end Keyed

end RelDirectory
