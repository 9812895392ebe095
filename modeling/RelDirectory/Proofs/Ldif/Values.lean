import RelDirectory.Ldif.Record

/-!
# The values of a record

A record is made of a name and of pairs that are pushed one after the other.  Under each
attribute it holds the values of the pairs with just this attribute, in their order
(`values?_ofPairs`), and the first of them decide what the record asks for.
-/
set_option autoImplicit false
namespace RelDirectory.ChangeRecord

/-- The values that pairs give an attribute. -/
def valuesOf (pairs : List (String × String)) (name : String) : List String :=
  (pairs.filter (·.1 == name)).map (·.2)

def pushAll (r : ChangeRecord) (pairs : List (String × String)) : ChangeRecord :=
  pairs.foldl (fun r p => r.push p.1 p.2) r

/-- The record that pairs make, pushed in order. -/
def ofPairs (dn : String) (pairs : List (String × String)) : ChangeRecord := pushAll (new dn) pairs

theorem valuesOf_cons (name value : String) (pairs : List (String × String)) (other : String) :
    valuesOf ((name, value) :: pairs) other =
      if name = other then value :: valuesOf pairs other else valuesOf pairs other := by
  by_cases same : name = other
  · simp [valuesOf, same]
  · simp [valuesOf, same]

theorem valuesOf_append (pairs more : List (String × String)) (name : String) :
    valuesOf (pairs ++ more) name = valuesOf pairs name ++ valuesOf more name := by
  simp [valuesOf]

theorem values?_push (r : ChangeRecord) (name value other : String) :
    (r.push name value).values? other =
      if name = other then some ((r.values? other).getD [] ++ [value]) else r.values? other := by
  obtain ⟨dn, entry⟩ := r
  simp only [push, values?]
  induction entry with
  | nil =>
    by_cases same : name = other
    · simp [pushValue, same]
    · simp [pushValue, same]
  | cons held rest ih =>
    obtain ⟨n, values⟩ := held
    by_cases here : n = name
    · subst here
      by_cases same : n = other
      · simp [pushValue, same]
      · simp [pushValue, same]
    · by_cases asked : n = other
      · subst asked
        simp [pushValue, here, Ne.symm here]
      · simpa [pushValue, here, asked] using ih

theorem values?_pushAll (r : ChangeRecord) (pairs : List (String × String)) (name : String) :
    (pushAll r pairs).values? name =
      if valuesOf pairs name = [] then r.values? name
      else some ((r.values? name).getD [] ++ valuesOf pairs name) := by
  induction pairs generalizing r with
  | nil => rfl
  | cons pair rest ih =>
    obtain ⟨n, value⟩ := pair
    have step : pushAll r ((n, value) :: rest) = pushAll (r.push n value) rest := rfl
    rw [step, ih, values?_push, valuesOf_cons]
    by_cases same : n = name
    · simp only [if_pos same, Option.getD_some, List.append_assoc, List.singleton_append]
      by_cases last : valuesOf rest name = []
      · simp [last]
      · simp [last]
    · simp only [if_neg same]

theorem dn_pushAll (r : ChangeRecord) (pairs : List (String × String)) :
    (pushAll r pairs).dn = r.dn := by
  induction pairs generalizing r with
  | nil => rfl
  | cons pair rest ih => exact (ih (r.push pair.1 pair.2)).trans rfl

theorem dn_ofPairs (dn : String) (pairs : List (String × String)) : (ofPairs dn pairs).dn = dn :=
  dn_pushAll (new dn) pairs

theorem values?_ofPairs (dn : String) (pairs : List (String × String)) (name : String) :
    (ofPairs dn pairs).values? name =
      if valuesOf pairs name = [] then none else some (valuesOf pairs name) := by
  have nothing : (new dn).values? name = none := rfl
  rw [ofPairs, values?_pushAll, nothing]
  rfl

theorem first?_ofPairs (dn : String) (pairs : List (String × String)) (name : String) :
    (ofPairs dn pairs).first? name = (valuesOf pairs name).head? := by
  rw [first?, values?_ofPairs]
  split
  · rename_i none
    rw [none]
    rfl
  · rfl

/-- What a record asks for that begins with the change type `modify`. -/
theorem operation_modify {word : String} (modify : Text.lower word = "modify") (dn : String)
    (pairs : List (String × String)) :
    (ofPairs dn ((changeType, word) :: pairs)).operation =
      match (valuesOf pairs "add").head?, (valuesOf pairs "replace").head? with
      | some name, _ => .add name
      | none, some name => .replace name
      | none, none => .unsupported word := by
  have notAdd : changeType ≠ "add" := by decide
  have notReplace : changeType ≠ "replace" := by decide
  have other : ¬ "modify" = "add" := by decide
  cases adds : (valuesOf pairs "add").head? with
  | some name =>
    simp only [operation, first?_ofPairs, valuesOf_cons, if_true, if_neg notAdd, if_neg notReplace,
      List.head?_cons, modify, if_neg other, adds]
  | none =>
    cases replaces : (valuesOf pairs "replace").head? <;>
      simp only [operation, first?_ofPairs, valuesOf_cons, if_true, if_neg notAdd,
        if_neg notReplace, List.head?_cons, modify, if_neg other, adds, replaces]

end RelDirectory.ChangeRecord
