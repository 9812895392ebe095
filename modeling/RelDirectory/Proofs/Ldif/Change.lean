import RelDirectory.Proofs.Ldif.Outcome

/-!
# Changing a column again

Adding values that a container already has changes nothing (`addItems_of_mem`), so a list of
changes that was made in a column can be made in it again without moving its final value
(`finalValue_again`).  A column that several rows with one `dn` share is seen through two of its
cells, that of their first row, which decides, and that of another one; `runCells_again` says the
same of both.
-/
set_option autoImplicit false
namespace RelDirectory.Ldif

/-! ## Items -/

theorem addItems_cons (items : List Json) (v : String) (values : List String) :
    addItems items (v :: values) =
      addItems (if items.contains (.string v) then items else items ++ [.string v]) values := rfl

theorem addItems_append (items : List Json) (values others : List String) :
    addItems items (values ++ others) = addItems (addItems items values) others :=
  List.foldl_append

theorem mem_addItems {item : Json} {items : List Json} {values : List String} :
    item ∈ addItems items values ↔ item ∈ items ∨ ∃ v ∈ values, item = .string v := by
  induction values generalizing items with
  | nil => simp [addItems]
  | cons v rest ih =>
    rw [addItems_cons, ih]
    by_cases held : items.contains (.string v) = true
    · rw [if_pos held]
      have member : Json.string v ∈ items := by simpa using held
      constructor
      · rintro (old | ⟨w, given, rfl⟩)
        · exact Or.inl old
        · exact Or.inr ⟨w, List.mem_cons_of_mem _ given, rfl⟩
      · rintro (old | ⟨w, given, rfl⟩)
        · exact Or.inl old
        · rcases List.mem_cons.1 given with rfl | given
          · exact Or.inl member
          · exact Or.inr ⟨w, given, rfl⟩
    · rw [if_neg held]
      simp [or_assoc]

theorem addItems_of_mem {items : List Json} {values : List String}
    (held : ∀ v ∈ values, Json.string v ∈ items) : addItems items values = items := by
  induction values with
  | nil => rfl
  | cons v rest ih =>
    have first : items.contains (.string v) = true := by
      simpa using held v List.mem_cons_self
    rw [addItems_cons, if_pos first]
    exact ih fun w given => held w (List.mem_cons_of_mem _ given)

theorem addItems_again (items : List Json) (values : List String) :
    addItems (addItems items values) values = addItems items values := by
  apply addItems_of_mem
  intro v given
  exact mem_addItems.2 (Or.inr ⟨v, given, rfl⟩)

/-! ## Values -/

/-- What a column holds after changes, if each of them looks at what the one before left. -/
def finalValue (changes : List Change) (held : Option Value) : Option Value :=
  changes.foldl (fun held change => some (change.value held)) held

theorem finalValue_cons (change : Change) (changes : List Change) (held : Option Value) :
    finalValue (change :: changes) held = finalValue changes (some (change.value held)) := rfl

theorem finalValue_append (changes others : List Change) (held : Option Value) :
    finalValue (changes ++ others) held = finalValue others (finalValue changes held) :=
  List.foldl_append

theorem finalValue_joins (additions : List (List String)) (held : Option Value) :
    finalValue (additions.map .join) held =
      if additions = [] then held
      else some (.container (addItems ((held.bind Value.items?).getD []) additions.flatten)) := by
  induction additions generalizing held with
  | nil => rfl
  | cons values rest ih =>
    rw [List.map_cons, finalValue_cons, ih, if_neg (List.cons_ne_nil values rest)]
    split
    · rename_i last
      simp [last, Change.value]
    · simp [Change.value, addItems_append]

/-- Changes are all additions, or one of them forgets what was there. -/
theorem joins_or_set (changes : List Change) :
    (∃ additions : List (List String), changes = additions.map .join) ∨
      ∃ before value behind, changes = before ++ .set value :: behind := by
  induction changes with
  | nil => exact Or.inl ⟨[], rfl⟩
  | cons change rest ih =>
    cases change with
    | set value => exact Or.inr ⟨[], value, rest, rfl⟩
    | join values =>
      rcases ih with ⟨additions, rfl⟩ | ⟨before, value, behind, rfl⟩
      · exact Or.inl ⟨values :: additions, rfl⟩
      · exact Or.inr ⟨.join values :: before, value, behind, rfl⟩

/-- The same changes once more end in the same value. -/
theorem finalValue_again (changes : List Change) (held : Option Value) :
    finalValue changes (finalValue changes held) = finalValue changes held := by
  rcases joins_or_set changes with ⟨additions, rfl⟩ | ⟨before, value, behind, rfl⟩
  · rw [finalValue_joins, finalValue_joins]
    by_cases none : additions = []
    · rw [if_pos none]
    · rw [if_neg none, if_neg none]
      simp [addItems_again]
  · -- whatever the start, the value that is set comes before the rest
    have forgets : ∀ held, finalValue (before ++ .set value :: behind) held =
        finalValue behind (some value) := by
      intro held
      rw [finalValue_append, finalValue_cons]
      rfl
    rw [forgets, forgets]

/-! ## Cells -/

/-- What a change does to the cell of the first of several rows and to that of another one: both
get the new value, unless the first one has it. -/
def Change.onCells (change : Change) (cells : Option Value × Option Value) :
    Option Value × Option Value :=
  if cells.1 = some (change.value cells.1) then cells
  else (some (change.value cells.1), some (change.value cells.1))

def runCells (changes : List Change) (cells : Option Value × Option Value) :
    Option Value × Option Value :=
  changes.foldl (fun cells change => change.onCells cells) cells

theorem runCells_cons (change : Change) (changes : List Change)
    (cells : Option Value × Option Value) :
    runCells (change :: changes) cells = runCells changes (change.onCells cells) := rfl

theorem runCells_append (changes others : List Change) (cells : Option Value × Option Value) :
    runCells (changes ++ others) cells = runCells others (runCells changes cells) :=
  List.foldl_append

theorem onCells_first (change : Change) (cells : Option Value × Option Value) :
    (change.onCells cells).1 = some (change.value cells.1) := by
  rw [Change.onCells]
  split
  · assumption
  · rfl

theorem runCells_first (changes : List Change) (cells : Option Value × Option Value) :
    (runCells changes cells).1 = finalValue changes cells.1 := by
  induction changes generalizing cells with
  | nil => rfl
  | cons change rest ih => rw [runCells_cons, ih, onCells_first, finalValue_cons]

theorem onCells_uniform (change : Change) {cells : Option Value × Option Value}
    (uniform : cells.1 = cells.2) : (change.onCells cells).1 = (change.onCells cells).2 := by
  rw [Change.onCells]
  split
  · exact uniform
  · rfl

theorem runCells_uniform (changes : List Change) {cells : Option Value × Option Value}
    (uniform : cells.1 = cells.2) : (runCells changes cells).1 = (runCells changes cells).2 := by
  induction changes generalizing cells with
  | nil => exact uniform
  | cons change rest ih => exact ih (onCells_uniform change uniform)

/-- Changes leave both cells alone, or make them the same. -/
theorem runCells_steady_or_uniform (changes : List Change) (cells : Option Value × Option Value) :
    runCells changes cells = cells ∨ (runCells changes cells).1 = (runCells changes cells).2 := by
  induction changes generalizing cells with
  | nil => exact Or.inl rfl
  | cons change rest ih =>
    rw [runCells_cons]
    by_cases steady : cells.1 = some (change.value cells.1)
    · rw [Change.onCells, if_pos steady]
      exact ih cells
    · rw [Change.onCells, if_neg steady]
      exact Or.inr (runCells_uniform rest rfl)

theorem runCells_again (changes : List Change) (cells : Option Value × Option Value) :
    runCells changes (runCells changes cells) = runCells changes cells := by
  rcases runCells_steady_or_uniform changes cells with steady | uniform
  · rw [steady, steady]
  · have first : (runCells changes (runCells changes cells)).1 = (runCells changes cells).1 := by
      rw [runCells_first, runCells_first, finalValue_again]
    have second := runCells_uniform changes uniform
    exact Prod.ext first (second.symm.trans (first.trans uniform))

end RelDirectory.Ldif
