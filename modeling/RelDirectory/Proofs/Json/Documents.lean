import RelDirectory.Proofs.Json.Reading

/-!
# Values that are written and read again

A value that was read from a text has a shape that documents have: objects in order of key, not
nested too deep (`Kept`, `kept_of_parse?`), and whole numbers of 64 bits (`whole_of_parse?`).  If
its fractional numbers are legible it is written and read again as the same value (`parse?_again`),
and two such values are written alike only if they are the same (`compact_injective`).
-/
set_option autoImplicit false
namespace RelDirectory.Json

open Read

/-! ## Values that documents have -/

namespace Document

theorem itemsWithin_ofItems {room : Nat} {items : List Json}
    (kept : ∀ item ∈ items, valueWithin room (ofJson item) = some item) :
    itemsWithin room (ofItems items) = some items := by
  induction items with
  | nil => rfl
  | cons item items ih =>
    obtain ⟨first, rest⟩ := List.forall_mem_cons.1 kept
    simp only [ofItems, itemsWithin, first, ih rest, Option.bind_eq_bind, Option.bind_some]
    rfl

theorem fieldsWithin_ofFields {room : Nat} {fields : List (String × Json)}
    (kept : ∀ f ∈ fields, valueWithin room (ofJson f.2) = some f.2) :
    fieldsWithin room (ofFields fields) = some fields := by
  induction fields with
  | nil => rfl
  | cons f fields ih =>
    obtain ⟨first, rest⟩ := List.forall_mem_cons.1 kept
    simp only [ofFields, fieldsWithin, first, ih rest, Option.bind_eq_bind, Option.bind_some]
    rfl

theorem valueWithin_object {room : Nat} {m : Keyed Json}
    (kept : ∀ f ∈ m.toList, valueWithin room (ofJson f.2) = some f.2) :
    valueWithin (room + 1) (ofJson (.object m.toList)) = some (.object m.toList) := by
  rw [ofJson, valueWithin, fieldsWithin_ofFields kept, Option.map_some, Json.ofFields,
    Keyed.ofList_toList]

mutual

/-- The value of a document is the value of the document that it is. -/
theorem valueWithin_again : ∀ (room : Nat) (d : Document) (v : Json),
    valueWithin room d = some v → valueWithin room (ofJson v) = some v
  | _, .null, _, read => by cases read; rfl
  | _, .bool _, _, read => by cases read; rfl
  | _, .number _, _, read => by
    obtain ⟨n, _, rfl⟩ := Option.map_eq_some_iff.1 read
    rfl
  | _, .string _, _, read => by
    obtain ⟨s, _, rfl⟩ := Option.map_eq_some_iff.1 read
    rfl
  | 0, .array _, _, read => by cases read
  | 0, .object _, _, read => by cases read
  | room + 1, .array items, _, read => by
    obtain ⟨values, inner, rfl⟩ := Option.map_eq_some_iff.1 read
    rw [ofJson, valueWithin, itemsWithin_ofItems (itemsWithin_again room items values inner)]
    rfl
  | room + 1, .object fields, _, read => by
    obtain ⟨values, inner, rfl⟩ := Option.map_eq_some_iff.1 read
    refine valueWithin_object ?_
    rintro ⟨key, value⟩ member
    have given := Keyed.get?_ofList_mem (Keyed.mem_toList_iff.1 member)
    exact fieldsWithin_again room fields values inner _ given

theorem itemsWithin_again : ∀ (room : Nat) (items : List Document) (values : List Json),
    itemsWithin room items = some values →
      ∀ v ∈ values, valueWithin room (ofJson v) = some v
  | _, [], _, read => by cases read; nofun
  | room, item :: items, _, read => by
    obtain ⟨value, first, read⟩ := Option.bind_eq_some_iff.1 read
    obtain ⟨values, rest, read⟩ := Option.bind_eq_some_iff.1 read
    cases read
    exact List.forall_mem_cons.2 ⟨valueWithin_again room item value first,
      itemsWithin_again room items values rest⟩

theorem fieldsWithin_again : ∀ (room : Nat) (fields : List (Option String × Document))
    (values : List (String × Json)), fieldsWithin room fields = some values →
      ∀ f ∈ values, valueWithin room (ofJson f.2) = some f.2
  | _, [], _, read => by cases read; nofun
  | room, (key, item) :: fields, _, read => by
    obtain ⟨key, _, read⟩ := Option.bind_eq_some_iff.1 read
    obtain ⟨value, first, read⟩ := Option.bind_eq_some_iff.1 read
    obtain ⟨values, rest, read⟩ := Option.bind_eq_some_iff.1 read
    cases read
    exact List.forall_mem_cons.2 ⟨valueWithin_again room item value first,
      fieldsWithin_again room fields values rest⟩

end

/-! ## Whole numbers in documents -/

mutual

/-- Every whole number in the document is one of 64 bits. -/
def Ranged : Document → Prop
  | .number n => ∀ w, n = some (.int w) → Whole w
  | .array items => RangedItems items
  | .object fields => RangedFields fields
  | _ => True

def RangedItems : List Document → Prop
  | [] => True
  | item :: items => Ranged item ∧ RangedItems items

def RangedFields : List (Option String × Document) → Prop
  | [] => True
  | (_, item) :: fields => Ranged item ∧ RangedFields fields

end

theorem ranged_word {word : String} {d d' : Document} {cs rest : List Char} (ranged : Ranged d)
    (read : word? word d cs = some (d', rest)) : Ranged d' := by
  simp only [word?] at read
  split at read
  · cases read
    exact ranged
  · cases read

/-- What is read in some steps has no whole number beyond 64 bits. -/
structure RangedReads (fuel : Nat) : Prop where
  value : ∀ {cs d rest}, value? fuel cs = some (d, rest) → Ranged d
  items : ∀ {cs ds rest}, Read.items? fuel cs = some (ds, rest) → RangedItems ds
  fields : ∀ {cs fs rest}, fields? fuel cs = some (fs, rest) → RangedFields fs

section Steps

variable {fuel : Nat} {cs rest : List Char}

theorem ranged_value (reads : RangedReads fuel) {d : Document}
    (read : value? (fuel + 1) cs = some (d, rest)) : Ranged d := by
  rw [value?] at read
  split at read
  · exact ranged_word (d := .null) trivial read
  · exact ranged_word (d := .bool true) trivial read
  · exact ranged_word (d := .bool false) trivial read
  · obtain ⟨s, _, same⟩ := Option.map_eq_some_iff.1 read
    cases same
    trivial
  · split at read
    · cases read
      trivial
    · obtain ⟨⟨ds, back⟩, inner, same⟩ := Option.map_eq_some_iff.1 read
      cases same
      exact reads.items inner
  · split at read
    · cases read
      trivial
    · obtain ⟨⟨fs, back⟩, inner, same⟩ := Option.map_eq_some_iff.1 read
      cases same
      exact reads.fields inner
  · obtain ⟨⟨t, back⟩, _, same⟩ := Option.map_eq_some_iff.1 read
    cases same
    exact fun w value => whole_of_value value

theorem ranged_items (reads : RangedReads fuel) {ds : List Document}
    (read : Read.items? (fuel + 1) cs = some (ds, rest)) : RangedItems ds := by
  obtain ⟨⟨d, cs₁⟩, first, read⟩ := Option.bind_eq_some_iff.1 read
  dsimp only at read
  split at read
  · cases read
    exact ⟨reads.value first, trivial⟩
  · obtain ⟨⟨later, cs₂⟩, inner, read⟩ := Option.bind_eq_some_iff.1 read
    cases read
    exact ⟨reads.value first, reads.items inner⟩
  · cases read

theorem ranged_fields (reads : RangedReads fuel) {fs : List (Option String × Document)}
    (read : fields? (fuel + 1) cs = some (fs, rest)) : RangedFields fs := by
  rw [fields?] at read
  split at read
  · obtain ⟨⟨key, cs₁⟩, _, read⟩ := Option.bind_eq_some_iff.1 read
    dsimp only at read
    split at read
    · obtain ⟨⟨d, cs₂⟩, first, read⟩ := Option.bind_eq_some_iff.1 read
      dsimp only at read
      split at read
      · cases read
        exact ⟨reads.value first, trivial⟩
      · obtain ⟨⟨later, cs₃⟩, inner, read⟩ := Option.bind_eq_some_iff.1 read
        cases read
        exact ⟨reads.value first, reads.fields inner⟩
      · cases read
    · cases read
  · cases read

end Steps

/-- What is read has no whole number beyond 64 bits. -/
theorem rangedReads (fuel : Nat) : RangedReads fuel := by
  induction fuel with
  | zero => exact ⟨nofun, nofun, nofun⟩
  | succ fuel ih => exact ⟨ranged_value ih, ranged_items ih, ranged_fields ih⟩

mutual

theorem whole_of_valueWithin : ∀ (room : Nat) (d : Document) (v : Json), Ranged d →
    valueWithin room d = some v → ∀ n, .int n ∈ v.numbers → Whole n
  | _, .null, _, _, read => by cases read; nofun
  | _, .bool _, _, _, read => by cases read; nofun
  | _, .number _, _, ranged, read => by
    obtain ⟨n, given, rfl⟩ := Option.map_eq_some_iff.1 read
    intro w member
    rw [numbers, List.mem_singleton] at member
    exact ranged w (by rw [given, ← member])
  | _, .string _, _, _, read => by
    obtain ⟨s, _, rfl⟩ := Option.map_eq_some_iff.1 read
    nofun
  | 0, .array _, _, _, read => by cases read
  | 0, .object _, _, _, read => by cases read
  | room + 1, .array items, _, ranged, read => by
    obtain ⟨values, inner, rfl⟩ := Option.map_eq_some_iff.1 read
    intro n member
    rw [numbers, numbersOfItems_eq] at member
    obtain ⟨v, held, own⟩ := List.mem_flatMap.1 member
    exact whole_of_itemsWithin room items values ranged inner v held n own
  | room + 1, .object fields, _, ranged, read => by
    obtain ⟨values, inner, rfl⟩ := Option.map_eq_some_iff.1 read
    intro n member
    rw [Json.ofFields, numbers, numbersOfFields_eq] at member
    obtain ⟨⟨key, v⟩, held, own⟩ := List.mem_flatMap.1 member
    have given := Keyed.get?_ofList_mem (Keyed.mem_toList_iff.1 held)
    exact whole_of_fieldsWithin room fields values ranged inner _ given n own

theorem whole_of_itemsWithin : ∀ (room : Nat) (items : List Document) (values : List Json),
    RangedItems items → itemsWithin room items = some values →
      ∀ v ∈ values, ∀ n, .int n ∈ v.numbers → Whole n
  | _, [], _, _, read => by cases read; nofun
  | room, item :: items, _, ranged, read => by
    obtain ⟨value, first, read⟩ := Option.bind_eq_some_iff.1 read
    obtain ⟨values, rest, read⟩ := Option.bind_eq_some_iff.1 read
    cases read
    exact List.forall_mem_cons.2 ⟨whole_of_valueWithin room item value ranged.1 first,
      whole_of_itemsWithin room items values ranged.2 rest⟩

theorem whole_of_fieldsWithin : ∀ (room : Nat) (fields : List (Option String × Document))
    (values : List (String × Json)), RangedFields fields → fieldsWithin room fields = some values →
      ∀ f ∈ values, ∀ n, .int n ∈ f.2.numbers → Whole n
  | _, [], _, _, read => by cases read; nofun
  | room, (key, item) :: fields, _, ranged, read => by
    obtain ⟨key, _, read⟩ := Option.bind_eq_some_iff.1 read
    obtain ⟨value, first, read⟩ := Option.bind_eq_some_iff.1 read
    obtain ⟨values, rest, read⟩ := Option.bind_eq_some_iff.1 read
    cases read
    exact List.forall_mem_cons.2 ⟨whole_of_valueWithin room item value ranged.1 first,
      whole_of_fieldsWithin room fields values ranged.2 rest⟩

end

end Document

/-! ## Texts that are read again -/

variable {text : String} {v w : Json}

/-- A value with the shape that documents give: objects in order of key, and not nested too
deep. -/
def Kept (v : Json) : Prop := (Document.ofJson v).toJson? = some v

theorem kept_of_parse? (read : parse? text = some v) : Kept v := by
  obtain ⟨d, _, value⟩ := Option.bind_eq_some_iff.1 read
  exact Document.valueWithin_again _ d v value

theorem whole_of_parse? (read : parse? text = some v) {n : Int} (member : .int n ∈ v.numbers) :
    Whole n := by
  obtain ⟨d, parsed, value⟩ := Option.bind_eq_some_iff.1 read
  rw [Document.parse?] at parsed
  split at parsed
  · rename_i given
    split at parsed
    · cases parsed
      exact Document.whole_of_valueWithin _ d v ((Document.rangedReads _).value given) value n
        member
    · cases parsed
  · cases parsed

/-- The whole numbers of a value that was read are legible. -/
theorem legible_of_parse? (read : parse? text = some v)
    (floats : ∀ x, .float x ∈ v.numbers → Legible (.float x)) : ∀ n ∈ v.numbers, Legible n := by
  intro n member
  cases n with
  | int w => exact legible_int (whole_of_parse? read member)
  | float x => exact floats x member

/-- A value that documents have is read as it was written. -/
theorem parse?_written (kept : Kept v) (legible : ∀ n ∈ v.numbers, Legible n) :
    parse? (compact v) = some v := by
  rw [parse?, parse?_compact legible]
  exact kept

/-- What was read from a text is written and read again as it is. -/
theorem parse?_again (read : parse? text = some v)
    (floats : ∀ x, .float x ∈ v.numbers → Legible (.float x)) : parse? (compact v) = some v :=
  parse?_written (kept_of_parse? read) (legible_of_parse? read floats)

/-- Values that are written alike are the same. -/
theorem compact_injective (kept : Kept v) (legible : ∀ n ∈ v.numbers, Legible n) (kept' : Kept w)
    (legible' : ∀ n ∈ w.numbers, Legible n) (same : compact v = compact w) : v = w := by
  have read := parse?_written kept legible
  rw [same, parse?_written kept' legible'] at read
  exact (Option.some.inj read).symm

/-- An object has its members in order of key. -/
def Ordered (v : Json) : Prop := ∀ fields, v = .object fields → ∃ m : Keyed Json, fields = m.toList

/-- The members of an object that documents have. -/
def KeptFields (m : Keyed Json) : Prop :=
  ∀ f ∈ m.toList, Document.valueWithin (Document.greatestDepth - 1) (Document.ofJson f.2) = some f.2

theorem kept_object {m : Keyed Json} (kept : KeptFields m) : Kept (.object m.toList) :=
  Document.valueWithin_object kept

theorem keptFields_of_parse? {fields : List (String × Json)}
    (read : parse? text = some (.object fields)) :
    ∃ m : Keyed Json, fields = m.toList ∧ KeptFields m := by
  obtain ⟨d, _, value⟩ := Option.bind_eq_some_iff.1 read
  cases d with
  | object members =>
    obtain ⟨values, inner, same⟩ := Option.map_eq_some_iff.1 value
    refine ⟨Keyed.ofList values, (Json.object.inj same).symm, ?_⟩
    intro f member
    have given := Keyed.get?_ofList_mem (Keyed.mem_toList_iff.1 member)
    exact Document.fieldsWithin_again _ members values inner _ given
  | array items =>
    obtain ⟨values, _, same⟩ := Option.map_eq_some_iff.1 value
    cases same
  | number n =>
    obtain ⟨values, _, same⟩ := Option.map_eq_some_iff.1 value
    cases same
  | string s =>
    obtain ⟨values, _, same⟩ := Option.map_eq_some_iff.1 value
    cases same
  | null => cases value
  | bool b => cases value

end RelDirectory.Json
