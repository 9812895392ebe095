import RelDirectory.Proofs.Json.Scalars
import RelDirectory.Proofs.Keyed

/-!
# Reading what was written

A value whose numbers are legible is read from its compact text as the document that it is
(`parse?_compact`).  Every value inside it is read in front of a comma or a closing mark, which stop
a number (`Reads`), so the induction is on the values inside values (`induct`).
-/
set_option autoImplicit false
namespace RelDirectory.Json

open Read

/-! ## Values inside values -/

mutual

/-- The numbers in a value. -/
def numbers : Json → List Number
  | .number n => [n]
  | .array items => numbersOfItems items
  | .object fields => numbersOfFields fields
  | _ => []

def numbersOfItems : List Json → List Number
  | [] => []
  | item :: items => numbers item ++ numbersOfItems items

def numbersOfFields : List (String × Json) → List Number
  | [] => []
  | (_, value) :: fields => numbers value ++ numbersOfFields fields

end

theorem numbersOfItems_eq (items : List Json) : numbersOfItems items = items.flatMap numbers := by
  induction items with
  | nil => rfl
  | cons item items ih => rw [numbersOfItems, ih, List.flatMap_cons]

theorem numbersOfFields_eq (fields : List (String × Json)) :
    numbersOfFields fields = fields.flatMap fun f => numbers f.2 := by
  induction fields with
  | nil => rfl
  | cons f fields ih => rw [numbersOfFields, ih, List.flatMap_cons]

/-- What holds of a value if it holds of the values right inside it holds of every value. -/
@[elab_as_elim]
theorem induct {P : Json → Prop} (v : Json) (null : P .null) (bool : ∀ b, P (.bool b))
    (number : ∀ n, P (.number n)) (string : ∀ s, P (.string s))
    (array : ∀ items, (∀ item ∈ items, P item) → P (.array items))
    (object : ∀ fields, (∀ f ∈ fields, P f.2) → P (.object fields)) : P v :=
  @Json.rec P (fun items => ∀ item ∈ items, P item) (fun fields => ∀ f ∈ fields, P f.2)
    (fun f => P f.2) null bool number string array object nofun
    (fun _ _ first rest => List.forall_mem_cons.2 ⟨first, rest⟩) nofun
    (fun _ _ first rest => List.forall_mem_cons.2 ⟨first, rest⟩) (fun _ _ held => held) v

/-! ## Reading a value -/

/-- The texts with commas between them. -/
def joined (texts : List String) : List Char := (",".intercalate texts).toList

theorem joined_singleton (text : String) : joined [text] = text.toList := by
  rw [joined, String.intercalate_singleton]

theorem joined_cons_cons (text next : String) (texts : List String) :
    joined (text :: next :: texts) = text.toList ++ ',' :: joined (next :: texts) := by
  rw [joined, joined, String.intercalate_cons_cons, String.toList_append, String.toList_append]
  simp

/-- In front of anything that is no part of a number the value is read as it was written. -/
def Reads (v : Json) : Prop :=
  ∀ fuel rest, Stops rest → 2 * (compact v).toList.length ≤ fuel →
    value? fuel ((compact v).toList ++ rest) = some (Document.ofJson v, rest)

theorem stops_mark {c : Char} (mark : c ∈ [',', ']', '\x7d']) (rest : List Char) :
    Stops (c :: rest) := by
  rintro _ ⟨⟩
  simp only [List.mem_cons, List.not_mem_nil, or_false] at mark
  rcases mark with rfl | rfl | rfl <;> decide

section Steps

variable {fuel : Nat} {cs more rest : List Char} {d : Document} {key : String}

theorem items?_last (read : value? fuel cs = some (d, ']' :: rest)) :
    Read.items? (fuel + 1) cs = some ([d], rest) := by
  simp only [Read.items?, read, Option.bind_eq_bind, Option.bind_some]
  rfl

theorem items?_more {ds : List Document} (read : value? fuel cs = some (d, ',' :: more))
    (later : Read.items? fuel more = some (ds, rest)) :
    Read.items? (fuel + 1) cs = some (d :: ds, rest) := by
  have mark : skipSpace (',' :: more) = ',' :: more := rfl
  simp only [Read.items?, read, Option.bind_eq_bind, Option.bind_some, mark, later]
  rfl

/-- The text of a member in front of its value. -/
def keyText (key : String) (cs : List Char) : List Char :=
  '"' :: (key.toList.flatMap escape ++ '"' :: ':' :: cs)

theorem length_keyText (key : String) (cs : List Char) :
    cs.length < (keyText key cs).length := by
  simp only [keyText, List.length_cons, List.length_append]
  omega

theorem fields?_key (key : String) (fuel : Nat) (cs : List Char) :
    fields? (fuel + 1) (keyText key cs) = (value? fuel cs).bind fun (d, cs) =>
      match skipSpace cs with
      | '\x7d' :: cs => some ([(some key, d)], cs)
      | ',' :: cs => (fields? fuel cs).bind fun (fields, cs) => some ((some key, d) :: fields, cs)
      | _ => none := by
  have opening : ∀ cs, skipSpace ('"' :: cs) = '"' :: cs := fun _ => rfl
  have colon : skipSpace (':' :: cs) = ':' :: cs := rfl
  rw [keyText, fields?]
  simp only [opening, string?_written, Option.bind_eq_bind, Option.bind_some, colon]
  rfl

theorem fields?_last (read : value? fuel cs = some (d, '\x7d' :: rest)) :
    fields? (fuel + 1) (keyText key cs) = some ([(some key, d)], rest) := by
  rw [fields?_key, read]
  rfl

theorem fields?_more {fields : List (Option String × Document)}
    (read : value? fuel cs = some (d, ',' :: more))
    (later : fields? fuel more = some (fields, rest)) :
    fields? (fuel + 1) (keyText key cs) = some ((some key, d) :: fields, rest) := by
  have mark : skipSpace (',' :: more) = ',' :: more := rfl
  rw [fields?_key, read, Option.bind_some]
  simp only [mark, later, Option.bind_some]

end Steps

theorem items?_joined {items : List Json} (reads : ∀ item ∈ items, Reads item)
    (nonempty : items ≠ []) (fuel : Nat)
    (enough : 2 * (joined (compactItems items)).length + 1 ≤ fuel) (rest : List Char) :
    Read.items? fuel (joined (compactItems items) ++ ']' :: rest) =
      some (Document.ofItems items, rest) := by
  induction items generalizing fuel with
  | nil => exact absurd rfl nonempty
  | cons item items ih =>
    have first : Reads item := reads item List.mem_cons_self
    obtain ⟨fuel, rfl⟩ := Nat.exists_eq_add_one_of_ne_zero (Nat.ne_of_gt (Nat.zero_lt_of_lt enough))
    cases items with
    | nil =>
      simp only [compactItems, joined_singleton] at enough ⊢
      exact items?_last (first fuel _ (stops_mark (by simp) rest) (by omega))
    | cons next items =>
      have later := ih (fun other member => reads other (List.mem_cons_of_mem _ member))
        (List.cons_ne_nil _ _) fuel
      simp only [compactItems, joined_cons_cons, List.length_append, List.length_cons,
        List.append_assoc, List.cons_append] at enough later ⊢
      exact items?_more (first fuel _ (stops_mark (by simp) _) (by omega)) (later (by omega))

theorem joined_compactFields (key : String) (value : Json) (fields : List (String × Json))
    (rest : List Char) : joined (compactFields ((key, value) :: fields)) ++ rest =
      keyText key ((compact value).toList ++
        if fields = [] then rest else ',' :: (joined (compactFields fields) ++ rest)) := by
  cases fields with
  | nil => simp [compactFields, joined_singleton, keyText, quote]
  | cons f fields => simp [compactFields, joined_cons_cons, keyText, quote]

theorem length_compactFields (key : String) (value : Json) (fields : List (String × Json)) :
    (compact value).toList.length +
        (if fields = [] then 0 else (joined (compactFields fields)).length + 1) <
      (joined (compactFields ((key, value) :: fields))).length := by
  have whole := joined_compactFields key value fields []
  rw [List.append_nil, List.append_nil] at whole
  have long := length_keyText key ((compact value).toList ++
    if fields = [] then [] else ',' :: joined (compactFields fields))
  rw [whole]
  split <;> simp_all

theorem fields?_joined {fields : List (String × Json)} (reads : ∀ f ∈ fields, Reads f.2)
    (nonempty : fields ≠ []) (fuel : Nat)
    (enough : 2 * (joined (compactFields fields)).length + 1 ≤ fuel) (rest : List Char) :
    fields? fuel (joined (compactFields fields) ++ '\x7d' :: rest) =
      some (Document.ofFields fields, rest) := by
  induction fields generalizing fuel with
  | nil => exact absurd rfl nonempty
  | cons f fields ih =>
    obtain ⟨key, value⟩ := f
    have first : Reads value := reads (key, value) List.mem_cons_self
    obtain ⟨fuel, rfl⟩ := Nat.exists_eq_add_one_of_ne_zero (Nat.ne_of_gt (Nat.zero_lt_of_lt enough))
    have long := length_compactFields key value fields
    rw [joined_compactFields]
    cases fields with
    | nil => exact fields?_last (first fuel _ (stops_mark (by simp) rest) (by omega))
    | cons next fields =>
      have later := ih (fun other member => reads other (List.mem_cons_of_mem _ member))
        (List.cons_ne_nil _ _) fuel
      rw [if_neg (List.cons_ne_nil _ _)] at long
      exact fields?_more (first fuel _ (stops_mark (by simp) _) (by omega)) (later (by omega))

/-! ## Every value -/

theorem ne_of_leads {c : Char} (leads : Leads c) (other : Char)
    (digit : Text.isDigit other = false) (minus : other ≠ '-') : c ≠ other := by
  rintro rfl
  rcases leads with own | own
  · rw [digit] at own
    cases own
  · exact minus own

theorem isSpace_of_leads {c : Char} (leads : Leads c) : isSpace c = false := by
  simp [isSpace, ne_of_leads leads ' ' rfl (by decide),
    ne_of_leads leads '\n' rfl (by decide),
    ne_of_leads leads '\t' rfl (by decide),
    ne_of_leads leads '\r' rfl (by decide)]

theorem skipSpace_cons {c : Char} (mark : isSpace c = false) (cs : List Char) :
    skipSpace (c :: cs) = c :: cs := List.dropWhile_cons_of_neg (by simp [mark])

theorem value?_number {c : Char} (leads : Leads c) (fuel : Nat) (cs : List Char) :
    value? (fuel + 1) (c :: cs) =
      (number? (c :: cs)).map fun (n, cs) => (.number n.value, cs) := by
  have blank := skipSpace_cons (isSpace_of_leads leads) cs
  simp [value?, blank, ne_of_leads leads 'n' rfl (by decide),
    ne_of_leads leads 't' rfl (by decide),
    ne_of_leads leads 'f' rfl (by decide),
    ne_of_leads leads '"' rfl (by decide),
    ne_of_leads leads '[' rfl (by decide),
    ne_of_leads leads '\x7b' rfl (by decide)]

theorem value?_items {fuel : Nat} {c : Char} {cs rest : List Char} {ds : List Document}
    (mark : isSpace c = false) (inside : c ≠ ']')
    (read : Read.items? fuel (c :: cs) = some (ds, rest)) :
    value? (fuel + 1) ('[' :: c :: cs) = some (.array ds, rest) := by
  have blank : skipSpace ('[' :: c :: cs) = '[' :: c :: cs := rfl
  simp [value?, blank, skipSpace_cons mark cs, inside, read]

theorem value?_fields {fuel : Nat} {cs rest : List Char} {fields : List (Option String × Document)}
    (read : fields? fuel ('"' :: cs) = some (fields, rest)) :
    value? (fuel + 1) ('\x7b' :: '"' :: cs) = some (.object fields, rest) := by
  have blank : ∀ cs, skipSpace ('\x7b' :: cs) = '\x7b' :: cs := fun _ => rfl
  have inner : skipSpace ('"' :: cs) = '"' :: cs := rfl
  simp [value?, blank, inner, read]

theorem toList_compact_array (items : List Json) :
    (compact (.array items)).toList = '[' :: (joined (compactItems items) ++ [']']) := by
  simp [compact, joined]

theorem toList_compact_object (fields : List (String × Json)) :
    (compact (.object fields)).toList = '\x7b' :: (joined (compactFields fields) ++ ['\x7d']) := by
  simp [compact, joined]

/-- The first character of what is written for a value. -/
theorem head_compact {v : Json} (legible : ∀ n ∈ v.numbers, Legible n) :
    ∃ c cs, (compact v).toList = c :: cs ∧ isSpace c = false ∧ c ≠ ']' := by
  cases v with
  | null => exact ⟨_, _, rfl, by decide, by decide⟩
  | bool b => cases b <;> exact ⟨_, _, rfl, by decide, by decide⟩
  | number n =>
    obtain ⟨t, read, _⟩ := number?_legible (legible n (by simp [numbers]))
    obtain ⟨c, tail, text, leads⟩ := head_of_number? read
    exact ⟨c, tail, by rw [compact, text], isSpace_of_leads leads,
      ne_of_leads leads ']' rfl (by decide)⟩
  | string s => exact ⟨_, _, String.toList_ofList, by decide, by decide⟩
  | array items => exact ⟨_, _, toList_compact_array items, by decide, by decide⟩
  | object fields => exact ⟨_, _, toList_compact_object fields, by decide, by decide⟩

/-- No value that is written as JSON ends in an `s`. -/
theorem getLast?_compact (v : Json) : (compact v).toList.getLast? ≠ some 's' := by
  cases v with
  | null => decide
  | bool b => cases b <;> decide
  | number n =>
    intro last
    have member := List.mem_of_getLast? last
    cases n with
    | int n => exact not_inNumber_s (inNumber_toString member)
    | float x => exact not_inNumber_s (inNumber_floatText x _ member)
  | string s =>
    rw [compact, quote, String.toList_ofList, ← List.cons_append, List.getLast?_concat]
    decide
  | array items =>
    rw [toList_compact_array, ← List.cons_append, List.getLast?_concat]
    decide
  | object fields =>
    rw [toList_compact_object, ← List.cons_append, List.getLast?_concat]
    decide

theorem legible_items {items : List Json} (legible : ∀ n ∈ (array items).numbers, Legible n) :
    ∀ item ∈ items, ∀ n ∈ item.numbers, Legible n := by
  intro item member n held
  refine legible n ?_
  rw [numbers, numbersOfItems_eq]
  exact List.mem_flatMap.2 ⟨item, member, held⟩

theorem legible_fields {fields : List (String × Json)}
    (legible : ∀ n ∈ (object fields).numbers, Legible n) :
    ∀ f ∈ fields, ∀ n ∈ f.2.numbers, Legible n := by
  intro f member n held
  refine legible n ?_
  rw [numbers, numbersOfFields_eq]
  exact List.mem_flatMap.2 ⟨f, member, held⟩

theorem head_joined {item : Json} (items : List Json) (legible : ∀ n ∈ item.numbers, Legible n) :
    ∃ c cs, joined (compactItems (item :: items)) = c :: cs ∧ isSpace c = false ∧ c ≠ ']' := by
  obtain ⟨c, cs, text, mark, inside⟩ := head_compact legible
  cases items with
  | nil => exact ⟨c, cs, by rw [compactItems, compactItems, joined_singleton, text], mark, inside⟩
  | cons next items =>
    refine ⟨c, cs ++ ',' :: joined (compactItems (next :: items)), ?_, mark, inside⟩
    rw [compactItems, compactItems, joined_cons_cons, text]
    rfl

theorem reads_of_succ {v : Json} (legible : ∀ n ∈ v.numbers, Legible n)
    (read : ∀ fuel rest, Stops rest → 2 * (compact v).toList.length ≤ fuel + 1 →
      value? (fuel + 1) ((compact v).toList ++ rest) = some (Document.ofJson v, rest)) :
    Reads v := by
  intro fuel rest stops enough
  cases fuel with
  | succ fuel => exact read fuel rest stops enough
  | zero =>
    obtain ⟨c, cs, text, _⟩ := head_compact legible
    rw [text] at enough
    simp at enough

/-- Every value with legible numbers is read as it was written. -/
theorem reads (v : Json) : (∀ n ∈ v.numbers, Legible n) → Reads v := by
  induction v using induct with
  | null => exact fun legible => reads_of_succ legible fun _ _ _ _ => rfl
  | bool b =>
    intro legible
    cases b <;> exact reads_of_succ legible fun _ _ _ _ => rfl
  | string s =>
    refine fun legible => reads_of_succ legible fun fuel rest _ _ => ?_
    have text : (compact (.string s)).toList ++ rest =
        '"' :: (s.toList.flatMap escape ++ '"' :: rest) := by simp [compact, quote]
    have blank : ∀ cs, skipSpace ('"' :: cs) = '"' :: cs := fun _ => rfl
    simp [text, value?, blank, string?_written, Document.ofJson]
  | number n =>
    refine fun legible => reads_of_succ legible fun fuel rest stops _ => ?_
    obtain ⟨t, read, value⟩ := number?_legible (legible n (by simp [numbers]))
    obtain ⟨c, tail, text, leads⟩ := head_of_number? read
    have whole := number?_append stops read
    rw [text, List.cons_append] at whole
    rw [compact, text, List.cons_append, value?_number leads, whole]
    simp [value, Document.ofJson]
  | array items ih =>
    refine fun legible => reads_of_succ legible fun fuel rest _ enough => ?_
    cases items with
    | nil => rfl
    | cons item items =>
      have inner := legible_items legible
      obtain ⟨c, cs, text, mark, inside⟩ := head_joined items (inner item List.mem_cons_self)
      have read := items?_joined (fun v member => ih v member (inner v member))
        (List.cons_ne_nil item items) fuel (by
          rw [toList_compact_array, List.length_cons, List.length_append,
            List.length_singleton] at enough
          omega) rest
      rw [toList_compact_array, List.cons_append, List.append_assoc, List.singleton_append]
      rw [text, List.cons_append] at read ⊢
      exact value?_items mark inside read
  | object fields ih =>
    refine fun legible => reads_of_succ legible fun fuel rest _ enough => ?_
    cases fields with
    | nil => rfl
    | cons f fields =>
      have inner := legible_fields legible
      have read := fields?_joined (fun f member => ih f member (inner f member))
        (List.cons_ne_nil f fields) fuel (by
          rw [toList_compact_object, List.length_cons, List.length_append,
            List.length_singleton] at enough
          omega) rest
      rw [toList_compact_object, List.cons_append, List.append_assoc, List.singleton_append]
      rw [joined_compactFields] at read ⊢
      exact value?_fields read

/-- What is written of a value with legible numbers is the document that the value is. -/
theorem parse?_compact {v : Json} (legible : ∀ n ∈ v.numbers, Legible n) :
    Document.parse? (compact v) = some (Document.ofJson v) := by
  have read := reads v legible (2 * (compact v).length + 2) [] nofun
    (by rw [String.length_toList]; omega)
  rw [List.append_nil] at read
  rw [Document.parse?, read]
  rfl

end RelDirectory.Json
