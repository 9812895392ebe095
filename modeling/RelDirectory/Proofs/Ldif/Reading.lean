import RelDirectory.Ldif.Reader
import RelDirectory.Proofs.Ldif.Values
import RelDirectory.Proofs.Lines

/-!
# Reading records

A line that is blank, a lone `-` or says a name and a value takes the reader one step further
(`records_blank`, `records_dash`, `records_of_pair`), and lines that say pairs push them
(`records_append_said`).  So a text whose logical lines each say a pair, the first of them a `dn`
and a lone `-` left out, is read as the record that these pairs make (`read_oneRecord`).  It does
not matter how a line is folded or encoded, where comments stand and where a `-` does.
-/
set_option autoImplicit false
namespace RelDirectory.Ldif

open ChangeRecord (pushAll ofPairs)

/-- The pairs that lines say, a lone `-` left out, if each of them says one. -/
def said : List Line → Option (List (String × String))
  | [] => some []
  | line :: lines =>
    if line.text = ['-'] then said lines
    else
      match pair line with
      | .ok p => (said lines).map ((p.name, p.value) :: ·)
      | .error _ => none

/-- The name and the pairs of a text that is one record. -/
def oneRecord? (text : String) : Option (String × List (String × String)) :=
  match unfold text.toList with
  | [] => none
  | first :: rest =>
    match pair first with
    | .ok p => if Text.sameLetters p.name "dn" then (said rest).map (p.value, ·) else none
    | .error _ => none

theorem colon_mem_of_pair {line : Line} {p : Pair} (told : pair line = .ok p) :
    ':' ∈ line.text := by
  simp only [pair] at told
  cases cut : Text.cutAt ':' line.text with
  | none => simp [cut] at told
  | some parts =>
    rw [(Text.cutAt_eq_some_iff.1 cut).1]
    exact List.mem_append_right _ List.mem_cons_self

theorem not_allBlank_of_pair {line : Line} {p : Pair} (told : pair line = .ok p) :
    Text.allBlank line.text = false := by
  cases blank : Text.allBlank line.text with
  | false => rfl
  | true =>
    have colon := List.all_eq_true.1 blank ':' (colon_mem_of_pair told)
    exact absurd colon (by decide)

theorem not_dash_of_pair {line : Line} {p : Pair} (told : pair line = .ok p) :
    line.text ≠ ['-'] := by
  intro dash
  have colon := colon_mem_of_pair told
  rw [dash] at colon
  exact absurd colon (by decide)

/-! ## One line after the other -/

theorem said_dash {line : Line} (dash : line.text = ['-']) (lines : List Line) :
    said (line :: lines) = said lines := by
  rw [said, if_pos dash]

theorem said_fault {line : Line} {fault : LdifFault} (told : pair line = .error fault)
    (noDash : line.text ≠ ['-']) (lines : List Line) : said (line :: lines) = none := by
  simp only [said, if_neg noDash, told]

theorem said_pair {line : Line} {p : Pair} (told : pair line = .ok p) (lines : List Line) :
    said (line :: lines) = (said lines).map ((p.name, p.value) :: ·) := by
  simp only [said, if_neg (not_dash_of_pair told), told]

/-- A blank line ends the record that is going on. -/
theorem records_blank {line : Line} (blank : Text.allBlank line.text = true)
    (current : Option ChangeRecord) (lines : List Line) :
    (records current (line :: lines)).1 = (records none lines).1.map (current.toList ++ ·) := by
  rw [records, if_pos blank]

theorem records_dash {line : Line} (dash : line.text = ['-']) (current : Option ChangeRecord)
    (lines : List Line) : records current (line :: lines) = records current lines := by
  have solid : ¬ Text.allBlank line.text = true := by rw [dash]; decide
  rw [records, if_neg solid, if_pos dash]

theorem records_of_pair {line : Line} {p : Pair} (told : pair line = .ok p)
    (current : Option ChangeRecord) (lines : List Line) :
    (records current (line :: lines)).1 =
      match current with
      | some record => (records (some (record.push p.name p.value)) lines).1
      | none =>
        if Text.sameLetters p.name "dn" then (records (some (.new p.value)) lines).1
        else if Text.sameLetters p.name "version" then (records none lines).1
        else .error (line.number, .notDn p.name) := by
  simp only [records, not_allBlank_of_pair told, Bool.false_eq_true, if_false,
    if_neg (not_dash_of_pair told), told]
  cases current with
  | some record => rfl
  | none =>
    simp only []
    split
    · rfl
    · split <;> rfl

theorem records_of_fault {line : Line} {fault : LdifFault} (told : pair line = .error fault)
    (solid : ¬ Text.allBlank line.text = true) (noDash : line.text ≠ ['-'])
    (current : Option ChangeRecord) (lines : List Line) :
    (records current (line :: lines)).1 = .error (line.number, fault) := by
  simp only [records, if_neg solid, if_neg noDash, told]

/-- Lines that say pairs push them onto the record that they go on with. -/
theorem records_append_said {lines : List Line} {pairs : List (String × String)}
    (told : said lines = some pairs) (r : ChangeRecord) (rest : List Line) :
    (records (some r) (lines ++ rest)).1 = (records (some (pushAll r pairs)) rest).1 := by
  induction lines generalizing r pairs with
  | nil =>
    cases told
    rfl
  | cons line lines ih =>
    by_cases dash : line.text = ['-']
    · rw [said_dash dash] at told
      rw [List.cons_append, records_dash dash]
      exact ih told r
    · cases lineSays : pair line with
      | error e =>
        rw [said_fault lineSays dash] at told
        cases told
      | ok p =>
        rw [said_pair lineSays] at told
        obtain ⟨others, restSays, rfl⟩ := Option.map_eq_some_iff.1 told
        rw [List.cons_append, records_of_pair lineSays]
        exact ih restSays (r.push p.name p.value)

theorem records_said {lines : List Line} {pairs : List (String × String)}
    (told : said lines = some pairs) (r : ChangeRecord) :
    (records (some r) lines).1 = .ok [pushAll r pairs] := by
  have all := records_append_said told r []
  rw [List.append_nil] at all
  exact all

/-- A text that is one record is read as the record that its pairs make. -/
theorem read_oneRecord {text dn : String} {pairs : List (String × String)}
    (one : oneRecord? text = some (dn, pairs)) : (read text).1 = .ok [ofPairs dn pairs] := by
  simp only [oneRecord?] at one
  simp only [read]
  cases lines : unfold text.toList with
  | nil => simp [lines] at one
  | cons first rest =>
    simp only [lines] at one
    cases firstSays : pair first with
    | error e => simp [firstSays] at one
    | ok p =>
      simp only [firstSays] at one
      split at one
      · rename_i named
        obtain ⟨pairs', restSays, same⟩ := Option.map_eq_some_iff.1 one
        cases same
        simp only [records_of_pair firstSays, named, if_true,
          records_said restSays (.new p.value)]
        rfl
      · cases one

end RelDirectory.Ldif
