import RelDirectory.Proofs.Base64
import RelDirectory.Proofs.Lines
import RelDirectory.Proofs.Ldif.Reading

/-!
# Change files as they are written

A `Document` is a list of records with a choice for each line: the value as it is, if it is one
line and does not begin with a blank, or its UTF-8 bytes in Base64.  Blank lines stand between the
records, and a version line may stand in front of all.  The text of a document is read as just its
records (`read_text`): no line of it is a comment, goes on with the line before or breaks in two
(`whole_write`), and each says its own pair (`pair_write`).
-/
set_option autoImplicit false
namespace RelDirectory.Ldif

open ChangeRecord (ofPairs)

/-- How a value is written: as it is, or in Base64. -/
inductive Form where
  | plain
  | encoded
deriving DecidableEq

namespace Form

/-- As it is, a value is written only if it is one line and does not begin with a blank. -/
def Fits (value : String) : Form → Prop
  | .plain => ('\n' ∉ value.toList ∧ '\r' ∉ value.toList) ∧
      Text.trimStart value.toList = value.toList
  | .encoded => True

instance (value : String) : (form : Form) → Decidable (form.Fits value)
  | .plain => inferInstanceAs (Decidable (('\n' ∉ value.toList ∧ '\r' ∉ value.toList) ∧
      Text.trimStart value.toList = value.toList))
  | .encoded => isTrue trivial

def write (name value : String) : Form → List Char
  | .plain => name.toList ++ ':' :: ' ' :: value.toList
  | .encoded => name.toList ++ ':' :: ':' :: ' ' :: Text.Base64.encode (Text.Utf8.encode value)

end Form

/-- A name that can be written in front of a colon. -/
structure Nameable (name : String) : Prop where
  nonempty : name ≠ ""
  trimmed : Text.trim name.toList = name.toList
  noColon : ':' ∉ name.toList
  oneLine : '\n' ∉ name.toList ∧ '\r' ∉ name.toList
  noComment : name.toList.head? ≠ some '#'

/-- A value of an attribute, and how it is written. -/
structure Saying where
  name : String
  value : String
  form : Form
  nameable : Nameable name
  fits : form.Fits value

/-- A line of blanks; with a space in front it would go on with the line before. -/
structure BlankLine where
  text : List Char
  blank : Text.allBlank text = true
  oneLine : '\n' ∉ text ∧ '\r' ∉ text
  noFold : text.head? ≠ some ' '

/-- A record as it is written, and the blank lines behind it. -/
structure Written where
  dn : String
  form : Form
  fits : form.Fits dn
  sayings : List Saying
  gap : List BlankLine

/-- Records with blank lines between them. -/
structure Document where
  versioned : Bool
  lead : List BlankLine
  records : List Written
  separated : ∀ w ∈ records.dropLast, w.gap ≠ []

namespace Written

def pairs (w : Written) : List (String × String) := w.sayings.map fun s => (s.name, s.value)

def record (w : Written) : ChangeRecord := ofPairs w.dn w.pairs

def lines (w : Written) : List (List Char) :=
  w.form.write "dn" w.dn :: w.sayings.map (fun s => s.form.write s.name s.value) ++
    w.gap.map (·.text)

end Written

namespace Document

def lines (doc : Document) : List (List Char) :=
  (if doc.versioned then [Form.plain.write "version" "1"] else []) ++
    doc.lead.map (·.text) ++ doc.records.flatMap Written.lines

def text (doc : Document) : String := String.ofList (['\n'].intercalate doc.lines)

end Document

/-! ## Lines that stand for themselves -/

/-- A line that is not broken, and neither goes on with another one nor is a comment. -/
structure Whole (raw : List Char) : Prop where
  oneLine : '\n' ∉ raw ∧ '\r' ∉ raw
  noFold : raw.head? ≠ some ' '
  noComment : raw.head? ≠ some '#'

theorem nameable_dn : Nameable "dn" := ⟨by decide, by decide, by decide, by decide, by decide⟩

theorem nameable_version : Nameable "version" :=
  ⟨by decide, by decide, by decide, by decide, by decide⟩

variable {name value : String}

theorem toList_ne_nil (nameable : Nameable name) : name.toList ≠ [] := by
  intro none
  exact nameable.nonempty (String.toList_eq_nil_iff.1 none)

theorem head?_ne_space (nameable : Nameable name) : name.toList.head? ≠ some ' ' := by
  intro space
  rw [← nameable.trimmed] at space
  exact absurd (Text.head?_trim space) (by decide)

theorem whole_append (nameable : Nameable name) {rest : List Char}
    (oneLine : '\n' ∉ rest ∧ '\r' ∉ rest) : Whole (name.toList ++ rest) := by
  have head : (name.toList ++ rest).head? = name.toList.head? :=
    List.head?_append_of_ne_nil _ (toList_ne_nil nameable)
  refine ⟨⟨?_, ?_⟩, ?_, ?_⟩
  · simp [nameable.oneLine.1, oneLine.1]
  · simp [nameable.oneLine.2, oneLine.2]
  · rw [head]
    exact head?_ne_space nameable
  · rw [head]
    exact nameable.noComment

theorem whole_write (nameable : Nameable name) {form : Form} (fits : form.Fits value) :
    Whole (form.write name value) := by
  cases form with
  | plain =>
    refine whole_append nameable ⟨?_, ?_⟩
    · simp [fits.1.1]
    · simp [fits.1.2]
  | encoded =>
    have free : ∀ c ∈ Text.Base64.encode (Text.Utf8.encode value), Text.isBlank c = false :=
      fun _ member => Text.Base64.isBlank_of_mem_encode member
    have oneLine := Text.oneLine_of_free free
    refine whole_append nameable ⟨?_, ?_⟩
    · simp [oneLine.1]
    · simp [oneLine.2]

theorem whole_blankLine (b : BlankLine) : Whole b.text := by
  refine ⟨b.oneLine, b.noFold, ?_⟩
  intro comment
  have held : '#' ∈ b.text := List.mem_of_head? comment
  exact absurd (List.all_eq_true.1 b.blank '#' held) (by decide)

theorem whole_lines (doc : Document) : ∀ raw ∈ doc.lines, Whole raw := by
  intro raw member
  simp only [Document.lines, List.mem_append, List.mem_map, List.mem_flatMap, Written.lines,
    List.mem_cons] at member
  rcases member with (version | ⟨b, _, rfl⟩) | ⟨w, _, (rfl | ⟨s, _, rfl⟩) | ⟨b, _, rfl⟩⟩
  · split at version
    · rw [List.mem_singleton.1 version]
      exact whole_write nameable_version (by decide)
    · cases version
  · exact whole_blankLine b
  · exact whole_write nameable_dn w.fits
  · exact whole_write s.nameable s.fits
  · exact whole_blankLine b

theorem unfoldLine_line {raw : List Char} (noFold : raw.head? ≠ some ' ')
    (noComment : raw.head? ≠ some '#') (s : Unfolding) (number : Nat) :
    unfoldLine s number raw = ⟨⟨number, raw⟩ :: s.lines, false⟩ := by
  cases raw with
  | nil => rfl
  | cons c cs =>
    have noFold : c ≠ ' ' := fun same => noFold (by rw [same]; rfl)
    have noComment : c ≠ '#' := fun same => noComment (by rw [same]; rfl)
    simp [unfoldLine, noFold, noComment]

theorem unfoldLine_whole {raw : List Char} (whole : Whole raw) (s : Unfolding) (number : Nat) :
    unfoldLine s number raw = ⟨⟨number, raw⟩ :: s.lines, false⟩ :=
  unfoldLine_line whole.noFold whole.noComment s number

theorem texts_unfoldFrom {raws : List (List Char)} (whole : ∀ raw ∈ raws, Whole raw)
    (s : Unfolding) (number : Nat) :
    (unfoldFrom s number raws).map Line.text = s.lines.reverse.map Line.text ++ raws := by
  induction raws generalizing s number with
  | nil => simp [unfoldFrom]
  | cons raw raws ih =>
    obtain ⟨here, there⟩ := List.forall_mem_cons.1 whole
    rw [unfoldFrom, unfoldLine_whole here, ih there]
    simp

theorem texts_of_lines {text : List Char} {raws : List (List Char)}
    (whole : ∀ raw ∈ raws, Whole raw) (found : Text.lines text = raws) :
    (unfold text).map Line.text = raws := by
  have bare : raws.map stripReturn = raws := by
    refine (List.map_congr_left ?_).trans (List.map_id raws)
    intro raw member
    exact if_neg fun ends => (whole raw member).oneLine.2 (List.mem_of_getLast? ends)
  rw [unfold, found, bare, texts_unfoldFrom whole]
  rfl

/-- The logical lines of joined lines are the lines, up to an empty last one. -/
theorem texts_unfold {raws : List (List Char)} (whole : ∀ raw ∈ raws, Whole raw) :
    (unfold (['\n'].intercalate raws)).map Line.text = raws ∨
      (unfold (['\n'].intercalate raws)).map Line.text ++ [[]] = raws := by
  rcases Text.lines_joined fun raw member => (whole raw member).oneLine with found | found
  · exact Or.inl (texts_of_lines whole found)
  · refine Or.inr ?_
    rw [texts_of_lines _ rfl]
    · exact found
    · intro raw member
      exact whole raw (found ▸ List.mem_append_left _ member)

/-! ## What the lines say -/

theorem pair_write (nameable : Nameable name) {form : Form} (fits : form.Fits value)
    {line : Line} (text : line.text = form.write name value) :
    pair line = .ok ⟨name, value, []⟩ := by
  have own : String.ofList (Text.trim name.toList) = name := by
    rw [nameable.trimmed, String.ofList_toList]
  cases form with
  | plain =>
    have rest : String.ofList (Text.trimStart (' ' :: value.toList)) = value := by
      rw [Text.trimStart_space, fits.2, String.ofList_toList]
    simp only [pair, text, Form.write, Text.cutAt_append nameable.noColon, own,
      if_neg nameable.nonempty]
    exact congrArg (fun value => Except.ok (Pair.mk name value [])) rest
  | encoded =>
    have bare : Text.trim (' ' :: Text.Base64.encode (Text.Utf8.encode value)) =
        Text.Base64.encode (Text.Utf8.encode value) :=
      Text.trim_of_free fun _ member => Text.Base64.isBlank_of_mem_encode member
    simp only [pair, text, Form.write, Text.cutAt_append nameable.noColon, own,
      if_neg nameable.nonempty, bare, decodeValue, Text.Base64.decode?_encode,
      Text.Utf8.decode?_encode]
    rfl

theorem said_sayings (sayings : List Saying) {lines : List Line}
    (texts : lines.map Line.text = sayings.map fun s => s.form.write s.name s.value) :
    said lines = some (sayings.map fun s => (s.name, s.value)) := by
  induction sayings generalizing lines with
  | nil =>
    cases List.map_eq_nil_iff.1 texts
    rfl
  | cons s sayings ih =>
    obtain ⟨line, rest, rfl, here, there⟩ := List.map_eq_cons_iff.1 texts
    have told := pair_write s.nameable s.fits here
    rw [said_pair told, ih there]
    rfl

theorem records_blanks {blanks : List Line}
    (blank : ∀ line ∈ blanks, Text.allBlank line.text = true) (rest : List Line) :
    (records none (blanks ++ rest)).1 = (records none rest).1 := by
  induction blanks with
  | nil => rfl
  | cons line blanks ih =>
    obtain ⟨here, there⟩ := List.forall_mem_cons.1 blank
    rw [List.cons_append, records_blank here, ih there]
    cases (records none rest).1 <;> rfl

/-- A blank last line changes nothing. -/
theorem records_append_blank (last : Line) (blank : Text.allBlank last.text = true)
    (current : Option ChangeRecord) (lines : List Line) :
    (records current (lines ++ [last])).1 = (records current lines).1 := by
  induction lines generalizing current with
  | nil =>
    rw [List.nil_append, records_blank blank]
    cases current <;> rfl
  | cons line lines ih =>
    rw [List.cons_append]
    by_cases empty : Text.allBlank line.text = true
    · rw [records_blank empty, records_blank empty, ih]
    · by_cases dash : line.text = ['-']
      · rw [records_dash dash, records_dash dash, ih]
      · cases told : pair line with
        | error fault =>
          rw [records_of_fault told empty dash, records_of_fault told empty dash]
        | ok p => simp only [records_of_pair told, ih]

theorem blank_of_texts {gap : List BlankLine} {lines : List Line}
    (texts : lines.map Line.text = gap.map (·.text)) :
    ∀ line ∈ lines, Text.allBlank line.text = true := by
  intro line member
  have held : line.text ∈ gap.map (·.text) := texts ▸ List.mem_map_of_mem member
  obtain ⟨b, _, same⟩ := List.mem_map.1 held
  rw [← same]
  exact b.blank

/-- Written records with blank lines between them are read one by one. -/
theorem records_written {ws : List Written} (separated : ∀ w ∈ ws.dropLast, w.gap ≠ [])
    {lines : List Line} (texts : lines.map Line.text = ws.flatMap Written.lines) :
    (records none lines).1 = .ok (ws.map Written.record) := by
  induction ws generalizing lines with
  | nil =>
    cases List.map_eq_nil_iff.1 texts
    rfl
  | cons w ws ih =>
    rw [List.flatMap_cons, Written.lines, List.cons_append, List.cons_append] at texts
    obtain ⟨first, behind, rfl, here, others⟩ := List.map_eq_cons_iff.1 texts
    rw [List.append_assoc] at others
    obtain ⟨saying, behind, rfl, said, others⟩ := List.map_eq_append_iff.1 others
    obtain ⟨gap, rest, rfl, blank, later⟩ := List.map_eq_append_iff.1 others
    have named := pair_write nameable_dn w.fits here
    have dn : Text.sameLetters "dn" "dn" = true := by decide
    rw [records_of_pair named]
    simp only [dn, if_true]
    rw [records_append_said (said_sayings w.sayings said)]
    cases gap with
    | nil =>
      -- without a blank line behind it this is the last record
      have last : ws = [] := by
        by_contra more
        have inner : w ∈ (w :: ws).dropLast := by
          rw [List.dropLast_cons_of_ne_nil more]
          exact List.mem_cons_self
        exact separated w inner (List.map_eq_nil_iff.1 blank.symm)
      subst last
      cases List.map_eq_nil_iff.1 later
      rfl
    | cons line gap =>
      obtain ⟨ended, blanks⟩ := List.forall_mem_cons.1 (blank_of_texts blank)
      have apart : ∀ w' ∈ ws.dropLast, w'.gap ≠ [] := by
        intro w' member
        have more : ws ≠ [] := List.ne_nil_of_mem (List.dropLast_subset ws member)
        refine separated w' ?_
        rw [List.dropLast_cons_of_ne_nil more]
        exact List.mem_cons_of_mem _ member
      rw [List.cons_append, records_blank ended, records_blanks blanks, ih apart later]
      rfl

theorem records_lines (doc : Document) {lines : List Line}
    (texts : lines.map Line.text = doc.lines) :
    (records none lines).1 = .ok (doc.records.map Written.record) := by
  rw [Document.lines, List.append_assoc] at texts
  obtain ⟨version, lines, rfl, said, texts⟩ := List.map_eq_append_iff.1 texts
  obtain ⟨lead, rest, rfl, blank, texts⟩ := List.map_eq_append_iff.1 texts
  have read : (records none (lead ++ rest)).1 = .ok (doc.records.map Written.record) := by
    rw [records_blanks (blank_of_texts blank), records_written doc.separated texts]
  split at said
  · obtain ⟨line, none, rfl, here, there⟩ := List.map_eq_cons_iff.1 said
    cases List.map_eq_nil_iff.1 there
    have told := pair_write nameable_version (by decide) here
    have version : Text.sameLetters "version" "dn" = false ∧
        Text.sameLetters "version" "version" = true := by decide
    rw [List.singleton_append, records_of_pair told]
    simp only [version, Bool.false_eq_true, if_false, if_true]
    exact read
  · cases List.map_eq_nil_iff.1 said
    exact read

/-- What is written is read: the text of a document gives just its records. -/
theorem read_text (doc : Document) :
    (read doc.text).1 = .ok (doc.records.map Written.record) := by
  have whole := whole_lines doc
  have found : (records none (unfold (['\n'].intercalate doc.lines))).1 =
      .ok (doc.records.map Written.record) := by
    rcases texts_unfold whole with texts | texts
    · exact records_lines doc texts
    · rw [← records_append_blank ⟨0, []⟩ rfl]
      refine records_lines doc ?_
      rw [List.map_append]
      exact texts
  simp only [read, Document.text, String.toList_ofList, found]
  rfl

def emptyLine : BlankLine := ⟨[], by decide, by decide, by decide⟩

def describe (value : String) (form : Form) (fits : form.Fits value) : Saying :=
  ⟨"description", value, form, ⟨by decide, by decide, by decide, by decide, by decide⟩, fits⟩

/-- A record with a value like a comment, one that begins with a blank and an attribute `dn`, and a
record whose name ends in a line feed. -/
def oddDocument : Document where
  versioned := true
  lead := [emptyLine]
  records := [
    ⟨"o=jans", .plain, by decide, [describe "# none" .plain (by decide),
      describe " Hello" .encoded (by decide), ⟨"dn", "", .plain, nameable_dn, by decide⟩],
      [emptyLine]⟩,
    ⟨"o=a\n", .encoded, by decide, [], [emptyLine]⟩]
  separated := by simp

def oddText : String :=
  "version: 1\n\ndn: o=jans\ndescription: # none\ndescription:: IEhlbGxv\ndn: \n\n" ++
    "dn:: bz1hCg==\n"

theorem read_text_odd : (read oddText).1 =
    .ok [⟨"o=jans", [("description", ["# none", " Hello"]), ("dn", [""])]⟩, ⟨"o=a\n", []⟩] := by
  have text : oddDocument.text = oddText := by decide +kernel
  have records : oddDocument.records.map Written.record =
      [⟨"o=jans", [("description", ["# none", " Hello"]), ("dn", [""])]⟩, ⟨"o=a\n", []⟩] := by
    decide +kernel
  rw [← text, ← records]
  exact read_text oddDocument

end RelDirectory.Ldif
