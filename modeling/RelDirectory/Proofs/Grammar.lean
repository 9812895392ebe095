import Mathlib.Data.List.TakeWhile
import RelDirectory.Filter
import RelDirectory.Proofs.Lines

/-!
# The grammar of filters

A term is written `(attribute=value)`, where the attribute has at least one character and none of
`(`, `)` and `=`, and the value has no parenthesis (`Spelling`).  A filter is one term, or two of
them between `(&` and `)`.  The reader takes just these texts, blanks around them aside, and no
text can be read in two ways (`parse_grammar`).
-/
set_option autoImplicit false
namespace RelDirectory.Filter

/-- An attribute and a value as they are written in a term. -/
structure Spelling where
  name : List Char
  value : List Char
  named : name ≠ []
  nameFree : ∀ c ∈ name, c ≠ '(' ∧ c ≠ ')' ∧ c ≠ '='
  valueFree : ∀ c ∈ value, c ≠ '(' ∧ c ≠ ')'

namespace Spelling

def text (s : Spelling) : List Char := '(' :: s.name ++ '=' :: s.value ++ [')']

/-- What is read: the attribute without the blanks around it, and the value as it stands. -/
def term (s : Spelling) : Term := ⟨String.ofList (Text.trim s.name), String.ofList s.value⟩

end Spelling

/-- Two terms of which both are asked. -/
def joined (s s' : Spelling) : List Char := '(' :: '&' :: s.text ++ s'.text ++ [')']

variable {s s' r r' : Spelling} {cs rest rest' : List Char} {t : Term}

theorem inAttribute_iff {c : Char} : inAttribute c = true ↔ c ≠ '(' ∧ c ≠ ')' ∧ c ≠ '=' := by
  simp [inAttribute, and_assoc]

theorem inValue_iff {c : Char} : inValue c = true ↔ c ≠ '(' ∧ c ≠ ')' := by
  simp [inValue]

/-! ## One term -/

/-- The attribute ends where the first `=` stands. -/
theorem span_name (s : Spelling) (rest : List Char) :
    (s.name ++ '=' :: rest).takeWhile inAttribute = s.name ∧
      (s.name ++ '=' :: rest).dropWhile inAttribute = '=' :: rest := by
  have free : ∀ c ∈ s.name, inAttribute c = true :=
    fun c member => inAttribute_iff.2 (s.nameFree c member)
  rw [List.takeWhile_append_of_pos free, List.dropWhile_append_of_pos free]
  exact ⟨List.append_nil _, rfl⟩

/-- The value ends where the first parenthesis stands. -/
theorem span_value (s : Spelling) (rest : List Char) :
    (s.value ++ ')' :: rest).takeWhile inValue = s.value ∧
      (s.value ++ ')' :: rest).dropWhile inValue = ')' :: rest := by
  have free : ∀ c ∈ s.value, inValue c = true :=
    fun c member => inValue_iff.2 (s.valueFree c member)
  rw [List.takeWhile_append_of_pos free, List.dropWhile_append_of_pos free]
  exact ⟨List.append_nil _, rfl⟩

theorem text_append (s : Spelling) (rest : List Char) :
    s.text ++ rest = '(' :: (s.name ++ '=' :: (s.value ++ ')' :: rest)) := by
  simp [Spelling.text]

theorem term?_text (s : Spelling) (rest : List Char) :
    term? (s.text ++ rest) = some (s.term, rest) := by
  obtain ⟨name, behind⟩ := span_name s (s.value ++ ')' :: rest)
  obtain ⟨value, ended⟩ := span_value s rest
  have filled : s.name.isEmpty = false := by simpa using s.named
  simp only [text_append, term?, name, behind, value, ended, filled, Bool.false_eq_true, if_false,
    Spelling.term]

theorem spelling_of_term? (read : term? cs = some (t, rest)) :
    ∃ s : Spelling, cs = s.text ++ rest ∧ t = s.term := by
  cases cs with
  | nil => cases read
  | cons c cs =>
    simp only [term?] at read
    split at read
    · rename_i cs' opened
      cases opened
      split at read
      · rename_i behind equals
        split at read
        · rename_i rest' closed
          split at read
          · cases read
          · rename_i filled
            cases read
            refine ⟨⟨cs.takeWhile inAttribute, behind.takeWhile inValue, ?_, ?_, ?_⟩, ?_, rfl⟩
            · simpa using filled
            · exact fun c member => inAttribute_iff.1 (List.mem_takeWhile_imp member)
            · exact fun c member => inValue_iff.1 (List.mem_takeWhile_imp member)
            · rw [text_append, ← closed, List.takeWhile_append_dropWhile, ← equals,
                List.takeWhile_append_dropWhile]
        · cases read
      · cases read
    · cases read

theorem term?_eq_some_iff :
    term? cs = some (t, rest) ↔ ∃ s : Spelling, cs = s.text ++ rest ∧ t = s.term := by
  constructor
  · exact spelling_of_term?
  · rintro ⟨s, rfl, rfl⟩
    exact term?_text s rest

/-- What a term is written with, and where it ends, can be told from the text. -/
theorem text_append_inj (same : s.text ++ rest = r.text ++ rest') : s = r ∧ rest = rest' := by
  rw [text_append, text_append, List.cons.injEq] at same
  have behind := same.2
  have names : s.name = r.name := by
    rw [← (span_name s (s.value ++ ')' :: rest)).1, behind, (span_name r _).1]
  rw [names, List.append_cancel_left_eq, List.cons.injEq] at behind
  have behind := behind.2
  have values : s.value = r.value := by
    rw [← (span_value s rest).1, behind, (span_value r _).1]
  rw [values, List.append_cancel_left_eq, List.cons.injEq] at behind
  have rests := behind.2
  obtain ⟨name, value, _, _, _⟩ := s
  cases names
  cases values
  exact ⟨rfl, rests⟩

/-! ## Whole filters -/

theorem single?_eq_some_iff {f : Filter} :
    single? cs = some f ↔ ∃ s : Spelling, cs = s.text ∧ f = .single s.term := by
  constructor
  · intro read
    simp only [single?, Option.bind_eq_bind, Option.bind_eq_some_iff] at read
    obtain ⟨⟨t, rest⟩, first, last⟩ := read
    obtain ⟨s, rfl, rfl⟩ := term?_eq_some_iff.1 first
    split at last
    · rename_i ended
      cases last
      cases (List.isEmpty_iff.1 ended : rest = [])
      exact ⟨s, List.append_nil _, rfl⟩
    · cases last
  · rintro ⟨s, rfl, rfl⟩
    have whole := term?_text s []
    rw [List.append_nil] at whole
    simp [single?, whole]

theorem conjunction?_eq_some_iff {f : Filter} :
    conjunction? cs = some f ↔
      ∃ s s' : Spelling, cs = joined s s' ∧ f = .conjunction s.term s'.term := by
  constructor
  · intro read
    simp only [conjunction?] at read
    split at read
    · simp only [Option.bind_eq_bind, Option.bind_eq_some_iff] at read
      obtain ⟨⟨t, rest⟩, first, ⟨t', rest'⟩, second, last⟩ := read
      obtain ⟨s, rfl, rfl⟩ := term?_eq_some_iff.1 first
      obtain ⟨s', rfl, rfl⟩ := term?_eq_some_iff.1 second
      split at last
      · rename_i ended
        cases last
        cases (ended : rest' = [')'])
        exact ⟨s, s', by simp [joined], rfl⟩
      · cases last
    · cases read
  · rintro ⟨s, s', rfl, rfl⟩
    have first := term?_text s (s'.text ++ [')'])
    have second := term?_text s' [')']
    simp only [conjunction?, joined, List.cons_append, List.append_assoc, first, second,
      Option.bind_eq_bind, Option.bind_some, if_true]
    rfl

theorem single?_eq_none_iff : single? cs = none ↔ ¬ ∃ s : Spelling, cs = s.text := by
  rw [Option.eq_none_iff_forall_not_mem]
  simp only [Option.mem_def, single?_eq_some_iff]
  constructor
  · rintro never ⟨s, whole⟩
    exact never _ ⟨s, whole, rfl⟩
  · rintro never _ ⟨s, whole, _⟩
    exact never ⟨s, whole⟩

theorem conjunction?_eq_none_iff : conjunction? cs = none ↔ ¬ ∃ s s', cs = joined s s' := by
  rw [Option.eq_none_iff_forall_not_mem]
  simp only [Option.mem_def, conjunction?_eq_some_iff]
  constructor
  · rintro never ⟨s, s', whole⟩
    exact never _ ⟨s, s', whole, rfl⟩
  · rintro never _ ⟨s, s', whole, _⟩
    exact never ⟨s, s', whole⟩

/-- An attribute that begins with `&` is not followed by a parenthesis. -/
theorem joined_ne_text : joined s s' ≠ r.text := by
  intro same
  have behind : '&' :: s.text ++ s'.text ++ [')'] = r.name ++ '=' :: (r.value ++ [')']) := by
    have all := text_append r []
    rw [List.append_nil, ← same] at all
    exact (List.cons.inj all).2
  have name := (span_name r (r.value ++ [')'])).2
  rw [← behind] at name
  have stops : ('&' :: s.text ++ s'.text ++ [')']).dropWhile inAttribute =
      s.text ++ s'.text ++ [')'] := rfl
  rw [stops, List.append_assoc, text_append] at name
  exact absurd (List.cons.inj name).1 (by decide)

theorem joined_inj : joined s s' = joined r r' ↔ s = r ∧ s' = r' := by
  constructor
  · intro same
    simp only [joined, List.cons_append, List.append_assoc, List.cons.injEq, true_and] at same
    obtain ⟨first, behind⟩ := text_append_inj same
    exact ⟨first, (text_append_inj behind).1⟩
  · rintro ⟨rfl, rfl⟩
    rfl

theorem text_inj : s.text = r.text ↔ s = r := by
  constructor
  · intro same
    have ended : s.text ++ [] = r.text ++ [] := by rw [same]
    exact (text_append_inj ended).1
  · rintro rfl
    rfl

variable {text : String}

theorem parse_of_joined (whole : Text.trim text.toList = joined s s') :
    parse text = .conjunction s.term s'.term := by
  have both := conjunction?_eq_some_iff.2 ⟨s, s', whole, rfl⟩
  simp only [parse, both, Option.orElse_some, Option.getD_some]

theorem parse_of_text (whole : Text.trim text.toList = s.text) : parse text = .single s.term := by
  have one := single?_eq_some_iff.2 ⟨s, whole, rfl⟩
  have notBoth : conjunction? (Text.trim text.toList) = none :=
    conjunction?_eq_none_iff.2 fun ⟨_, _, both⟩ => joined_ne_text (both.symm.trans whole)
  simp only [parse, notBoth, one, Option.orElse_none, Option.getD_some]

/-- A term that is written is read, and it stands between parentheses, so no blank is lost. -/
theorem parse_written (s : Spelling) : parse (String.ofList s.text) = .single s.term := by
  refine parse_of_text ?_
  rw [String.toList_ofList]
  refine Text.trim_of_ends ?_ ?_
  · rintro c ⟨⟩
    decide
  · intro c last
    rw [Spelling.text, List.getLast?_concat] at last
    cases last
    decide

theorem parse_of_neither (notBoth : ¬ ∃ s s', Text.trim text.toList = joined s s')
    (notOne : ¬ ∃ s : Spelling, Text.trim text.toList = s.text) : parse text = .unsupported := by
  simp only [parse, conjunction?_eq_none_iff.2 notBoth, single?_eq_none_iff.2 notOne,
    Option.orElse_none, Option.getD_none]

/-- A text is one of the two forms, or it is not supported. -/
theorem parse_cases (text : String) :
    (∃ s s', Text.trim text.toList = joined s s' ∧ parse text = .conjunction s.term s'.term) ∨
    (∃ s : Spelling, Text.trim text.toList = s.text ∧ parse text = .single s.term) ∨
    parse text = .unsupported := by
  by_cases both : ∃ s s', Text.trim text.toList = joined s s'
  · obtain ⟨s, s', whole⟩ := both
    exact Or.inl ⟨s, s', whole, parse_of_joined whole⟩
  · by_cases one : ∃ s : Spelling, Text.trim text.toList = s.text
    · obtain ⟨s, whole⟩ := one
      exact Or.inr (Or.inl ⟨s, whole, parse_of_text whole⟩)
    · exact Or.inr (Or.inr (parse_of_neither both one))

theorem parse_eq_conjunction_iff {a b : Term} : parse text = .conjunction a b ↔
    ∃ s s', Text.trim text.toList = joined s s' ∧ a = s.term ∧ b = s'.term := by
  constructor
  · intro read
    rcases parse_cases text with ⟨s, s', whole, both⟩ | ⟨s, _, one⟩ | none
    · cases read.symm.trans both
      exact ⟨s, s', whole, rfl, rfl⟩
    · cases read.symm.trans one
    · cases read.symm.trans none
  · rintro ⟨s, s', whole, rfl, rfl⟩
    exact parse_of_joined whole

theorem parse_eq_single_iff {a : Term} : parse text = .single a ↔
    ∃ s : Spelling, Text.trim text.toList = s.text ∧ a = s.term := by
  constructor
  · intro read
    rcases parse_cases text with ⟨s, s', _, both⟩ | ⟨s, whole, one⟩ | none
    · cases read.symm.trans both
    · cases read.symm.trans one
      exact ⟨s, whole, rfl⟩
    · cases read.symm.trans none
  · rintro ⟨s, whole, rfl⟩
    exact parse_of_text whole

theorem parse_eq_unsupported_iff : parse text = .unsupported ↔
    (¬ ∃ s s', Text.trim text.toList = joined s s') ∧
      ¬ ∃ s : Spelling, Text.trim text.toList = s.text := by
  constructor
  · intro read
    constructor
    · rintro ⟨s, s', whole⟩
      cases read.symm.trans (parse_of_joined whole)
    · rintro ⟨s, whole⟩
      cases read.symm.trans (parse_of_text whole)
  · exact fun ⟨notBoth, notOne⟩ => parse_of_neither notBoth notOne

/-- A filter is read exactly if it is of one of the two forms, it is never of both, and what it
is made of can be told from the text. -/
theorem parse_grammar (text : String) :
    (∀ a b, parse text = .conjunction a b ↔
      ∃ s s', Text.trim text.toList = joined s s' ∧ a = s.term ∧ b = s'.term) ∧
    (∀ a, parse text = .single a ↔
      ∃ s : Spelling, Text.trim text.toList = s.text ∧ a = s.term) ∧
    (parse text = .unsupported ↔
      (¬ ∃ s s', Text.trim text.toList = joined s s') ∧
        ¬ ∃ s : Spelling, Text.trim text.toList = s.text) ∧
    (∀ s s' r, joined s s' ≠ Spelling.text r) ∧
    (∀ s s' r r', joined s s' = joined r r' ↔ s = r ∧ s' = r') ∧
    ∀ s r : Spelling, s.text = r.text ↔ s = r :=
  ⟨fun _ _ => parse_eq_conjunction_iff, fun _ => parse_eq_single_iff, parse_eq_unsupported_iff,
    fun _ _ _ => joined_ne_text, fun _ _ _ _ => joined_inj, fun _ _ => text_inj⟩

/-- Values may hold `=` and `&` and be empty, and an attribute may be blank. -/
example : parse " (&( =)(&=a=b&))\n" = .conjunction ⟨"", ""⟩ ⟨"&", "a=b&"⟩ := by decide +kernel

end RelDirectory.Filter
