import RelDirectory.Proofs.Pieces
import RelDirectory.Store.Like

/-!
# What patterns match

A pattern is accepted exactly if the text can be cut into pieces, any run of characters for a `%`,
any one for a `_`, and for any other character itself (`accepts_iff`).  A pattern behind a `%` is
accepted if it fits an end of the text (`matchesPattern_ending_iff`), such as this text itself
(`matchesPattern_ending_self`), which then ends as the pattern does (`getLast?_of_matchesPattern`).
Matching goes down the pattern, so it comes to an end on every text, and it decides whether there is
a cut; for a pattern without wild characters behind a `%` it decides whether the text ends with it
(`matchesPattern_iff`).
-/
set_option autoImplicit false
namespace RelDirectory.Like

open RelDirectory.Text
  (Pieces pieces_nil_iff pieces_cons_iff pieces_iff_flatten pieces_append pieces_append_iff
    pieces_self pieces_literal_iff)

/-- What a character of a pattern takes of a text. -/
def Takes (p : Char) (piece : List Char) : Prop :=
  p = '%' ∨ p = '_' ∧ piece.length = 1 ∨ piece = [p]

instance (p : Char) (piece : List Char) : Decidable (Takes p piece) :=
  inferInstanceAs (Decidable (p = '%' ∨ p = '_' ∧ piece.length = 1 ∨ piece = [p]))

theorem takes_iff {p : Char} (any : p ≠ '%') {piece : List Char} :
    Takes p piece ↔ ∃ c, piece = [c] ∧ (p = '_' ∨ p = c) := by
  rw [Takes, or_iff_right any]
  constructor
  · rintro (⟨one, single⟩ | rfl)
    · obtain ⟨c, rfl⟩ := List.length_eq_one_iff.1 single
      exact ⟨c, rfl, Or.inl one⟩
    · exact ⟨p, rfl, Or.inr rfl⟩
  · rintro ⟨c, rfl, one | rfl⟩
    · exact Or.inl ⟨one, rfl⟩
    · exact Or.inr rfl

/-- A character other than `%` and `_` takes only itself. -/
theorem takes_literal {p : Char} (plain : p ≠ '%' ∧ p ≠ '_') (piece : List Char) :
    Takes p piece ↔ piece = [p] := by
  simp [Takes, plain.1, plain.2]

theorem takes_self (p : Char) : Takes p [p] := Or.inr (Or.inr rfl)

theorem takes_any {wild : Char} (any : wild = '%' ∨ wild = '_') (c : Char) : Takes wild [c] := by
  rcases any with rfl | rfl
  · exact Or.inl rfl
  · exact Or.inr (Or.inl ⟨rfl, rfl⟩)

/-- Every character of a pattern, `%` and `_` too, may stand for itself. -/
theorem fits_self (cs : List Char) : Pieces Takes cs cs := pieces_self fun p _ => takes_self p

/-- A pattern without wild characters fits itself and no other text. -/
theorem fits_plain_iff {ps text : List Char} (plain : ∀ c ∈ ps, c ≠ '%' ∧ c ≠ '_') :
    Pieces Takes ps text ↔ text = ps :=
  pieces_literal_iff fun c member => takes_literal (plain c member)

/-- A pattern fits a text that has any other character where a wild one stands. -/
theorem fits_wild {wild : Char} (any : wild = '%' ∨ wild = '_') (before behind : List Char)
    (c : Char) : Pieces Takes (before ++ wild :: behind) (before ++ c :: behind) :=
  pieces_append (fits_self before) (.cons (takes_any any c) (fits_self behind))

theorem mem_suffixes_iff {rest cs : List Char} : rest ∈ suffixes cs ↔ rest <:+ cs := by
  induction cs with
  | nil => simp [suffixes]
  | cons c cs ih => rw [suffixes, List.mem_cons, ih, List.suffix_cons_iff]

theorem accepts_any (ps text : List Char) :
    accepts ('%' :: ps) text = (suffixes text).any fun rest => accepts ps rest := by
  cases text <;> simp [accepts]

/-- A pattern is accepted exactly if the text can be cut into what its characters take. -/
theorem accepts_iff {pattern text : List Char} :
    accepts pattern text = true ↔ Pieces Takes pattern text := by
  induction pattern generalizing text with
  | nil => rw [accepts, List.isEmpty_iff, pieces_nil_iff]
  | cons p ps ih =>
    rw [pieces_cons_iff]
    by_cases any : p = '%'
    · subst any
      rw [accepts_any, List.any_eq_true]
      constructor
      · rintro ⟨rest, left, fits⟩
        obtain ⟨piece, rfl⟩ := mem_suffixes_iff.1 left
        exact ⟨piece, rest, rfl, Or.inl rfl, ih.1 fits⟩
      · rintro ⟨piece, rest, rfl, _, cut⟩
        exact ⟨rest, mem_suffixes_iff.2 (List.suffix_append piece rest), ih.2 cut⟩
    · simp only [takes_iff any]
      constructor
      · intro fits
        cases text with
        | nil => simp [accepts, any] at fits
        | cons c cs =>
          simp only [accepts, if_neg any, Bool.and_eq_true, Bool.or_eq_true, beq_iff_eq] at fits
          exact ⟨[c], cs, rfl, ⟨c, rfl, fits.1⟩, ih.1 fits.2⟩
      · rintro ⟨_, rest, rfl, ⟨c, rfl, here⟩, there⟩
        simp only [List.singleton_append, accepts, if_neg any, Bool.and_eq_true, Bool.or_eq_true,
          beq_iff_eq]
        exact ⟨here, ih.2 there⟩

/-- A pattern behind a `%` matches if it fits an end of the text. -/
theorem matchesPattern_ending_iff {s text : String} : matchesPattern ("%" ++ s) text = true ↔
    ∃ rest, rest <:+ text.toList ∧ Pieces Takes s.toList rest := by
  have pattern : ("%" ++ s).toList = '%' :: s.toList := by simp
  rw [matchesPattern, pattern, accepts_any]
  simp only [List.any_eq_true, mem_suffixes_iff, accepts_iff]

/-- What matches a pattern behind a `%` ends in the same character, if this stands for itself. -/
theorem getLast?_of_matchesPattern {s text : String} {c : Char} (literal : c ≠ '%' ∧ c ≠ '_')
    (ends : s.toList.getLast? = some c) (fits : matchesPattern ("%" ++ s) text = true) :
    text.toList.getLast? = some c := by
  obtain ⟨ps, whole⟩ := List.getLast?_eq_some_iff.1 ends
  obtain ⟨rest, ⟨lead, split⟩, cut⟩ := matchesPattern_ending_iff.1 fits
  rw [whole] at cut
  obtain ⟨before, last, rfl, _, here⟩ := pieces_append_iff.1 cut
  obtain ⟨piece, none, rfl, own, nothing⟩ := pieces_cons_iff.1 here
  rw [(takes_literal literal piece).1 own, pieces_nil_iff.1 nothing] at split
  rw [← split, List.append_nil, ← List.append_assoc, List.getLast?_concat]

theorem matchesPattern_ending_self (s : String) : matchesPattern ("%" ++ s) s = true :=
  matchesPattern_ending_iff.2 ⟨s.toList, List.suffix_refl _, fits_self _⟩

/-- A pattern without wild characters matches behind a `%` exactly the texts that end with it. -/
theorem matchesPattern_plain_ending_iff {s text : String}
    (plain : ∀ c ∈ s.toList, c ≠ '%' ∧ c ≠ '_') :
    matchesPattern ("%" ++ s) text = true ↔ s.toList <:+ text.toList := by
  simp only [matchesPattern_ending_iff, fits_plain_iff plain, exists_eq_right]

/-- A pattern matches exactly the texts that can be cut into one piece for each of its characters,
each piece one that its character takes.  So behind a `%` a pattern without wild characters matches
exactly the texts that end with it. -/
theorem matchesPattern_iff (pattern text : String) :
    (matchesPattern pattern text = true ↔ ∃ pieces : List (List Char),
      pieces.flatten = text.toList ∧ List.Forall₂ Takes pattern.toList pieces) ∧
      ∀ s : String, (∀ c ∈ s.toList, c ≠ '%' ∧ c ≠ '_') →
        (matchesPattern ("%" ++ s) text = true ↔ s.toList <:+ text.toList) := by
  refine ⟨?_, fun s plain => matchesPattern_plain_ending_iff plain⟩
  rw [matchesPattern, accepts_iff, pieces_iff_flatten]

theorem matchesPattern_iff_below : (∀ c ∈ "o=jans".toList, c ≠ '%' ∧ c ≠ '_') ∧
    matchesPattern "%%_=_%,%" "inum=1,o=jans" = true ∧
    matchesPattern ("%" ++ "o=jans") "inum=1,o=jans" = true ∧
    ¬ matchesPattern ("%" ++ "o=jans") "o=jans," = true := by
  have plain : ∀ c ∈ "o=jans".toList, c ≠ '%' ∧ c ≠ '_' := by simp
  refine ⟨plain, (matchesPattern_iff _ _).1.2 ?_, ?_, ?_⟩
  · exact ⟨[[], "inu".toList, ['m'], ['='], ['1'], [], [','], "o=jans".toList], by decide, by decide⟩
  · exact ((matchesPattern_iff "%" "inum=1,o=jans").2 "o=jans" plain).2 (by decide)
  · rw [(matchesPattern_iff "%" "o=jans,").2 "o=jans" plain]
    decide

end RelDirectory.Like
