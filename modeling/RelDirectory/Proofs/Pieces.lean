import Mathlib.Data.List.Count
import Mathlib.Data.List.Forall2

/-!
# Patterns as pieces

A pattern matches a text if the text can be cut into consecutive pieces, one for each character of
the pattern (`Pieces`, with the pieces in a list `pieces_iff_flatten`).  What a character takes is a
parameter, so one theory serves every kind of pattern: characters that take only themselves stand
for one text (`pieces_literal_iff`), and such a character is met in the text at least as often as in
the pattern (`count_le_of_pieces`).
-/
set_option autoImplicit false
namespace RelDirectory.Text

/-- The text can be cut into consecutive pieces, one for each character of the pattern, and each
piece is one that the character takes. -/
inductive Pieces (takes : Char → List Char → Prop) : List Char → List Char → Prop
  | nil : Pieces takes [] []
  | cons {p : Char} {ps piece rest : List Char} :
      takes p piece → Pieces takes ps rest → Pieces takes (p :: ps) (piece ++ rest)

variable {takes wider : Char → List Char → Prop} {ps qs text more : List Char}

theorem pieces_nil_iff : Pieces takes [] text ↔ text = [] := by
  constructor
  · intro cut
    cases cut
    rfl
  · rintro rfl
    exact .nil

theorem pieces_cons_iff {p : Char} : Pieces takes (p :: ps) text ↔
    ∃ piece rest, text = piece ++ rest ∧ takes p piece ∧ Pieces takes ps rest := by
  constructor
  · intro cut
    cases cut with
    | cons here there => exact ⟨_, _, rfl, here, there⟩
  · rintro ⟨piece, rest, rfl, here, there⟩
    exact .cons here there

/-- The pieces of a cut, side by side with the characters that take them. -/
theorem pieces_iff_flatten : Pieces takes ps text ↔
    ∃ pieces : List (List Char), pieces.flatten = text ∧ List.Forall₂ takes ps pieces := by
  constructor
  · intro cut
    induction cut with
    | nil => exact ⟨[], rfl, .nil⟩
    | cons here _ ih =>
      obtain ⟨pieces, rfl, there⟩ := ih
      exact ⟨_ :: pieces, rfl, .cons here there⟩
  · rintro ⟨pieces, rfl, taken⟩
    induction taken with
    | nil => exact .nil
    | cons here _ ih => exact .cons here ih

/-- Where it is decided what each character takes, trying every cut decides. -/
instance Pieces.decidable (takes : Char → List Char → Prop)
    [∀ p piece, Decidable (takes p piece)] : ∀ ps text, Decidable (Pieces takes ps text)
  | [], _ => decidable_of_iff _ pieces_nil_iff.symm
  | p :: ps, text =>
    have := Pieces.decidable takes ps
    decidable_of_iff
      (∃ n ∈ List.range (text.length + 1), takes p (text.take n) ∧ Pieces takes ps (text.drop n))
      ⟨fun ⟨n, _, here, there⟩ =>
        pieces_cons_iff.2 ⟨_, _, (List.take_append_drop n text).symm, here, there⟩,
      fun cut => by
        obtain ⟨piece, rest, rfl, here, there⟩ := pieces_cons_iff.1 cut
        refine ⟨piece.length, ?_, ?_, ?_⟩
        · rw [List.mem_range, List.length_append]
          omega
        · rwa [List.take_left]
        · rwa [List.drop_left]⟩

theorem pieces_append (first : Pieces takes ps text) (second : Pieces takes qs more) :
    Pieces takes (ps ++ qs) (text ++ more) := by
  induction first with
  | nil => exact second
  | cons here _ ih =>
    rw [List.append_assoc]
    exact .cons here ih

theorem pieces_append_iff : Pieces takes (ps ++ qs) text ↔
    ∃ front back, text = front ++ back ∧ Pieces takes ps front ∧ Pieces takes qs back := by
  constructor
  · induction ps generalizing text with
    | nil => exact fun cut => ⟨[], text, rfl, .nil, cut⟩
    | cons p ps ih =>
      intro cut
      obtain ⟨piece, rest, rfl, here, there⟩ := pieces_cons_iff.1 cut
      obtain ⟨front, back, rfl, first, second⟩ := ih there
      exact ⟨piece ++ front, back, (List.append_assoc _ _ _).symm, .cons here first, second⟩
  · rintro ⟨front, back, rfl, first, second⟩
    exact pieces_append first second

theorem pieces_mono (more : ∀ p ∈ ps, ∀ piece, takes p piece → wider p piece)
    (cut : Pieces takes ps text) : Pieces wider ps text := by
  induction cut with
  | nil => exact .nil
  | cons here _ ih =>
    obtain ⟨first, others⟩ := List.forall_mem_cons.1 more
    exact .cons (first _ here) (ih others)

theorem pieces_map_iff (f : Char → Char) :
    Pieces takes (ps.map f) text ↔ Pieces (fun p => takes (f p)) ps text := by
  induction ps generalizing text with
  | nil => rw [List.map_nil, pieces_nil_iff, pieces_nil_iff]
  | cons p ps ih => simp only [List.map_cons, pieces_cons_iff, ih]

/-- A text whose characters may stand for themselves stands for itself. -/
theorem pieces_self (itself : ∀ c ∈ text, takes c [c]) : Pieces takes text text := by
  induction text with
  | nil => exact .nil
  | cons c cs ih =>
    obtain ⟨first, others⟩ := List.forall_mem_cons.1 itself
    exact .cons first (ih others)

/-- Characters that take only themselves stand for one text. -/
theorem pieces_literal_iff (literal : ∀ p ∈ ps, ∀ piece, takes p piece ↔ piece = [p]) :
    Pieces takes ps text ↔ text = ps := by
  constructor
  · intro cut
    induction cut with
    | nil => rfl
    | cons here _ ih =>
      obtain ⟨first, others⟩ := List.forall_mem_cons.1 literal
      rw [(first _).1 here, ih others, List.singleton_append]
  · rintro rfl
    exact pieces_self fun c member => (literal c member [c]).2 rfl

/-- A character that takes only itself is met at least as often as it stands in the pattern. -/
theorem count_le_of_pieces {c : Char} (literal : ∀ piece, takes c piece → piece = [c])
    (cut : Pieces takes ps text) : ps.count c ≤ text.count c := by
  induction cut with
  | nil => exact Nat.le_refl _
  | @cons p ps piece rest here _ ih =>
    rw [List.count_append]
    by_cases same : p = c
    · subst same
      rw [literal piece here, List.count_cons_self, List.count_singleton_self]
      omega
    · rw [List.count_cons_of_ne same]
      omega

end RelDirectory.Text
