import Mathlib.Data.List.DropRight
import RelDirectory.Text.Blank
import RelDirectory.Text.Split

/-!
# Lines and pieces

Cutting undoes joining: a text is cut at the first separator (`cutAt_append`), and lines that are
joined by line feeds are found again, up to an empty last one (`lines_joined`).  Trimming takes
nothing from a text without blanks at its ends.
-/
set_option autoImplicit false
namespace RelDirectory.Text

variable {sep : Char} {before after : List Char}

/-! ## Cutting -/

theorem cutAt_append (free : sep ∉ before) (after : List Char) :
    cutAt sep (before ++ sep :: after) = some (before, after) := by
  induction before with
  | nil => exact if_pos rfl
  | cons c before ih =>
    rw [List.mem_cons, not_or] at free
    obtain ⟨other, rest⟩ := free
    rw [List.cons_append, cutAt, if_neg (Ne.symm other), ih rest]
    rfl

theorem cutAt_eq_some_iff {cs : List Char} :
    cutAt sep cs = some (before, after) ↔ cs = before ++ sep :: after ∧ sep ∉ before := by
  constructor
  · intro cut
    induction cs generalizing before with
    | nil => cases cut
    | cons c cs ih =>
      rw [cutAt] at cut
      split at cut
      · rename_i same
        cases cut
        rw [same]
        exact ⟨rfl, List.not_mem_nil⟩
      · rename_i other
        obtain ⟨⟨front, back⟩, found, joined⟩ := Option.map_eq_some_iff.1 cut
        cases joined
        obtain ⟨rfl, free⟩ := ih found
        exact ⟨rfl, by simp [Ne.symm other, free]⟩
  · rintro ⟨rfl, free⟩
    exact cutAt_append free after

theorem cutAt_of_free {cs : List Char} (free : sep ∉ cs) : cutAt sep cs = none := by
  cases cut : cutAt sep cs with
  | none => rfl
  | some parts =>
    rw [(cutAt_eq_some_iff.1 cut).1] at free
    simp at free

theorem split_eq_splitOn (sep : Char) (cs : List Char) : split sep cs = cs.splitOn sep := by
  induction cs with
  | nil => rfl
  | cons c cs ih =>
    rw [List.splitOn_cons_eq_if_modifyHead, split, ih]
    by_cases same : c = sep
    · rw [if_pos same, if_pos (beq_iff_eq.2 same)]
    · rw [if_neg same, if_neg (by simpa using same)]
      cases pieces : cs.splitOn sep with
      | nil => exact absurd pieces (List.splitOn_ne_nil sep cs)
      | cons piece pieces => rfl

/-- Lines that hold no line end are found again; a last line that is empty is none. -/
theorem lines_joined {ls : List (List Char)} (whole : ∀ l ∈ ls, '\n' ∉ l ∧ '\r' ∉ l) :
    lines (['\n'].intercalate ls) = ls ∨ lines (['\n'].intercalate ls) ++ [[]] = ls := by
  rcases List.eq_nil_or_concat ls with rfl | ⟨front, last, rfl⟩
  · exact Or.inl rfl
  · rw [List.concat_eq_append] at whole ⊢
    have pieces : split '\n' (['\n'].intercalate (front ++ [last])) = front ++ [last] := by
      rw [split_eq_splitOn, List.splitOn_intercalate '\n' (fun l member => (whole l member).1)
        (by simp)]
    have kept : (front.map fun l => if l.getLast? = some '\r' then l.dropLast else l) = front := by
      refine (List.map_congr_left ?_).trans (List.map_id front)
      intro l member
      refine if_neg fun ends => ?_
      exact (whole l (List.mem_append_left _ member)).2 (List.mem_of_getLast? ends)
    simp only [lines, pieces, List.dropLast_concat, List.getLast?_concat, kept]
    cases last with
    | nil => exact Or.inr rfl
    | cons c cs => exact Or.inl rfl

theorem split_append_sep {sep : Char} {piece : List Char} (free : sep ∉ piece) (rest : List Char) :
    split sep (piece ++ sep :: rest) = piece :: split sep rest := by
  induction piece with
  | nil => exact if_pos rfl
  | cons c piece ih =>
    rw [List.mem_cons, not_or] at free
    rw [List.cons_append, split, if_neg (Ne.symm free.1), ih free.2]

/-- The pieces on both sides of a separator are the pieces of the whole. -/
theorem split_append_cons (sep : Char) (before rest : List Char) :
    split sep (before ++ sep :: rest) = split sep before ++ split sep rest := by
  induction before with
  | nil => exact if_pos rfl
  | cons c before ih =>
    rw [List.cons_append, split, split, ih]
    split
    · rfl
    · obtain ⟨piece, pieces, held⟩ := List.exists_cons_of_ne_nil (split_ne_nil sep before)
      rw [held]
      rfl

theorem split_of_free {sep : Char} {piece : List Char} (free : sep ∉ piece) :
    split sep piece = [piece] := by
  induction piece with
  | nil => rfl
  | cons c piece ih =>
    rw [List.mem_cons, not_or] at free
    rw [split, if_neg (Ne.symm free.1), ih free.2]

theorem of_mem_split {sep : Char} {cs piece : List Char} (member : piece ∈ split sep cs) :
    sep ∉ piece ∧ piece ⊆ cs := by
  induction cs generalizing piece with
  | nil => simp_all [split]
  | cons c cs ih =>
    rw [split] at member
    split at member
    · rcases List.mem_cons.1 member with rfl | later
      · simp
      · exact ⟨(ih later).1, List.subset_cons_of_subset c (ih later).2⟩
    · rename_i other
      cases pieces : split sep cs with
      | nil => exact absurd pieces (split_ne_nil sep cs)
      | cons first pieces =>
        simp only [pieces, List.mem_cons] at member ih
        rcases member with rfl | later
        · obtain ⟨free, inside⟩ := ih (Or.inl rfl)
          refine ⟨?_, List.cons_subset_cons c inside⟩
          simp [Ne.symm other, free]
        · obtain ⟨free, inside⟩ := ih (Or.inr later)
          exact ⟨free, List.subset_cons_of_subset c inside⟩

/-- A line that ends loses a return at its end. -/
theorem lines_append {line : List Char} (free : '\n' ∉ line) (rest : List Char) :
    lines (line ++ '\n' :: rest) =
      (if line.getLast? = some '\r' then line.dropLast else line) :: lines rest := by
  obtain ⟨piece, pieces, split⟩ := List.exists_cons_of_ne_nil (split_ne_nil '\n' rest)
  simp only [lines, split_append_sep free, split, List.dropLast_cons_cons, List.map_cons,
    List.getLast?_cons_cons]
  cases (piece :: pieces).getLast? with
  | none => rfl
  | some last => cases last <;> rfl

theorem lines_of_free {line : List Char} (free : '\n' ∉ line) :
    lines line = if line = [] then [] else [line] := by
  rw [lines, split_of_free free]
  cases line <;> rfl

theorem of_mem_lines {cs line : List Char} (member : line ∈ lines cs) :
    '\n' ∉ line ∧ line ⊆ cs := by
  have ofPiece : ∀ piece ∈ split '\n' cs, line ⊆ piece → '\n' ∉ line ∧ line ⊆ cs := by
    intro piece held inside
    obtain ⟨free, whole⟩ := of_mem_split held
    exact ⟨fun feed => free (inside feed), List.Subset.trans inside whole⟩
  have ofEnded : line ∈ (split '\n' cs).dropLast.map
      (fun l => if l.getLast? = some '\r' then l.dropLast else l) →
      '\n' ∉ line ∧ line ⊆ cs := by
    intro ended
    obtain ⟨piece, held, rfl⟩ := List.mem_map.1 ended
    refine ofPiece piece (List.dropLast_subset _ held) ?_
    split
    · exact List.dropLast_subset piece
    · exact List.Subset.refl piece
  simp only [lines] at member
  split at member
  · rename_i c rest last
    rcases List.mem_append.1 member with ended | here
    · exact ofEnded ended
    · exact ofPiece _ (List.mem_of_getLast? last) (List.mem_singleton.1 here ▸ List.Subset.refl _)
  · exact ofEnded member

/-! ## Trimming -/

theorem trimStart_space (cs : List Char) : trimStart (' ' :: cs) = trimStart cs := rfl

theorem head?_trim {cs : List Char} {c : Char} (first : (trim cs).head? = some c) :
    isBlank c = false := by
  have start : trim cs <+: trimStart cs := List.rdropWhile_prefix isBlank (trimStart cs)
  have held : (trimStart cs).head? = some c := by
    obtain ⟨rest, whole⟩ := start
    rw [← whole, List.head?_append, first]
    rfl
  have solid := List.head?_dropWhile_not isBlank cs
  rw [← trimStart, held] at solid
  exact solid

theorem getLast?_trim {cs : List Char} {c : Char} (last : (trim cs).getLast? = some c) :
    isBlank c = false := by
  have nonempty : trim cs ≠ [] := by
    intro none
    rw [none] at last
    cases last
  have solid : ¬ isBlank ((trim cs).getLast nonempty) = true :=
    List.rdropWhile_last_not isBlank (trimStart cs) nonempty
  rw [List.getLast?_eq_some_getLast nonempty, Option.some.injEq] at last
  rwa [last, Bool.not_eq_true] at solid

/-- A text that neither begins nor ends with a blank is trimmed already. -/
theorem trim_of_ends {cs : List Char} (first : ∀ c ∈ cs.head?, isBlank c = false)
    (last : ∀ c ∈ cs.getLast?, isBlank c = false) : trim cs = cs := by
  have start : trimStart cs = cs := by
    cases cs with
    | nil => rfl
    | cons c rest => exact List.dropWhile_cons_of_neg (by simp [first c rfl])
  rw [trim, start]
  refine List.rdropWhile_eq_self_iff.2 ?_
  intro nonempty
  rw [last _ (List.getLast?_eq_some_getLast nonempty)]
  exact Bool.false_ne_true

theorem trim_of_free {cs : List Char} (free : ∀ c ∈ cs, isBlank c = false) : trim cs = cs :=
  trim_of_ends (fun c first => free c (List.mem_of_head? first)) fun c last =>
    free c (List.mem_of_getLast? last)

theorem trim_trim (cs : List Char) : trim (trim cs) = trim cs :=
  trim_of_ends (fun _ first => head?_trim first) fun _ last => getLast?_trim last

/-- Trimming takes blanks from both ends and nothing else. -/
theorem exists_trim (cs : List Char) : ∃ lead tail, cs = lead ++ trim cs ++ tail ∧
    (∀ c ∈ lead, isBlank c = true) ∧ ∀ c ∈ tail, isBlank c = true := by
  refine ⟨cs.takeWhile isBlank, (trimStart cs).rtakeWhile isBlank, ?_, ?_, ?_⟩
  · have ended : trim cs ++ (trimStart cs).rtakeWhile isBlank = trimStart cs :=
      List.rdropWhile_append_rtakeWhile
    rw [List.append_assoc, ended]
    exact List.takeWhile_append_dropWhile.symm
  · intro c member
    exact List.mem_takeWhile_imp member
  · intro c member
    exact List.mem_rtakeWhile_imp member

/-- A line end is a blank. -/
theorem oneLine_of_free {cs : List Char} (free : ∀ c ∈ cs, isBlank c = false) :
    '\n' ∉ cs ∧ '\r' ∉ cs := by
  refine ⟨?_, ?_⟩
  all_goals
    intro member
    exact absurd (free _ member) (by decide)

end RelDirectory.Text
