import Mathlib.Data.List.Forall2
import Mathlib.Logic.Relation
import RelDirectory.Proofs.Lines
import RelDirectory.Proofs.Ldif.Writing

/-!
# Change files laid out in another way

A line can be cut and go on in the next one behind a space, and comments can stand between lines
(`Relaid`).  What a text says is its logical lines, which `laid` gives in one pass from the end:
what goes on with the line in front, and the lines that begin here.  No step changes them
(`laid_of_relaid`), the reader finds just these (`texts_unfoldFrom_laid`), and it reads only them
and not their numbers (`records_of_texts`).  So neither the layout nor the line ends matter
(`read_relaid`).
-/
set_option autoImplicit false
namespace RelDirectory.Ldif

/-- A comment and the lines on which it goes on. -/
structure Comment where
  said : List Char
  folds : List (List Char)
  oneLine : ∀ piece ∈ said :: folds, '\n' ∉ piece

def Comment.lines (c : Comment) : List (List Char) := ('#' :: c.said) :: c.folds.map (' ' :: ·)

/-- The first line does not go on with a line in front of it. -/
def Begins (raws : List (List Char)) : Prop :=
  ∀ first, raws.head? = some first → first.head? ≠ some ' '

/-- One change of the layout: a line is cut in two, or a comment is put in front of a line that does
not go on with the one before, or behind the last line. -/
inductive Relaid : List (List Char) → List (List Char) → Prop
  | cut {start more : List Char} (front rest : List (List Char)) (first : start ≠ [])
      (second : more ≠ []) :
      Relaid (front ++ (start ++ more) :: rest) (front ++ start :: (' ' :: more) :: rest)
  | comment (c : Comment) {rest : List (List Char)} (front : List (List Char))
      (begins : Begins rest) : Relaid (front ++ rest) (front ++ c.lines ++ rest)

/-- Lines, seen from the one in front of them. -/
structure Laid where
  carried : List Char
  lines : List (List Char)

def laid : List (List Char) → Laid
  | [] => ⟨[], []⟩
  | (' ' :: more) :: raws => ⟨more ++ (laid raws).carried, (laid raws).lines⟩
  | ('#' :: _) :: raws => ⟨[], (laid raws).lines⟩
  | raw :: raws => ⟨[], (raw ++ (laid raws).carried) :: (laid raws).lines⟩

/-! ## Layouts that say the same -/

variable {raws rest : List (List Char)}

theorem laid_fold (more : List Char) (raws : List (List Char)) :
    laid ((' ' :: more) :: raws) = ⟨more ++ (laid raws).carried, (laid raws).lines⟩ := rfl

theorem laid_comment (said : List Char) (raws : List (List Char)) :
    laid (('#' :: said) :: raws) = ⟨[], (laid raws).lines⟩ := rfl

theorem laid_line {raw : List Char} (noFold : raw.head? ≠ some ' ')
    (noComment : raw.head? ≠ some '#') (raws : List (List Char)) :
    laid (raw :: raws) = ⟨[], (raw ++ (laid raws).carried) :: (laid raws).lines⟩ := by
  rcases raw with _ | ⟨c, cs⟩
  · rfl
  · rw [List.head?_cons, ne_eq, Option.some.injEq] at noFold noComment
    rw [laid]
    · intro more same
      exact noFold (List.cons.inj same).1
    · intro said same
      exact noComment (List.cons.inj same).1

/-- A line goes on with the one before, is a comment or stands for itself. -/
theorem line_cases (raw : List Char) :
    (∃ more, raw = ' ' :: more) ∨ (∃ said, raw = '#' :: said) ∨
      (raw.head? ≠ some ' ' ∧ raw.head? ≠ some '#') := by
  rcases raw with _ | ⟨c, cs⟩
  · exact Or.inr (Or.inr ⟨nofun, nofun⟩)
  · by_cases fold : c = ' '
    · exact Or.inl ⟨cs, by rw [fold]⟩
    · by_cases comment : c = '#'
      · exact Or.inr (Or.inl ⟨cs, by rw [comment]⟩)
      · exact Or.inr (Or.inr ⟨by simpa using fold, by simpa using comment⟩)

theorem laid_append {as bs : List (List Char)} (same : laid as = laid bs)
    (front : List (List Char)) : laid (front ++ as) = laid (front ++ bs) := by
  induction front with
  | nil => exact same
  | cons raw front ih =>
    rw [List.cons_append, List.cons_append]
    rcases line_cases raw with ⟨more, rfl⟩ | ⟨said, rfl⟩ | ⟨noFold, noComment⟩
    · rw [laid_fold, laid_fold, ih]
    · rw [laid_comment, laid_comment, ih]
    · rw [laid_line noFold noComment, laid_line noFold noComment, ih]

theorem laid_cut {start : List Char} (first : start ≠ []) (more : List Char)
    (raws : List (List Char)) :
    laid (start :: (' ' :: more) :: raws) = laid ((start ++ more) :: raws) := by
  have head : (start ++ more).head? = start.head? := List.head?_append_of_ne_nil _ first
  rcases line_cases start with ⟨more', rfl⟩ | ⟨said, rfl⟩ | ⟨noFold, noComment⟩
  · rw [List.cons_append, laid_fold, laid_fold, laid_fold, List.append_assoc]
  · rw [List.cons_append, laid_comment, laid_comment, laid_fold]
  · rw [laid_line noFold noComment, laid_fold, laid_line (head ▸ noFold) (head ▸ noComment),
      List.append_assoc]

theorem laid_folds (folds raws : List (List Char)) :
    (laid (folds.map (' ' :: ·) ++ raws)).lines = (laid raws).lines := by
  induction folds with
  | nil => rfl
  | cons more folds ih => rw [List.map_cons, List.cons_append, laid_fold, ih]

theorem carried_of_begins (begins : Begins raws) : (laid raws).carried = [] := by
  rcases raws with _ | ⟨raw, raws⟩
  · rfl
  · rcases line_cases raw with ⟨more, rfl⟩ | ⟨said, rfl⟩ | ⟨noFold, noComment⟩
    · exact absurd rfl (begins _ rfl)
    · rw [laid_comment]
    · rw [laid_line noFold noComment]

theorem laid_note (c : Comment) (begins : Begins rest) : laid (c.lines ++ rest) = laid rest := by
  have nothing := carried_of_begins begins
  rw [Comment.lines, List.cons_append, laid_comment, laid_folds, ← nothing]

theorem laid_of_relaid {as bs : List (List Char)} (step : Relaid as bs) : laid bs = laid as := by
  cases step with
  | cut front rest first second => exact laid_append (laid_cut first _ rest) front
  | comment c front begins =>
    rw [List.append_assoc]
    exact laid_append (laid_note c begins) front

/-- What every step keeps, apart from the logical lines. -/
structure Proper (raws : List (List Char)) : Prop where
  begins : Begins raws
  oneLine : ∀ raw ∈ raws, '\n' ∉ raw

theorem Begins.append {front as bs : List (List Char)} (begins : Begins (front ++ as))
    (here : front = [] → Begins bs) : Begins (front ++ bs) := by
  cases front with
  | nil => exact here rfl
  | cons raw front => exact begins

theorem Begins.of_append {as bs : List (List Char)} (begins : Begins (as ++ bs)) : Begins as := by
  intro first head
  exact begins first (by rw [List.head?_append, head, Option.some_or])

theorem Comment.oneLine_lines (c : Comment) : ∀ raw ∈ c.lines, '\n' ∉ raw := by
  intro raw member
  rcases List.mem_cons.1 member with rfl | fold
  · simpa using c.oneLine c.said List.mem_cons_self
  · obtain ⟨more, held, rfl⟩ := List.mem_map.1 fold
    simpa using c.oneLine more (List.mem_cons_of_mem _ held)

theorem Proper.relaid {as bs : List (List Char)} (proper : Proper as) (step : Relaid as bs) :
    Proper bs := by
  obtain ⟨begins, oneLine⟩ := proper
  cases step with
  | @cut start more front rest first second =>
    refine ⟨begins.append ?_, ?_⟩
    · rintro rfl _ ⟨⟩
      have head := begins _ rfl
      rwa [List.head?_append_of_ne_nil _ first] at head
    · intro raw member
      have cutLine := oneLine (start ++ more) (by simp)
      rw [List.mem_append, not_or] at cutLine
      simp only [List.mem_append, List.mem_cons] at member
      rcases member with held | rfl | rfl | held
      · exact oneLine raw (by simp [held])
      · exact cutLine.1
      · simpa using cutLine.2
      · exact oneLine raw (by simp [held])
  | @comment c rest front here =>
    rw [List.append_assoc]
    refine ⟨begins.append ?_, ?_⟩
    · rintro rfl _ ⟨⟩
      simp
    · intro raw member
      simp only [List.mem_append] at member
      rcases member with held | held | held
      · exact oneLine raw (List.mem_append_left _ held)
      · exact c.oneLine_lines raw held
      · exact oneLine raw (List.mem_append_right _ held)

theorem laid_of_relaids {as bs : List (List Char)} (proper : Proper as)
    (steps : Relation.ReflTransGen Relaid as bs) : Proper bs ∧ laid bs = laid as := by
  induction steps with
  | refl => exact ⟨proper, rfl⟩
  | tail _ step ih =>
    obtain ⟨proper, same⟩ := ih
    exact ⟨proper.relaid step, (laid_of_relaid step).trans same⟩

/-! ## Returns at the ends of lines -/

/-- The line less some returns at its end. -/
def Bare (raw bare : List Char) : Prop := ∃ n, raw = bare ++ List.replicate n '\r'

theorem Bare.refl (raw : List Char) : Bare raw raw := ⟨0, by simp⟩

theorem Bare.trans {raw bare barer : List Char} (one : Bare raw bare) (two : Bare bare barer) :
    Bare raw barer := by
  obtain ⟨n, rfl⟩ := one
  obtain ⟨m, rfl⟩ := two
  exact ⟨m + n, by rw [List.append_assoc, List.replicate_add]⟩

theorem bare_stripReturn (raw : List Char) : Bare raw (stripReturn raw) := by
  rw [stripReturn]
  split
  · rename_i ends
    exact ⟨1, (List.dropLast_append_getLast? '\r' ends).symm⟩
  · exact Bare.refl raw

theorem Bare.eq_of_free {raw bare : List Char} (same : Bare raw bare) (free : '\r' ∉ raw) :
    bare = raw := by
  obtain ⟨n, rfl⟩ := same
  rcases n with _ | n
  · simp
  · exact absurd (by simp) free

theorem Bare.of_cons {c : Char} {raw bare : List Char} (same : Bare (c :: raw) bare)
    (other : c ≠ '\r') : ∃ rest, bare = c :: rest ∧ Bare raw rest := by
  obtain ⟨n, whole⟩ := same
  rcases List.cons_eq_append_iff.1 whole with ⟨rfl, returns⟩ | ⟨rest, rfl, held⟩
  · have member : c ∈ List.replicate n '\r' := returns ▸ List.mem_cons_self
    exact absurd (List.eq_of_mem_replicate member) other
  · exact ⟨rest, rfl, n, held⟩

/-- Lines that lose returns at their ends are laid out in the same way, if the logical lines have no
returns.  Comments may have them. -/
theorem laid_bare {raws bares : List (List Char)} (same : List.Forall₂ Bare raws bares)
    (free : ∀ l ∈ (laid raws).lines, '\r' ∉ l) :
    (laid bares).lines = (laid raws).lines ∧
      ('\r' ∉ (laid raws).carried → (laid bares).carried = (laid raws).carried) := by
  induction same with
  | nil => exact ⟨rfl, fun _ => rfl⟩
  | @cons raw bare raws bares here _ ih =>
    rcases line_cases raw with ⟨more, rfl⟩ | ⟨said, rfl⟩ | ⟨noFold, noComment⟩
    · obtain ⟨bare, rfl, same⟩ := here.of_cons (by decide)
      obtain ⟨lines, carried⟩ := ih free
      refine ⟨lines, fun clean => ?_⟩
      rw [laid_fold, List.mem_append, not_or] at clean
      rw [laid_fold, laid_fold, same.eq_of_free clean.1, carried clean.2]
    · obtain ⟨bare, rfl, -⟩ := here.of_cons (by decide)
      exact ⟨(ih free).1, fun _ => rfl⟩
    · rw [laid_line noFold noComment] at free
      obtain ⟨clean, others⟩ := List.forall_mem_cons.1 free
      rw [List.mem_append, not_or] at clean
      obtain ⟨lines, carried⟩ := ih others
      rw [here.eq_of_free clean.1, laid_line noFold noComment, laid_line noFold noComment, lines,
        carried clean.2]
      exact ⟨rfl, fun _ => rfl⟩

/-! ## What the reader finds -/

/-- The logical lines when some have been found and `l` follows. -/
def Unfolding.attach (s : Unfolding) (l : Laid) : List (List Char) :=
  match s.inComment, s.lines with
  | false, last :: older => older.reverse.map Line.text ++ (last.text ++ l.carried) :: l.lines
  | _, found => found.reverse.map Line.text ++ l.lines

theorem attach_line (last : Line) (older : List Line) (l : Laid) :
    Unfolding.attach ⟨last :: older, false⟩ l =
      older.reverse.map Line.text ++ (last.text ++ l.carried) :: l.lines := rfl

theorem attach_uncarried (s : Unfolding) (ls : List (List Char)) :
    s.attach ⟨[], ls⟩ = s.lines.reverse.map Line.text ++ ls := by
  obtain ⟨found, inComment⟩ := s
  rcases inComment with _ | _
  · rcases found with _ | ⟨last, older⟩
    · rfl
    · rw [attach_line, List.append_nil, List.reverse_cons, List.map_append, List.append_assoc]
      rfl
  · rfl

/-- Something has been found with which a fold can go on. -/
def Unfolding.Started (s : Unfolding) : Prop := s.inComment = true ∨ s.lines ≠ []

theorem unfoldLine_fold (last : Line) (older : List Line) (number : Nat) (more : List Char) :
    unfoldLine ⟨last :: older, false⟩ number (' ' :: more) =
      ⟨⟨last.number, last.text ++ more⟩ :: older, false⟩ := rfl

theorem unfoldLine_skipped (found : List Line) (number : Nat) (more : List Char) :
    unfoldLine ⟨found, true⟩ number (' ' :: more) = ⟨found, true⟩ := rfl

theorem started_unfoldLine (s : Unfolding) (number : Nat) {raw : List Char}
    (begins : raw.head? ≠ some ' ') : (unfoldLine s number raw).Started := by
  rcases line_cases raw with ⟨more, rfl⟩ | ⟨said, rfl⟩ | ⟨noFold, noComment⟩
  · exact absurd rfl begins
  · exact Or.inl rfl
  · rw [unfoldLine_line noFold noComment]
    exact Or.inr (List.cons_ne_nil _ _)

theorem attach_unfoldLine (s : Unfolding) (number : Nat) {raw : List Char}
    (begins : raw.head? ≠ some ' ') (raws : List (List Char)) :
    (unfoldLine s number raw).attach (laid raws) = s.attach (laid (raw :: raws)) := by
  rcases line_cases raw with ⟨more, rfl⟩ | ⟨said, rfl⟩ | ⟨noFold, noComment⟩
  · exact absurd rfl begins
  · rw [laid_comment, attach_uncarried]
    rfl
  · rw [unfoldLine_line noFold noComment, attach_line, laid_line noFold noComment,
      attach_uncarried]

theorem texts_unfoldFrom_laid {s : Unfolding} (started : s.Started) (number : Nat)
    (raws : List (List Char)) :
    (unfoldFrom s number raws).map Line.text = s.attach (laid raws) := by
  induction raws generalizing s number with
  | nil =>
    rw [laid, attach_uncarried, List.append_nil]
    rfl
  | cons raw raws ih =>
    rw [unfoldFrom]
    by_cases fold : raw.head? = some ' '
    · obtain ⟨more, rfl⟩ := List.head?_eq_some_iff.1 fold
      obtain ⟨found, inComment⟩ := s
      rcases inComment with _ | _
      · rcases found with _ | ⟨last, older⟩
        · exact absurd started (by simp [Unfolding.Started])
        · -- the fold is added to the latest line
          rw [unfoldLine_fold, ih (Or.inr (List.cons_ne_nil _ _)), attach_line, attach_line,
            laid_fold, List.append_assoc]
      · rw [unfoldLine_skipped, ih started]
        rfl
    · rw [ih (started_unfoldLine s number fold), attach_unfoldLine s number fold]

/-- The logical lines of a text, in one pass from the end. -/
theorem texts_unfoldFrom_begins (begins : Begins raws) :
    (unfoldFrom ⟨[], false⟩ 1 raws).map Line.text = (laid raws).lines := by
  rcases raws with _ | ⟨raw, raws⟩
  · rfl
  · have first := begins raw rfl
    rw [unfoldFrom, texts_unfoldFrom_laid (started_unfoldLine _ _ first),
      attach_unfoldLine _ _ first]
    rfl

/-! ## Records without line numbers -/

theorem pair_of_text {line line' : Line} (same : line.text = line'.text) :
    (pair line).toOption.map (fun p => (p.name, p.value)) =
      (pair line').toOption.map fun p => (p.name, p.value) := by
  simp only [pair, same]
  cases Text.cutAt ':' line'.text with
  | none => rfl
  | some parts =>
    obtain ⟨before, after⟩ := parts
    simp only []
    split
    · rfl
    · -- only the warning of a URL has the number of the line
      split <;> rfl

theorem toOption_map {ε α β : Type} (result : Except ε α) (f : α → β) :
    (result.map f).toOption = result.toOption.map f := by
  cases result <;> rfl

theorem toOption_mapError {ε δ α : Type} (result : Except ε α) (f : ε → δ) :
    (result.mapError f).toOption = result.toOption := by
  cases result <;> rfl

/-- Which records there are depends on what the lines say, not on where they stand. -/
theorem records_of_texts {ls ls' : List Line} (same : ls.map Line.text = ls'.map Line.text)
    (current : Option ChangeRecord) :
    (records current ls).1.toOption = (records current ls').1.toOption := by
  induction ls generalizing ls' current with
  | nil =>
    cases List.map_eq_nil_iff.1 same.symm
    rfl
  | cons line ls ih =>
    obtain ⟨line', ls', rfl, here, there⟩ := List.map_eq_cons_iff.1 same.symm
    have ih := fun current => ih there.symm current
    by_cases empty : Text.allBlank line.text = true
    · rw [records_blank empty, records_blank (here ▸ empty), toOption_map, toOption_map, ih]
    · by_cases dash : line.text = ['-']
      · rw [records_dash dash, records_dash (here ▸ dash), ih]
      · have paired := pair_of_text here.symm
        cases told : pair line with
        | error fault =>
          cases told' : pair line' with
          | error fault' =>
            rw [records_of_fault told empty dash,
              records_of_fault told' (here ▸ empty) (here ▸ dash)]
            rfl
          | ok p' =>
            rw [told, told'] at paired
            cases paired
        | ok p =>
          cases told' : pair line' with
          | error fault' =>
            rw [told, told'] at paired
            cases paired
          | ok p' =>
            rw [told, told'] at paired
            obtain ⟨name, value⟩ := Prod.mk.inj (Option.some.inj paired)
            rw [records_of_pair told, records_of_pair told', name, value]
            cases current with
            | some record => exact ih _
            | none =>
              simp only []
              split
              · exact ih _
              · split
                · exact ih _
                · rfl

/-! ## Texts of lines -/

/-- Layout makes up no characters. -/
theorem laid_subset (raws : List (List Char)) :
    (laid raws).carried ⊆ raws.flatten ∧ ∀ l ∈ (laid raws).lines, l ⊆ raws.flatten := by
  induction raws with
  | nil => exact ⟨List.nil_subset _, nofun⟩
  | cons raw raws ih =>
    obtain ⟨carried, lines⟩ := ih
    have later : raws.flatten ⊆ (raw :: raws).flatten := List.subset_append_right _ _
    have lines := fun l member => List.Subset.trans (lines l member) later
    rcases line_cases raw with ⟨more, rfl⟩ | ⟨said, rfl⟩ | ⟨noFold, noComment⟩
    · refine ⟨List.append_subset.2 ⟨?_, List.Subset.trans carried later⟩, lines⟩
      rw [List.flatten_cons, List.cons_append]
      exact List.subset_cons_of_subset _ (List.subset_append_left _ _)
    · exact ⟨List.nil_subset _, lines⟩
    · rw [laid_line noFold noComment]
      refine ⟨List.nil_subset _, List.forall_mem_cons.2 ⟨?_, lines⟩⟩
      exact List.append_subset.2 ⟨List.subset_append_left _ _, List.Subset.trans carried later⟩

theorem laid_append_empty (raws : List (List Char)) :
    laid (raws ++ [[]]) = ⟨(laid raws).carried, (laid raws).lines ++ [[]]⟩ := by
  induction raws with
  | nil => rfl
  | cons raw raws ih =>
    rw [List.cons_append]
    rcases line_cases raw with ⟨more, rfl⟩ | ⟨said, rfl⟩ | ⟨noFold, noComment⟩
    · rw [laid_fold, laid_fold, ih]
    · rw [laid_comment, laid_comment, ih]
    · rw [laid_line noFold noComment, laid_line noFold noComment, ih, List.cons_append]

/-- The records that logical lines make. -/
def told (ls : List (List Char)) : Option (List ChangeRecord) :=
  (records none (ls.map (Line.mk 0))).1.toOption

theorem records_of_told {ls : List Line} {texts : List (List Char)}
    (found : ls.map Line.text = texts) : (records none ls).1.toOption = told texts := by
  refine records_of_texts ?_ none
  rw [found, List.map_map]
  exact (List.map_id texts).symm

theorem told_append_empty (ls : List (List Char)) : told (ls ++ [[]]) = told ls := by
  rw [told, List.map_append]
  exact congrArg Except.toOption (records_append_blank ⟨0, []⟩ rfl none _)

/-- What a text says, when its lines are known up to an empty last one. -/
theorem read_of_lines {text : String} {raws : List (List Char)} (begins : Begins raws)
    (found : (Text.lines text.toList).map stripReturn = raws ∨
      (Text.lines text.toList).map stripReturn ++ [[]] = raws) :
    (read text).1.toOption = told (laid raws).lines := by
  have raw : (read text).1.toOption = (records none (unfold text.toList)).1.toOption :=
    toOption_mapError _ _
  rw [raw, unfold]
  rcases found with rfl | rfl
  · exact records_of_told (texts_unfoldFrom_begins begins)
  · rw [laid_append_empty, told_append_empty]
    exact records_of_told (texts_unfoldFrom_begins begins.of_append)

/-- A text that consists of lines: each of them ends, or the last does not. -/
def Printed (eol : List Char) (raws : List (List Char)) (text : List Char) : Prop :=
  text = raws.flatMap (· ++ eol) ∨ text = eol.intercalate raws

variable {eol : List Char}

theorem lines_eol (ends : eol = ['\n'] ∨ eol = ['\r', '\n']) {raw : List Char}
    (free : '\n' ∉ raw) (rest : List Char) :
    ∃ bare, Bare raw bare ∧ Text.lines (raw ++ eol ++ rest) = bare :: Text.lines rest := by
  rcases ends with rfl | rfl
  · refine ⟨stripReturn raw, bare_stripReturn raw, ?_⟩
    rw [List.append_assoc]
    exact Text.lines_append free rest
  · refine ⟨raw, Bare.refl raw, ?_⟩
    have returned : '\n' ∉ raw ++ ['\r'] := by simpa using free
    have found := Text.lines_append returned rest
    rw [List.getLast?_concat, if_pos rfl, List.dropLast_concat] at found
    rw [← found]
    simp

theorem lines_flatMap (ends : eol = ['\n'] ∨ eol = ['\r', '\n'])
    (free : ∀ raw ∈ raws, '\n' ∉ raw) (rest : List Char) :
    ∃ bares, List.Forall₂ Bare raws bares ∧
      Text.lines (raws.flatMap (· ++ eol) ++ rest) = bares ++ Text.lines rest := by
  induction raws with
  | nil => exact ⟨[], .nil, rfl⟩
  | cons raw raws ih =>
    obtain ⟨here, there⟩ := List.forall_mem_cons.1 free
    obtain ⟨bares, same, found⟩ := ih there
    obtain ⟨bare, stripped, first⟩ := lines_eol ends here (raws.flatMap (· ++ eol) ++ rest)
    refine ⟨bare :: bares, .cons stripped same, ?_⟩
    rw [List.flatMap_cons, List.append_assoc, first, found, List.cons_append]

theorem intercalate_concat (eol : List Char) (front : List (List Char)) (last : List Char) :
    eol.intercalate (front ++ [last]) = front.flatMap (· ++ eol) ++ last := by
  induction front with
  | nil => simp
  | cons raw front ih =>
    rw [List.cons_append, List.intercalate_cons_of_ne_nil (by simp), ih]
    simp

theorem Bare.map_stripReturn {bares : List (List Char)} (same : List.Forall₂ Bare raws bares) :
    List.Forall₂ Bare raws (bares.map stripReturn) := by
  rw [List.forall₂_map_right_iff]
  exact same.imp fun _ bare stripped => stripped.trans (bare_stripReturn bare)

theorem lines_of_printed (ends : eol = ['\n'] ∨ eol = ['\r', '\n'])
    (free : ∀ raw ∈ raws, '\n' ∉ raw) {text : List Char} (printed : Printed eol raws text) :
    ∃ bares, List.Forall₂ Bare raws bares ∧
      ((Text.lines text).map stripReturn = bares ∨
        (Text.lines text).map stripReturn ++ [[]] = bares) := by
  rcases printed with rfl | rfl
  · obtain ⟨bares, same, found⟩ := lines_flatMap ends free []
    refine ⟨bares.map stripReturn, Bare.map_stripReturn same, Or.inl ?_⟩
    rw [List.append_nil] at found
    rw [found]
    exact congrArg (List.map stripReturn) (List.append_nil bares)
  · rcases List.eq_nil_or_concat raws with rfl | ⟨front, last, rfl⟩
    · exact ⟨[], .nil, Or.inl rfl⟩
    · rw [List.concat_eq_append] at free ⊢
      obtain ⟨freeFront, freeLast⟩ := List.forall_mem_append.1 free
      obtain ⟨bares, same, found⟩ := lines_flatMap ends freeFront last
      refine ⟨bares.map stripReturn ++ [stripReturn last],
        List.rel_append (Bare.map_stripReturn same) (.cons (bare_stripReturn last) .nil), ?_⟩
      rw [intercalate_concat, found, Text.lines_of_free (freeLast last (by simp)), List.map_append]
      split
      · rename_i empty
        rw [empty]
        exact Or.inr (by simp [stripReturn])
      · exact Or.inl rfl

/-! ## Layout does not matter -/

theorem Begins.bare {bares : List (List Char)} (begins : Begins raws)
    (same : List.Forall₂ Bare raws bares) : Begins bares := by
  cases same with
  | nil => exact begins
  | @cons raw bare raws bares here _ =>
    rintro _ ⟨⟩ fold
    obtain ⟨more, rfl⟩ := List.head?_eq_some_iff.1 fold
    obtain ⟨n, whole⟩ := here
    exact begins raw rfl (by rw [whole]; rfl)

/-- What a text of lines says, if its logical lines have no returns. -/
theorem read_printed (ends : eol = ['\n'] ∨ eol = ['\r', '\n']) (proper : Proper raws)
    (clean : ∀ l ∈ (laid raws).lines, '\r' ∉ l) {text : String}
    (printed : Printed eol raws text.toList) :
    (read text).1.toOption = told (laid raws).lines := by
  obtain ⟨bares, same, found⟩ := lines_of_printed ends proper.oneLine printed
  rw [read_of_lines (proper.begins.bare same) found, (laid_bare same clean).1]

/-- A text and what becomes of it by cutting lines and putting comments in, with either line end,
are read as the same records, or neither is read. -/
theorem read_relaid {text written : String} {eol : List Char} {raws : List (List Char)}
    (noReturn : '\r' ∉ text.toList) (begins : Begins (Text.lines text.toList))
    (relaid : Relation.ReflTransGen Relaid (Text.lines text.toList) raws)
    (ends : eol = ['\n'] ∨ eol = ['\r', '\n']) (printed : Printed eol raws written.toList) :
    (read written).1.toOption = (read text).1.toOption := by
  have free : ∀ raw ∈ Text.lines text.toList, '\r' ∉ raw :=
    fun raw member held => noReturn ((Text.of_mem_lines member).2 held)
  have bare : (Text.lines text.toList).map stripReturn = Text.lines text.toList := by
    refine (List.map_congr_left fun raw member => ?_).trans (List.map_id _)
    exact (bare_stripReturn raw).eq_of_free (free raw member)
  have clean : ∀ l ∈ (laid (Text.lines text.toList)).lines, '\r' ∉ l := by
    intro l member held
    obtain ⟨raw, inside, here⟩ := List.mem_flatten.1 ((laid_subset _).2 l member held)
    exact free raw inside here
  have start : Proper (Text.lines text.toList) :=
    ⟨begins, fun raw member => (Text.of_mem_lines member).1⟩
  obtain ⟨proper, same⟩ := laid_of_relaids start relaid
  rw [read_of_lines begins (Or.inl bare), ← same]
  exact read_printed ends proper (same ▸ clean) printed

def foldedNote : Comment where
  said := "no".toList ++ "te".toList
  folds := ["more".toList]
  oneLine := by decide

def briefText : String := "dn: o=jans\ndescription:: aGVsbG8=\n\ndn: o=x"

/-- Cuts between two colons, in a fold and in a comment that stands in front of the line. -/
def foldedText : String :=
  "dn: o=jans\r\n#no\r\n te\r\n more\r\ndescription:\r\n : aG\r\n VsbG8=\r\n\r\ndn: o=x\r\n"

theorem read_relaid_folded : (read foldedText).1.toOption = (read briefText).1.toOption ∧
    (read briefText).1.toOption =
      some [⟨"o=jans", [("description", ["hello"])]⟩, ⟨"o=x", []⟩] := by
  have lines : Text.lines briefText.toList = ["dn: o=jans".toList,
      "description:".toList ++ (": aG".toList ++ "VsbG8=".toList), [], "dn: o=x".toList] := by
    decide +kernel
  have steps : Relation.ReflTransGen Relaid (Text.lines briefText.toList)
      ["dn: o=jans".toList, '#' :: "no".toList, ' ' :: "te".toList, ' ' :: "more".toList,
        "description:".toList, ' ' :: ": aG".toList, ' ' :: "VsbG8=".toList, [],
        "dn: o=x".toList] := by
    rw [lines]
    refine .head (.cut ["dn: o=jans".toList] _ (by decide) (by decide)) ?_
    refine .head (@Relaid.cut (' ' :: ": aG".toList) _ ["dn: o=jans".toList, "description:".toList]
      _ (by decide) (by decide)) ?_
    refine .head (.comment foldedNote ["dn: o=jans".toList] ?_) ?_
    · rintro _ ⟨⟩
      decide
    · exact .single (@Relaid.cut ('#' :: "no".toList) _ ["dn: o=jans".toList] _ (by decide)
        (by decide))
  have begins : Begins (Text.lines briefText.toList) := by
    rw [lines]
    rintro _ ⟨⟩
    decide
  refine ⟨?_, by decide +kernel⟩
  exact read_relaid (by decide) begins steps (Or.inr rfl) (Or.inl (by decide +kernel))

end RelDirectory.Ldif
