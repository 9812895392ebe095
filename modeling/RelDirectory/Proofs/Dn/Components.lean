import Mathlib.Data.List.Forall2
import RelDirectory.Dn
import RelDirectory.Proofs.Effect
import RelDirectory.Proofs.Lines

/-!
# Components of a name

A name is scanned one character after the other: only a comma outside quotes and behind no
backslash ends a component.  A text is `Whole` if no such comma stands in it and all its quotes and
escapes are closed.  The pieces of a name are whole texts that make up the name with commas
between them (`of_pieces`), and whole texts with commas between them are found again
(`pieces_joined`).  So a name is read if its components are whole and each of them is
(`parse_joined`), and in no other way (`parse_ok`).
-/
set_option autoImplicit false
namespace RelDirectory.Dn

/-! ## Scanning -/

/-- Where a scan stands: between quotes or not, and right behind an open backslash or not. -/
structure Mode where
  quoted : Bool
  escaped : Bool
deriving DecidableEq

namespace Mode

def start : Mode := ⟨false, false⟩

/-- One character further, unless the character ends the component. -/
def step (s : Mode) (c : Char) : Option Mode :=
  if s.escaped = true then some ⟨s.quoted, false⟩
  else if c = '\\' then some ⟨s.quoted, true⟩
  else if c = '"' then some ⟨!s.quoted, false⟩
  else if c = ',' ∧ s.quoted = false then none
  else some s

end Mode

def scan : Mode → List Char → Option Mode
  | s, [] => some s
  | s, c :: cs => (s.step c).bind (scan · cs)

/-- A text without a bare comma, in which every quote and every escape is closed. -/
def Whole (cs : List Char) : Prop := scan .start cs = some .start

instance (cs : List Char) : Decidable (Whole cs) :=
  inferInstanceAs (Decidable (scan .start cs = some .start))

theorem scan_append (s : Mode) (cs others : List Char) :
    scan s (cs ++ others) = (scan s cs).bind (scan · others) := by
  induction cs generalizing s with
  | nil => rfl
  | cons c cs ih =>
    rw [List.cons_append, scan, scan]
    cases s.step c with
    | none => rfl
    | some next => exact ih next

section Steps

variable {q : Bool} {c : Char}

theorem scan_escape (q : Bool) (c : Char) (cs : List Char) :
    scan ⟨q, false⟩ ('\\' :: c :: cs) = scan ⟨q, false⟩ cs := rfl

theorem scan_quote (q : Bool) (cs : List Char) :
    scan ⟨q, false⟩ ('"' :: cs) = scan ⟨!q, false⟩ cs := rfl

/-- A character that means nothing to the scan. -/
theorem scan_plain (slash : c ≠ '\\') (quote : c ≠ '"') (bare : ¬ (c = ',' ∧ q = false))
    (cs : List Char) : scan ⟨q, false⟩ (c :: cs) = scan ⟨q, false⟩ cs := by
  have stays : Mode.step ⟨q, false⟩ c = some ⟨q, false⟩ := by
    simp [Mode.step, slash, quote, bare]
  rw [scan, stays]
  rfl

/-- Behind an equals sign no escape is open. -/
theorem scan_equals (s : Mode) (cs : List Char) :
    scan s ('=' :: cs) = scan ⟨s.quoted, false⟩ cs := by
  obtain ⟨q, e⟩ := s
  cases e with
  | true => rfl
  | false => exact scan_plain (by decide) (by decide) (by simp) cs

/-- Blanks close an open escape and do nothing else. -/
theorem scan_blanks (s : Mode) {blanks : List Char}
    (blank : ∀ c ∈ blanks, Text.isBlank c = true) :
    scan s blanks = some ⟨s.quoted, s.escaped && blanks.isEmpty⟩ := by
  induction blanks generalizing s with
  | nil => simp [scan]
  | cons c blanks ih =>
    obtain ⟨here, there⟩ := List.forall_mem_cons.1 blank
    have next : s.step c = some ⟨s.quoted, false⟩ := by
      obtain ⟨q, e⟩ := s
      have slash : c ≠ '\\' := by
        rintro rfl
        exact absurd here (by decide)
      have quote : c ≠ '"' := by
        rintro rfl
        exact absurd here (by decide)
      have comma : c ≠ ',' := by
        rintro rfl
        exact absurd here (by decide)
      cases e <;> simp [Mode.step, slash, quote, comma]
    rw [scan, next, Option.bind_some, ih _ there]
    simp

end Steps

/-! ## Pieces -/

theorem prepend_prepend (cs others : List Char) (ps : List (List Char)) :
    prepend cs (prepend others ps) = prepend (cs ++ others) ps := by
  cases ps <;> simp [prepend]

theorem intercalate_prepend (sep cs : List Char) {ps : List (List Char)} (some : ps ≠ []) :
    sep.intercalate (prepend cs ps) = cs ++ sep.intercalate ps := by
  cases ps with
  | nil => exact absurd rfl some
  | cons p ps =>
    cases ps with
    | nil => simp [prepend]
    | cons next ps => simp [prepend, List.intercalate_cons_cons]

theorem ne_slash {c : Char} {cs : List Char} (last : c = '\\' → cs = [] → False)
    (escape : ∀ next rest, c = '\\' → cs = next :: rest → False) : c ≠ '\\' := by
  rintro rfl
  cases cs with
  | nil => exact last rfl rfl
  | cons next rest => exact escape next rest rfl rfl

/-- The pieces make up the text with commas between them.  The first one closes what was open,
and the others are whole. -/
theorem of_pieces {q : Bool} {cs : List Char} {ps : List (List Char)}
    (cut : pieces q cs = .ok ps) :
    ∃ first rest, ps = first :: rest ∧ [','].intercalate ps = cs ∧
      scan ⟨q, false⟩ first = some .start ∧ ∀ p ∈ rest, Whole p := by
  induction q, cs using pieces.induct generalizing ps with
  | case1 => cases cut
  | case2 q outside =>
    rw [Bool.not_eq_true] at outside
    subst outside
    cases cut
    exact ⟨[], [], rfl, rfl, rfl, nofun⟩
  | case3 => cases cut
  | case4 q c cs ih =>
    rw [pieces] at cut
    obtain ⟨ps, inner, rfl⟩ := map_ok cut
    obtain ⟨first, rest, rfl, joined, closes, whole⟩ := ih inner
    refine ⟨_, rest, rfl, ?_, closes, whole⟩
    rw [intercalate_prepend _ _ (List.cons_ne_nil _ _), joined]
    rfl
  | case5 q cs ih =>
    rw [pieces] at cut
    obtain ⟨ps, inner, rfl⟩ := map_ok cut
    obtain ⟨first, rest, rfl, joined, closes, whole⟩ := ih inner
    refine ⟨_, rest, rfl, ?_, closes, whole⟩
    rw [intercalate_prepend _ _ (List.cons_ne_nil _ _), joined]
    rfl
  | case6 q c cs last escape quote bare ih =>
    rw [pieces.eq_5 q c cs last escape quote, if_pos bare] at cut
    obtain ⟨rfl, rfl⟩ := bare
    obtain ⟨ps, inner, rfl⟩ := map_ok cut
    obtain ⟨first, rest, rfl, joined, closes, whole⟩ := ih inner
    refine ⟨[], first :: rest, rfl, ?_, rfl, List.forall_mem_cons.2 ⟨closes, whole⟩⟩
    rw [List.intercalate_cons_cons, joined]
    rfl
  | case7 q c cs last escape quote bare ih =>
    rw [pieces.eq_5 q c cs last escape quote, if_neg bare] at cut
    obtain ⟨ps, inner, rfl⟩ := map_ok cut
    obtain ⟨first, rest, rfl, joined, closes, whole⟩ := ih inner
    refine ⟨_, rest, rfl, ?_, ?_, whole⟩
    · rw [intercalate_prepend _ _ (List.cons_ne_nil _ _), joined]
      rfl
    · exact (scan_plain (ne_slash last escape) quote bare first).trans closes

theorem pieces_map_nil (q : Bool) (cs : List Char) :
    pieces q cs = (pieces q cs).map (prepend []) := by
  cases cut : pieces q cs with
  | error fault => rfl
  | ok ps =>
    obtain ⟨first, rest, rfl, _⟩ := of_pieces cut
    rfl

/-- A text that leads from one state of the quotes to another adds to the first piece behind it. -/
theorem pieces_append {q q' : Bool} {cs : List Char}
    (flows : scan ⟨q, false⟩ cs = some ⟨q', false⟩) (others : List Char) :
    pieces q (cs ++ others) = (pieces q' others).map (prepend cs) := by
  have further (front cs : List Char) : ((pieces q' others).map (prepend cs)).map (prepend front) =
      (pieces q' others).map (prepend (front ++ cs)) := by
    cases pieces q' others with
    | error fault => rfl
    | ok ps => exact congrArg Except.ok (prepend_prepend front cs ps)
  induction q, cs using pieces.induct with
  | case1 => cases flows; exact pieces_map_nil _ _
  | case2 q => cases flows; exact pieces_map_nil _ _
  | case3 => cases flows
  | case4 q c cs ih => exact (congrArg _ (ih flows)).trans (further ['\\', c] cs)
  | case5 q cs ih => exact (congrArg _ (ih flows)).trans (further ['"'] cs)
  | case6 q c cs last escape quote bare =>
    obtain ⟨rfl, rfl⟩ := bare
    cases flows
  | case7 q c cs last escape quote bare ih =>
    have slash := ne_slash last escape
    rw [scan_plain slash quote bare] at flows
    rw [List.cons_append,
      pieces.eq_5 q c _ (fun same _ => slash same) (fun _ _ same _ => slash same)
      quote, if_neg bare, ih flows, further]
    rfl

/-- Whole texts are found again between the commas. -/
theorem pieces_joined {ps : List (List Char)} (some : ps ≠ []) (whole : ∀ p ∈ ps, Whole p) :
    pieces false ([','].intercalate ps) = .ok ps := by
  induction ps with
  | nil => exact absurd rfl some
  | cons p ps ih =>
    obtain ⟨here, there⟩ := List.forall_mem_cons.1 whole
    cases ps with
    | nil =>
      have alone := pieces_append here []
      rw [List.append_nil] at alone
      rw [List.intercalate_singleton, alone]
      simp [pieces, Except.map, prepend]
    | cons next ps =>
      have rest : pieces false (',' :: [','].intercalate (next :: ps)) = .ok ([] :: next :: ps) :=
        congrArg (Except.map ([] :: ·)) (ih (List.cons_ne_nil next ps) there)
      rw [List.intercalate_cons_cons, List.append_assoc, List.singleton_append, pieces_append here,
        rest]
      simp [Except.map, prepend]

/-! ## Names -/

theorem mapM_ok_iff {ε α β : Type} {f : α → Except ε β} {xs : List α} {ys : List β} :
    xs.mapM f = .ok ys ↔ List.Forall₂ (fun x y => f x = .ok y) xs ys := by
  induction xs generalizing ys with
  | nil =>
    rw [List.forall₂_nil_left_iff]
    constructor
    · rintro ⟨⟩
      rfl
    · rintro rfl
      rfl
  | cons x xs ih =>
    rw [List.mapM_cons, List.forall₂_cons_left_iff]
    constructor
    · intro run
      obtain ⟨y, here, run⟩ := bind_ok run
      obtain ⟨ys, there, run⟩ := bind_ok run
      cases run
      exact ⟨y, ys, here, ih.1 there, rfl⟩
    · rintro ⟨y, ys, here, there, rfl⟩
      rw [here, ok_bind, ih.2 there]
      rfl

/-- What a component says: the name in front of the first equals sign and the value behind it, both
trimmed. -/
theorem rdn_ok_iff {component : List Char} {r : Rdn} :
    rdn component = .ok r ↔ ∃ before after, component = before ++ '=' :: after ∧ '=' ∉ before ∧
      Text.trim before ≠ [] ∧ r = ⟨String.ofList (Text.trim before),
        String.ofList (denote (Text.trim after)), String.ofList (Text.trim after)⟩ := by
  constructor
  · intro read
    rw [rdn] at read
    cases cut : Text.cutAt '=' component with
    | none => simp [cut] at read
    | some parts =>
      obtain ⟨before, after⟩ := parts
      obtain ⟨split, free⟩ := Text.cutAt_eq_some_iff.1 cut
      simp only [cut] at read
      split at read
      · cases read
      · rename_i named
        cases read
        exact ⟨before, after, split, free, by simpa using named, rfl⟩
  · rintro ⟨before, after, rfl, free, named, rfl⟩
    simp only [rdn, Text.cutAt_append free, List.isEmpty_iff, named, if_false]

theorem not_allBlank_of_rdn {component : List Char} {r : Rdn} (read : rdn component = .ok r) :
    Text.allBlank component = false := by
  obtain ⟨before, after, rfl, _⟩ := rdn_ok_iff.1 read
  have held : '=' ∈ before ++ '=' :: after := List.mem_append_right _ List.mem_cons_self
  have solid : Text.isBlank '=' = false := by decide
  cases blank : Text.allBlank (before ++ '=' :: after) with
  | false => rfl
  | true =>
    have contra := List.all_eq_true.1 blank '=' held
    rw [solid] at contra
    cases contra

/-- A name is read if its components are whole and each of them is read. -/
theorem parse_joined {ps : List (List Char)} {rdns : List Rdn} (whole : ∀ p ∈ ps, Whole p)
    (read : List.Forall₂ (fun p r => rdn p = .ok r) ps rdns) :
    parse (String.ofList ([','].intercalate ps)) = .ok rdns := by
  have cut : components ([','].intercalate ps) = .ok ps := by
    cases ps with
    | nil => rfl
    | cons p ps =>
      rw [components, pieces_joined (List.cons_ne_nil p ps) whole, ok_bind]
      cases read with
      | cons here _ =>
        cases ps with
        | nil =>
          simp only [not_allBlank_of_rdn here]
          rfl
        | cons next ps => rfl
  rw [parse, String.toList_ofList, cut, ok_bind, mapM_ok_iff]
  exact read

/-- A name that is read is blank and says nothing, or has whole components that are read. -/
theorem parse_ok {dn : String} {rdns : List Rdn} (accepted : parse dn = .ok rdns) :
    rdns = [] ∨ ∃ ps, [','].intercalate ps = dn.toList ∧ (∀ p ∈ ps, Whole p) ∧
      List.Forall₂ (fun p r => rdn p = .ok r) ps rdns := by
  rw [parse] at accepted
  obtain ⟨ps, cut, read⟩ := bind_ok accepted
  rw [mapM_ok_iff] at read
  rw [components] at cut
  obtain ⟨qs, split, cut⟩ := bind_ok cut
  obtain ⟨first, rest, rfl, joined, closes, whole⟩ := of_pieces split
  have all : ∀ p ∈ first :: rest, Whole p := List.forall_mem_cons.2 ⟨closes, whole⟩
  cases rest with
  | nil =>
    cases cut
    split at read
    · exact Or.inl (List.forall₂_nil_left_iff.1 read)
    · exact Or.inr ⟨_, joined, all, read⟩
  | cons next rest =>
    cases cut
    exact Or.inr ⟨_, joined, all, read⟩

end RelDirectory.Dn
