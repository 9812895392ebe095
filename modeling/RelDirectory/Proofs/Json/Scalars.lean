import Mathlib.Tactic.IntervalCases
import RelDirectory.Json.Parser
import RelDirectory.Json.Printer
import RelDirectory.Proofs.Conversion

/-!
# Strings and numbers in JSON

What is written of a string is read as the same string (`string?_written`).  A number is `Legible`
if it is read as it was written; all whole numbers of 64 bits are (`legible_int`), and no other
whole number is ever read (`whole_of_value`).  Of the others some are not, since what is written
for them is the nearest decimal number and each step of reading rounds.  Either is written in digits
and a few marks (`inNumber_toString`, `inNumber_floatText`).
-/
set_option autoImplicit false
namespace RelDirectory.Json

open Read

/-! ## Strings -/

namespace Read

/-- The piece that a character is read as when it was written. -/
def pieceOf (c : Char) : Piece :=
  if c.toNat < 0x20 ∧ c ∉ ['\n', '\r', '\t', '\x08', '\x0c'] then .unit c.toNat else .char c

theorem pieces?_backslash {cs rest : List Char} {p : Piece} (read : escaped? cs = some (p, rest))
    (fuel : Nat) : pieces? (fuel + 1) ('\\' :: cs) =
      (pieces? fuel rest).map fun (ps, cs) => (p :: ps, cs) := by
  simp only [pieces?, read, Option.bind_eq_bind, Option.bind_some]
  cases pieces? fuel rest <;> rfl

/-- A character that does not stand for itself is written behind a backslash. -/
theorem escape_control (n : Nat) (control : n < 0x20) :
    ∃ cs, escape (Char.ofNat n) = '\\' :: cs ∧
      ∀ rest, escaped? (cs ++ rest) = some (pieceOf (Char.ofNat n), rest) := by
  interval_cases n
  all_goals exact ⟨_, rfl, fun _ => rfl⟩

theorem pieces?_escape (c : Char) (fuel : Nat) (rest : List Char) :
    pieces? (fuel + 1) (escape c ++ rest) =
      (pieces? fuel rest).map fun (ps, cs) => (pieceOf c :: ps, cs) := by
  by_cases control : c.toNat < 0x20
  · obtain ⟨cs, written, read⟩ := escape_control c.toNat control
    rw [Char.ofNat_toNat] at written read
    rw [written]
    exact pieces?_backslash (read rest) fuel
  · by_cases quote : c = '"'
    · subst quote
      exact pieces?_backslash rfl fuel
    · by_cases backslash : c = '\\'
      · subst backslash
        exact pieces?_backslash rfl fuel
      · have plain : escape c = [c] := by
          have not : ∀ other : Char, other.toNat < 0x20 → c ≠ other := by
            rintro _ low rfl
            exact control low
          simp [escape, quote, backslash, control, not '\n' (by decide), not '\r' (by decide),
            not '\t' (by decide), not '\x08' (by decide), not '\x0c' (by decide)]
        have own : pieceOf c = .char c := if_neg fun both => control both.1
        rw [plain, own, List.singleton_append]
        simp [pieces?, control]

theorem pieces?_written (cs rest : List Char) {fuel : Nat} (enough : cs.length < fuel) :
    pieces? fuel (cs.flatMap escape ++ '"' :: rest) = some (cs.map pieceOf, rest) := by
  induction cs generalizing fuel with
  | nil =>
    obtain ⟨fuel, rfl⟩ := Nat.exists_eq_add_one_of_ne_zero (Nat.ne_of_gt enough)
    rfl
  | cons c cs ih =>
    obtain ⟨fuel, rfl⟩ := Nat.exists_eq_add_one_of_ne_zero (Nat.ne_of_gt (Nat.zero_lt_of_lt enough))
    rw [List.flatMap_cons, List.append_assoc, pieces?_escape, ih (Nat.lt_of_succ_lt_succ enough)]
    rfl

theorem text?_unit {n : Nat} (control : n < 0x20) (ps : List Piece) :
    text? (.unit n :: ps) = (text? ps).map (Char.ofNat n :: ·) := by
  have low : ¬ (0xD800 ≤ n ∧ n ≤ 0xDFFF) := by omega
  have high : ¬ (0xD800 ≤ n ∧ n ≤ 0xDBFF) := by omega
  have tail : ¬ (0xDC00 ≤ n ∧ n ≤ 0xDFFF) := by omega
  cases ps with
  | nil => simp [text?, low]
  | cons p ps =>
    cases p with
    | char c => simp [text?, low]
    | unit m => rw [text?, if_neg high, if_neg tail]

theorem text?_written (cs : List Char) : text? (cs.map pieceOf) = some cs := by
  induction cs with
  | nil => rfl
  | cons c cs ih =>
    rw [List.map_cons, pieceOf]
    split
    · rename_i control
      rw [text?_unit control.1, ih, Char.ofNat_toNat]
      rfl
    · rw [text?, ih]
      rfl

theorem le_length_escaped (cs : List Char) : cs.length ≤ (cs.flatMap escape).length := by
  have some : ∀ c, 1 ≤ (escape c).length := by
    intro c
    unfold escape
    repeat' split
    all_goals simp
  induction cs with
  | nil => exact Nat.le_refl _
  | cons c cs ih =>
    rw [List.flatMap_cons, List.length_append, List.length_cons, Nat.add_comm]
    exact Nat.add_le_add (some c) ih

/-- A string is read as it was written. -/
theorem string?_written (s : String) (rest : List Char) :
    string? (s.toList.flatMap escape ++ '"' :: rest) = some (some s, rest) := by
  have enough : s.toList.length < (s.toList.flatMap escape ++ '"' :: rest).length + 1 := by
    have long := le_length_escaped s.toList
    rw [List.length_append]
    omega
  simp only [string?, pieces?_written s.toList rest enough, Option.map_some, text?_written,
    String.ofList_toList]

/-! ## Numbers -/

/-- What follows a number and is no part of it. -/
def Stops (rest : List Char) : Prop :=
  ∀ c ∈ rest.head?, Text.isDigit c = false ∧ c ≠ '.' ∧ c ≠ 'e' ∧ c ≠ 'E'

variable {cs after rest ds : List Char}

theorem digits_append (stops : Stops rest) (cs : List Char) :
    (cs ++ rest).takeWhile Text.isDigit = cs.takeWhile Text.isDigit ∧
      (cs ++ rest).dropWhile Text.isDigit = cs.dropWhile Text.isDigit ++ rest := by
  induction cs with
  | nil =>
    cases rest with
    | nil => exact ⟨rfl, rfl⟩
    | cons c rest =>
      have other := (stops c rfl).1
      simp [other]
  | cons c cs ih =>
    by_cases digit : Text.isDigit c = true
    · simp [digit, ih.1, ih.2]
    · simp [digit]

theorem someDigits?_append (stops : Stops rest) (read : someDigits? cs = some (ds, after)) :
    someDigits? (cs ++ rest) = some (ds, after ++ rest) := by
  obtain ⟨taken, dropped⟩ := digits_append stops cs
  rw [someDigits?] at read ⊢
  rw [taken, dropped]
  split at read
  · cases read
  · cases read
    rfl

theorem wholeDigits?_other {c : Char} (other : c ≠ '0') (cs : List Char) :
    wholeDigits? (c :: cs) = someDigits? (c :: cs) := by
  rw [wholeDigits?, someDigits?]
  rintro _ ⟨⟩
  exact other rfl

theorem wholeDigits?_append (stops : Stops rest) (read : wholeDigits? cs = some (ds, after)) :
    wholeDigits? (cs ++ rest) = some (ds, after ++ rest) := by
  cases cs with
  | nil => cases read
  | cons c cs =>
    by_cases zero : c = '0'
    · subst zero
      have next : ((cs ++ rest).head?.map Text.isDigit).getD false =
          (cs.head?.map Text.isDigit).getD false := by
        cases cs with
        | cons d cs => rfl
        | nil =>
          cases rest with
          | nil => rfl
          | cons d rest => simp [(stops d rfl).1]
      simp only [List.cons_append, wholeDigits?, next] at read ⊢
      split at read
      · cases read
      · rename_i alone
        cases read
        rw [if_neg alone]
    · rw [wholeDigits?_other zero] at read
      rw [List.cons_append, wholeDigits?_other zero]
      exact someDigits?_append stops read

theorem decimals?_other {c : Char} (other : c ≠ '.') (cs : List Char) :
    decimals? (c :: cs) = some (none, c :: cs) := by
  rw [decimals?]
  rintro _ ⟨⟩
  exact other rfl

theorem decimals?_append {fraction : Option (List Char)} (stops : Stops rest)
    (read : decimals? cs = some (fraction, after)) :
    decimals? (cs ++ rest) = some (fraction, after ++ rest) := by
  cases cs with
  | nil =>
    cases read
    cases rest with
    | nil => rfl
    | cons c rest => simp [decimals?, (stops c rfl).2.1]
  | cons c cs =>
    by_cases point : c = '.'
    · subst point
      obtain ⟨⟨ds, back⟩, digits, same⟩ := Option.map_eq_some_iff.1 read
      cases same
      rw [List.cons_append, decimals?, someDigits?_append stops digits]
      rfl
    · rw [decimals?_other point] at read
      cases read
      rw [List.cons_append, decimals?_other point]

theorem exponentDigits?_other {c : Char} (other : c ≠ '-' ∧ c ≠ '+') (cs : List Char) :
    exponentDigits? (c :: cs) =
      (someDigits? (c :: cs)).map fun (ds, cs) => ((false, ds), cs) := by
  rw [exponentDigits?]
  · rintro _ ⟨⟩
    exact other.1 rfl
  · rintro _ ⟨⟩
    exact other.2 rfl

theorem exponentDigits?_append {e : Bool × List Char} (stops : Stops rest)
    (read : exponentDigits? cs = some (e, after)) :
    exponentDigits? (cs ++ rest) = some (e, after ++ rest) := by
  have digits : ∀ {down : Bool} {cs : List Char},
      (someDigits? cs).map (fun (ds, cs) => ((down, ds), cs)) = some (e, after) →
        (someDigits? (cs ++ rest)).map (fun (ds, cs) => ((down, ds), cs)) =
          some (e, after ++ rest) := by
    intro down cs read
    obtain ⟨⟨ds, back⟩, digits, same⟩ := Option.map_eq_some_iff.1 read
    cases same
    rw [someDigits?_append stops digits]
    rfl
  cases cs with
  | nil => cases read
  | cons c cs =>
    by_cases minus : c = '-'
    · subst minus
      exact digits read
    · by_cases plus : c = '+'
      · subst plus
        exact digits read
      · rw [exponentDigits?_other ⟨minus, plus⟩] at read
        rw [List.cons_append, exponentDigits?_other ⟨minus, plus⟩]
        exact digits read

theorem exponent?_other {c : Char} (other : c ≠ 'e' ∧ c ≠ 'E') (cs : List Char) :
    exponent? (c :: cs) = some (none, c :: cs) := by
  rw [exponent?]
  · rintro _ ⟨⟩
    exact other.1 rfl
  · rintro _ ⟨⟩
    exact other.2 rfl

theorem exponent?_append {e : Option (Bool × List Char)} (stops : Stops rest)
    (read : exponent? cs = some (e, after)) :
    exponent? (cs ++ rest) = some (e, after ++ rest) := by
  have marked : ∀ {cs : List Char},
      (exponentDigits? cs).map (Prod.map some id) = some (e, after) →
        (exponentDigits? (cs ++ rest)).map (Prod.map some id) = some (e, after ++ rest) := by
    intro cs read
    obtain ⟨⟨own, back⟩, digits, same⟩ := Option.map_eq_some_iff.1 read
    cases same
    rw [exponentDigits?_append stops digits]
    rfl
  cases cs with
  | nil =>
    cases read
    cases rest with
    | nil => rfl
    | cons c rest =>
      have other := (stops c rfl).2.2
      simp [exponent?, other.1, other.2]
  | cons c cs =>
    by_cases lower : c = 'e'
    · subst lower
      exact marked read
    · by_cases upper : c = 'E'
      · subst upper
        exact marked read
      · rw [exponent?_other ⟨lower, upper⟩] at read
        cases read
        rw [List.cons_append, exponent?_other ⟨lower, upper⟩]

/-- The parts of a number behind its sign. -/
def unsigned? (negative : Bool) (cs : List Char) : Option (NumberText × List Char) := do
  let (whole, cs) ← wholeDigits? cs
  let (decimals, cs) ← decimals? cs
  let (exponent, cs) ← exponent? cs
  pure (⟨negative, whole, decimals, exponent⟩, cs)

theorem unsigned?_append {negative : Bool} {t : NumberText} (stops : Stops rest)
    (read : unsigned? negative cs = some (t, after)) :
    unsigned? negative (cs ++ rest) = some (t, after ++ rest) := by
  obtain ⟨⟨whole, cs₁⟩, first, read⟩ := Option.bind_eq_some_iff.1 read
  obtain ⟨⟨decimals, cs₂⟩, second, read⟩ := Option.bind_eq_some_iff.1 read
  obtain ⟨⟨exponent, cs₃⟩, third, read⟩ := Option.bind_eq_some_iff.1 read
  cases read
  simp only [unsigned?, wholeDigits?_append stops first, decimals?_append stops second,
    exponent?_append stops third, Option.bind_eq_bind, Option.bind_some]
  rfl

theorem number?_minus (cs : List Char) : number? ('-' :: cs) = unsigned? true cs := rfl

theorem number?_other {c : Char} (other : c ≠ '-') (cs : List Char) :
    number? (c :: cs) = unsigned? false (c :: cs) := by
  simp [number?, unsigned?, other]

/-- A number is read in front of anything that is no part of it. -/
theorem number?_append {t : NumberText} (stops : Stops rest)
    (read : number? cs = some (t, after)) : number? (cs ++ rest) = some (t, after ++ rest) := by
  cases cs with
  | nil => cases read
  | cons c cs =>
    by_cases minus : c = '-'
    · subst minus
      exact unsigned?_append stops read
    · rw [number?_other minus] at read
      rw [List.cons_append, number?_other minus]
      exact unsigned?_append stops read

/-- The characters that a number may start with. -/
def Leads (c : Char) : Prop := Text.isDigit c = true ∨ c = '-'

theorem head_of_number? {t : NumberText} (read : number? cs = some (t, after)) :
    ∃ c tail, cs = c :: tail ∧ Leads c := by
  cases cs with
  | nil => cases read
  | cons c tail =>
    refine ⟨c, tail, rfl, ?_⟩
    by_cases minus : c = '-'
    · exact Or.inr minus
    · rw [number?_other minus] at read
      obtain ⟨⟨whole, back⟩, first, _⟩ := Option.bind_eq_some_iff.1 read
      by_cases zero : c = '0'
      · exact Or.inl (zero ▸ rfl)
      · rw [wholeDigits?_other zero, someDigits?] at first
        cases digit : Text.isDigit c with
        | true => exact Or.inl digit
        | false => simp [digit] at first

end Read

/-- The number that is read where this one was written. -/
def reread (n : Number) : Option Number :=
  match number? (numberText n).toList with
  | some (t, []) => t.value
  | _ => none

/-- The number is read as it was written. -/
def Legible (n : Number) : Prop := reread n = some n

instance (n : Number) : Decidable (Legible n) := inferInstanceAs (Decidable (_ = _))

theorem number?_legible {n : Number} (legible : Legible n) :
    ∃ t, number? (numberText n).toList = some (t, []) ∧ t.value = some n := by
  rw [Legible, reread] at legible
  split at legible
  · rename_i t read
    exact ⟨t, read, legible⟩
  · cases legible

/-- The numbers that a word of 64 bits can hold, with a sign or without one. -/
def Whole (n : Int) : Prop := -(Word64.half : Int) ≤ n ∧ n < Word64.count

section Digits

open NumberText (Taken takeWhole)

theorem taken_whole {ds : List Char} {t : Taken} (open' : t.full = false)
    (fits : ds.foldl (fun n c => n * 10 + Text.digitValue c) t.significand < Word64.count) :
    ds.foldl takeWhole t =
      { t with significand := ds.foldl (fun n c => n * 10 + Text.digitValue c) t.significand } := by
  induction ds generalizing t with
  | nil => rfl
  | cons d ds ih =>
    have grows : ∀ (ds : List Char) (n : Nat),
        n ≤ ds.foldl (fun n c => n * 10 + Text.digitValue c) n := by
      intro ds
      induction ds with
      | nil => exact Nat.le_refl
      | cons d ds ih =>
        exact fun n => Nat.le_trans (show n ≤ n * 10 + Text.digitValue d by omega) (ih _)
    rw [List.foldl_cons] at fits ⊢
    have next : takeWhole t d =
        { t with significand := t.significand * 10 + Text.digitValue d } := by
      have small := Nat.lt_of_le_of_lt (grows ds _) fits
      rw [takeWhole, if_neg (by simp [open', small])]
    rw [next]
    exact ih (t := { t with significand := t.significand * 10 + Text.digitValue d }) open' fits

/-- The digits that are taken in never exceed a word. -/
theorem taken_lt (ds : List Char) {t : Taken} (fits : t.significand < Word64.count) :
    (ds.foldl takeWhole t).significand < Word64.count := by
  induction ds generalizing t with
  | nil => exact fits
  | cons d ds ih =>
    refine ih ?_
    rw [takeWhole]
    split
    · exact fits
    · rename_i small
      exact Nat.not_le.1 fun large => small (Or.inr large)

theorem taken_toDigits {n : Nat} (fits : n < Word64.count) :
    (Nat.toDigits 10 n).foldl takeWhole ⟨0, 0, false⟩ = ⟨n, 0, false⟩ := by
  have value : (Nat.toDigits 10 n).foldl (fun n c => n * 10 + Text.digitValue c) 0 = n := by
    have read := Text.ofDigits_toDigits n
    rwa [Text.ofDigits, List.foldl_map] at read
  rw [taken_whole rfl (by rwa [value]), value]

/-- A number that is not zero is written without a zero in front. -/
theorem head_toDigits {n : Nat} (positive : 0 < n) :
    ∃ d ds, Nat.toDigits 10 n = d :: ds ∧ d ≠ '0' := by
  induction n using Nat.strongRecOn with
  | ind n ih =>
    rw [Nat.toDigits_eq_if (by decide)]
    split
    · rename_i small
      refine ⟨Nat.digitChar n, [], rfl, ?_⟩
      intro zero
      have value := congrArg Char.toNat zero
      rw [Nat.toNat_digitChar_of_lt_ten small] at value
      change 48 + n = 48 at value
      omega
    · obtain ⟨d, ds, front, other⟩ := ih (n / 10) (by omega) (by omega)
      exact ⟨d, ds ++ [Nat.digitChar (n % 10)], by rw [front]; rfl, other⟩

theorem wholeDigits?_toDigits (n : Nat) :
    wholeDigits? (Nat.toDigits 10 n) = some (Nat.toDigits 10 n, []) := by
  rcases Nat.eq_zero_or_pos n with rfl | positive
  · rfl
  · obtain ⟨d, ds, digits, other⟩ := head_toDigits positive
    have all : ∀ c ∈ Nat.toDigits 10 n, Text.isDigit c = true := fun _ =>
      Text.isDigit_of_mem_toDigits
    rw [digits] at all ⊢
    rw [wholeDigits?_other other, someDigits?, List.takeWhile_eq_self_iff.2 all,
      List.dropWhile_eq_nil_iff.2 all]

theorem unsigned?_toDigits (negative : Bool) (n : Nat) :
    unsigned? negative (Nat.toDigits 10 n) =
      some (⟨negative, Nat.toDigits 10 n, none, none⟩, []) := by
  simp only [unsigned?, wholeDigits?_toDigits, Option.bind_eq_bind, Option.bind_some]
  rfl

end Digits

/-- Every whole number of 64 bits is read as it was written. -/
theorem legible_int {n : Int} (whole : Whole n) : Legible (.int n) := by
  rw [Legible, reread, numberText]
  cases n with
  | ofNat m =>
    have text : (toString (Int.ofNat m)).toList = Nat.toDigits 10 m :=
      Text.toList_toString_nonneg m
    have read : number? (Nat.toDigits 10 m) = unsigned? false (Nat.toDigits 10 m) := by
      obtain ⟨d, ds, digits⟩ := List.exists_cons_of_ne_nil (Nat.toDigits_ne_nil (n := m) (b := 10))
      have digit : Text.isDigit d = true :=
        Text.isDigit_of_mem_toDigits (n := m) (by simp [digits])
      rw [digits, number?_other (Text.ne_of_isDigit digit rfl)]
    have fits : m < Word64.count := Int.ofNat_lt.1 whole.2
    simp only [text, read, unsigned?_toDigits, NumberText.value, taken_toDigits fits]
    rfl
  | negSucc m =>
    have fits : m + 1 ≤ Word64.half := by
      have least := whole.1
      rw [Int.negSucc_eq] at least
      omega
    have small : m + 1 < Word64.count := Nat.lt_of_le_of_lt fits (by decide)
    have inside : ¬ (m + 1 = 0 ∨ Word64.half < m + 1) := by omega
    simp only [Text.toList_toString_neg, number?_minus, unsigned?_toDigits, NumberText.value,
      taken_toDigits small, inside]
    rfl

theorem binary_float {negative : Bool} {significand : Nat} {power : Int} {n : Number}
    (read : NumberText.binary negative significand power = some n) : ∃ x, n = .float x := by
  obtain ⟨x, _, read⟩ := Option.bind_eq_some_iff.1 read
  obtain ⟨y, _, read⟩ := Option.bind_eq_some_iff.1 read
  exact ⟨_, (Option.some.inj read).symm⟩

/-- A whole number that is read is one of 64 bits. -/
theorem whole_of_value {t : NumberText} {n : Int} (read : t.value = some (.int n)) : Whole n := by
  have taken := taken_lt t.whole (t := ⟨0, 0, false⟩) (by decide)
  have noBinary : ∀ {negative significand power},
      NumberText.binary negative significand power ≠ some (.int n) := by
    intro _ _ _ made
    obtain ⟨x, same⟩ := binary_float made
    cases same
  rw [NumberText.value] at read
  split at read
  · split at read
    · exact absurd read noBinary
    · split at read
      · cases read
        exact ⟨by omega, by exact_mod_cast taken⟩
      · split at read
        · exact absurd read noBinary
        · cases read
          rename_i bounds
          have half : (Word64.half : Int) ≤ Word64.count := by decide
          constructor <;> omega
  · -- with a fraction or an exponent no number is whole
    dsimp only at read
    repeat' split at read
    all_goals first | exact absurd read noBinary | cases read

/-! ## The characters of a number -/

/-- What is written of a number is made of digits and marks. -/
def InNumber (c : Char) : Prop := Text.isDigit c = true ∨ c = '-' ∨ c = '.' ∨ c = 'e'

theorem not_inNumber_s : ¬ InNumber 's' := by
  rintro (digit | minus | point | exponent)
  · cases digit
  · cases minus
  · cases point
  · cases exponent

theorem inNumber_toString {n : Int} {c : Char} (member : c ∈ (toString n).toList) : InNumber c := by
  cases n with
  | ofNat n =>
    have text : (toString (Int.ofNat n)).toList = Nat.toDigits 10 n := Text.toList_toString_nonneg n
    exact Or.inl (Text.isDigit_of_mem_toDigits (text ▸ member))
  | negSucc n =>
    rw [Text.toList_toString_neg] at member
    rcases List.mem_cons.1 member with rfl | digit
    · exact Or.inr (Or.inl rfl)
    · exact Or.inl (Text.isDigit_of_mem_toDigits digit)

theorem isDigit_of_mem_shortest {x : Binary64} {c : Char} (member : c ∈ x.shortest.digits) :
    Text.isDigit c = true := by
  have zero : c ∈ ['0'] → Text.isDigit c = true := by
    intro only
    rw [List.mem_singleton.1 only]
    rfl
  rw [Binary64.shortest] at member
  split at member
  · exact zero member
  · dsimp only at member
    split at member
    · have held := (List.dropWhile_sublist _).subset (List.mem_reverse.1 member)
      exact Text.isDigit_of_mem_toDigits (List.mem_reverse.1 held)
    · exact zero member

theorem inNumber_floatText (x : Binary64) : ∀ c ∈ (floatText x).toList, InNumber c := by
  have digits : ∀ c ∈ x.shortest.digits, InNumber c := fun c member =>
    Or.inl (isDigit_of_mem_shortest member)
  have taken : ∀ n, ∀ c ∈ x.shortest.digits.take n, InNumber c := fun _ c member =>
    digits c (List.mem_of_mem_take member)
  have left : ∀ n, ∀ c ∈ x.shortest.digits.drop n, InNumber c := fun _ c member =>
    digits c (List.mem_of_mem_drop member)
  have zero : InNumber '0' := Or.inl rfl
  have zeros : ∀ n, ∀ c ∈ List.replicate n '0', InNumber c := fun _ c member =>
    List.eq_of_mem_replicate member ▸ zero
  have minus : InNumber '-' := Or.inr (Or.inl rfl)
  have point : InNumber '.' := Or.inr (Or.inr (Or.inl rfl))
  have mark : InNumber 'e' := Or.inr (Or.inr (Or.inr rfl))
  have exponent : ∀ lead : Int, ∀ c ∈ (toString lead).toList, InNumber c := fun _ _ =>
    inNumber_toString
  have signed : ∀ body : List Char, (∀ c ∈ body, InNumber c) →
      ∀ c ∈ if x.negative then '-' :: body else body, InNumber c := by
    intro body inside
    split
    · exact List.forall_mem_cons.2 ⟨minus, inside⟩
    · exact inside
  rw [floatText, String.toList_ofList]
  refine signed _ ?_
  split
  · simp [zero, point]
  split
  · -- with an exponent, behind one digit or more
    dsimp only
    split <;> simp only [List.forall_mem_append, List.forall_mem_cons, List.not_mem_nil,
      false_imp_iff, implies_true, and_true]
    · exact ⟨taken 1, mark, exponent _⟩
    · exact ⟨⟨taken 1, point, left 1⟩, mark, exponent _⟩
  split
  · -- below one, with zeros behind the point
    simp only [List.forall_mem_append, List.forall_mem_cons, List.not_mem_nil, false_imp_iff,
      implies_true, and_true]
    exact ⟨⟨⟨zero, point⟩, zeros _⟩, digits⟩
  · -- positional, with at least one digit behind the point
    dsimp only
    simp only [List.forall_mem_append, List.forall_mem_cons]
    refine ⟨⟨taken _, zeros _⟩, point, ?_⟩
    split
    · simp [zero]
    · exact left _

end RelDirectory.Json
