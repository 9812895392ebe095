import RelDirectory.Proofs.Replies

/-!
# Columns of whole numbers

A column of whole numbers holds the numbers of its size, with a sign or without one
(`WholeType.Holds`).  A number that fits a word with a sign is read as it is.  Any other stands in a
column of the greatest size without a sign, and its word is taken for one with a sign, so it is read
as another number (`valueOf_whole`, `wholeColumn_kept_iff`).

A `TINYINT(1)` column is none of these.  The server names its type `BOOLEAN`, and what it holds is
read as a truth value, so that no number but 0 and 1 is kept (`keeps_truth_iff`).
-/
set_option autoImplicit false
namespace RelDirectory

namespace Word64

theorem wrap_of_fits {n : Int} (fits : FitsSigned n) : wrap n = n := by
  simp only [FitsSigned, half] at fits
  rw [wrap, Int.bmod_def, count]
  split <;> omega

/-- A number that fits a word without a sign but none with one. -/
theorem wrap_of_great {n : Int} (great : ¬ FitsSigned n) (positive : 0 ≤ n) (word : n < count) :
    wrap n = n - count := by
  simp only [FitsSigned, half, count] at great word
  rw [wrap, Int.bmod_def, count]
  split <;> omega

end Word64

namespace Server

/-- The sizes of whole numbers. -/
inductive Size where
  | tiny
  | small
  | medium
  | normal
  | big
deriving DecidableEq

def Size.word : Size → String
  | .tiny => "TINYINT"
  | .small => "SMALLINT"
  | .medium => "MEDIUMINT"
  | .normal => "INT"
  | .big => "BIGINT"

/-- Half as many as there are numbers of the size. -/
def Size.half : Size → Nat
  | .tiny => 0x80
  | .small => 0x8000
  | .medium => 0x800000
  | .normal => 0x80000000
  | .big => Word64.half

/-- The types that the server names by a size, with a sign or without one: ten in all, and `BOOLEAN`
is not among them. -/
structure WholeType where
  size : Size
  signed : Bool
deriving DecidableEq

namespace WholeType

def name (t : WholeType) : String :=
  if t.signed then t.size.word else t.size.word ++ " UNSIGNED"

/-- The numbers that a column of the type holds. -/
def Holds (t : WholeType) (n : Int) : Prop :=
  if t.signed then -(t.size.half : Int) ≤ n ∧ n < t.size.half
  else 0 ≤ n ∧ n < 2 * (t.size.half : Int)

instance (t : WholeType) (n : Int) : Decidable (t.Holds n) :=
  inferInstanceAs (Decidable (if t.signed then _ else _))

/-- The only one of the ten types with numbers that do not fit a word with a sign. -/
def widest : WholeType := ⟨.big, false⟩

theorem typeOf_name (t : WholeType) : typeOf .mysql t.name = (t.name, .whole) := by
  obtain ⟨size, signed⟩ := t
  cases size <;> cases signed <;> decide

theorem half_le (size : Size) : size.half ≤ Word64.half := by
  cases size <;> decide

theorem half_le_of_ne_big {size : Size} (smaller : size ≠ .big) : 2 * size.half ≤ Word64.half := by
  cases size with
  | big => exact absurd rfl smaller
  | _ => decide

theorem fits_of_ne_widest {t : WholeType} (smaller : t ≠ widest) {n : Int} (holds : t.Holds n) :
    Word64.FitsSigned n := by
  obtain ⟨size, signed⟩ := t
  cases signed with
  | true =>
    have bound := half_le size
    simp only [Holds, if_true] at holds
    simp only [Word64.FitsSigned]
    omega
  | false =>
    have small : size ≠ .big := fun same => smaller (by rw [same, widest])
    have bound := half_le_of_ne_big small
    simp only [Holds, Bool.false_eq_true, if_false] at holds
    simp only [Word64.FitsSigned]
    omega

/-- A number that does not fit a word with a sign fits one without. -/
theorem word_of_great {t : WholeType} {n : Int} (holds : t.Holds n)
    (great : ¬ Word64.FitsSigned n) : 0 ≤ n ∧ n < Word64.count := by
  have only : t = widest := by
    by_contra smaller
    exact great (fits_of_ne_widest smaller holds)
  subst only
  exact holds

end WholeType

/-- A number is given as it is, or as null if it fits no word with a sign. -/
def Keeps (n : Int) (value : Value) : Prop :=
  value = .int n ∨ value = .null ∧ ¬ Word64.FitsSigned n

instance (n : Int) (value : Value) : Decidable (Keeps n value) :=
  inferInstanceAs (Decidable (_ ∨ _))

end Server

namespace Session

open Server (WholeType Keeps)

/-- What is read of a number in a column of its type. -/
theorem valueOf_whole {t : WholeType} {n : Int} (holds : t.Holds n) (name : String) :
    valueOf .mysql (⟨name, t.name⟩, .int n) =
      .int (if Word64.FitsSigned n then n else n - Word64.count) := by
  have read : valueOf .mysql (⟨name, t.name⟩, .int n) = .int (Word64.wrap n) := by
    rw [valueOf, if_neg (by simp), t.typeOf_name]
    rfl
  rw [read]
  split
  · rename_i fits
    rw [Word64.wrap_of_fits fits]
  · rename_i great
    obtain ⟨positive, word⟩ := t.word_of_great holds great
    rw [Word64.wrap_of_great great positive word]

theorem keeps_iff (n : Int) :
    Keeps n (.int (if Word64.FitsSigned n then n else n - Word64.count)) ↔
      Word64.FitsSigned n := by
  split
  · rename_i fits
    exact iff_of_true (Or.inl rfl) fits
  · rename_i great
    refine iff_of_false ?_ great
    rintro (same | ⟨none, _⟩)
    · have count : (0 : Int) < Word64.count := by decide
      have := Value.int.inj same
      omega
    · cases none

/-- What is read of a number in a column of truth values. -/
theorem valueOf_truth (name : String) (n : Int) :
    valueOf .mysql (⟨name, "BOOLEAN"⟩, .int n) = .int (if n ≠ 0 then 1 else 0) := by
  rw [valueOf, if_neg (by simp)]
  rfl

/-- A column of truth values keeps 0 and 1 and makes 1 of every other number. -/
theorem keeps_truth_iff (name : String) (n : Int) :
    Keeps n (valueOf .mysql (⟨name, "BOOLEAN"⟩, .int n)) ↔ n = 0 ∨ n = 1 := by
  rw [valueOf_truth]
  constructor
  · rintro (same | ⟨none, _⟩)
    · have := Value.int.inj same
      split at this
      · exact Or.inr this.symm
      · exact Or.inl this.symm
    · cases none
  · rintro (rfl | rfl)
    · exact Or.inl rfl
    · exact Or.inl rfl

/-- A row has the number under the name of the column, exactly if it fits a word with a sign.  So
of the ten types of whole numbers all but the widest one keep their numbers.  This says nothing of a
`TINYINT(1)` column, which the server names `BOOLEAN`: see `keeps_truth_iff`. -/
theorem wholeColumn_kept_iff (t : WholeType) (name table : String)
    (front : List (ResultColumn × Cell)) {back : List (ResultColumn × Cell)}
    (others : ∀ e ∈ back, e.1.name ≠ name) :
    let read (n : Int) : Option Value :=
      (ofCells .mysql table (front ++ (⟨name, t.name⟩, .int n) :: back)).get? name
    (∀ n, t.Holds n → ∃ value, read n = some value ∧ (Keeps n value ↔ Word64.FitsSigned n) ∧
        (¬ Word64.FitsSigned n → value = .int (n - Word64.count))) ∧
      ((∀ n value, t.Holds n → read n = some value → Keeps n value) ↔ t ≠ .widest) := by
  intro read
  have held {n : Int} (holds : t.Holds n) :
      read n = some (.int (if Word64.FitsSigned n then n else n - Word64.count)) :=
    (get?_ofCells .mysql table front (⟨name, t.name⟩, .int n) others).trans
      (congrArg some (valueOf_whole holds name))
  refine ⟨?_, ?_, ?_⟩
  · intro n holds
    exact ⟨_, held holds, keeps_iff n, fun great => by rw [if_neg great]⟩
  · rintro always rfl
    have holds : WholeType.widest.Holds Word64.half := by decide
    exact absurd ((keeps_iff _).1 (always _ _ holds (held holds))) (by decide)
  · intro smaller n value holds given
    rw [held holds, Option.some.injEq] at given
    rw [← given, keeps_iff]
    exact WholeType.fits_of_ne_widest smaller holds

/-- The greatest number that is kept in the widest column. -/
theorem wholeColumn_kept_iff_greatest :
    let t : WholeType := .widest
    let back : List (ResultColumn × Cell) := [(⟨"name", "VARCHAR"⟩, .null)]
    (∀ e ∈ back, e.1.name ≠ "uses") ∧ t.Holds 9223372036854775807 ∧ ∃ value,
      (ofCells .mysql "jansToken" ([] ++ (⟨"uses", t.name⟩, .int 9223372036854775807) :: back)).get?
        "uses" = some value ∧ Keeps 9223372036854775807 value := by
  intro t back
  have others : ∀ e ∈ back, e.1.name ≠ "uses" := by decide
  have holds : t.Holds 9223372036854775807 := by decide
  obtain ⟨value, read, keeps, _⟩ :=
    (wholeColumn_kept_iff t "uses" "jansToken" [] others).1 _ holds
  exact ⟨others, holds, value, read, keeps.2 (by decide)⟩

/-- The greatest number of the widest column is read as another number. -/
theorem not_wholeColumn_kept : ¬ ∀ (t : WholeType) (n : Int), t.Holds n → ∀ name,
    Keeps n (valueOf .mysql (⟨name, t.name⟩, .int n)) := by
  intro always
  exact absurd (always .widest 18446744073709551615 (by decide) "uses") (by decide +kernel)

end Session

end RelDirectory
