import RelDirectory.Proofs.Conversion

/-!
# Generalized times

A well-formed time has fourteen digits and a fraction of at most three.  A column keeps three
characters behind the seconds, the point among them, so of a fraction it keeps the hundredths
(`toColumnChars_body`), and these are what comes back (`toDirectory_toColumn`).
-/
set_option autoImplicit false
namespace RelDirectory

/-- A time as a directory writes it: the digits of its year, month, day, hour, minute and second,
and those of a fraction of a second. -/
structure GeneralizedTime where
  seconds : List Char
  fraction : List Char
  whole : seconds.length = 14
  short : fraction.length ≤ 3
  digits : ∀ c ∈ seconds ++ fraction, Text.isDigit c = true

namespace GeneralizedTime

/-- A fraction with its point, which is not there without digits. -/
def pointed : List Char → List Char
  | [] => []
  | d :: ds => '.' :: d :: ds

def body (g : GeneralizedTime) : List Char := g.seconds ++ pointed g.fraction

def text (g : GeneralizedTime) : String := String.ofList (g.body ++ ['Z'])

/-- The time without the thousandths of its fraction. -/
def hundredths (g : GeneralizedTime) : GeneralizedTime where
  seconds := g.seconds
  fraction := g.fraction.take 2
  whole := g.whole
  short := Nat.le_trans (List.length_take_le 2 _) (by decide)
  digits := by
    intro c member
    refine g.digits c (List.mem_append.2 ?_)
    exact (List.mem_append.1 member).imp_right List.mem_of_mem_take

variable (g : GeneralizedTime)

theorem take_pointed (ds : List Char) (kept : Nat) :
    (pointed ds).take (kept + 2) = pointed (ds.take (kept + 1)) := by
  cases ds <;> rfl

theorem pointed_injective {ds es : List Char} (same : pointed ds = pointed es) : ds = es := by
  cases ds <;> cases es <;> simp_all [pointed]

theorem take_body : g.body.take 17 = g.hundredths.body := by
  have kept : g.seconds.take 17 = g.seconds :=
    List.take_of_length_le (Nat.le_trans (Nat.le_of_eq g.whole) (by decide))
  rw [body, List.take_append, kept, g.whole, take_pointed]
  rfl

theorem own_of_mem_body {c : Char} (member : c ∈ g.body) :
    Text.isDigit c = true ∨ c = '.' := by
  rcases List.mem_append.1 member with inside | behind
  · exact Or.inl (g.digits c (List.mem_append_left _ inside))
  · cases fraction : g.fraction with
    | nil => simp [fraction, pointed] at behind
    | cons d ds =>
      rw [fraction, pointed] at behind
      rcases List.mem_cons.1 behind with point | digit
      · exact Or.inr point
      · exact Or.inl (g.digits c (List.mem_append_right _ (fraction ▸ digit)))

theorem inner_of_mem_body {c : Char} (member : c ∈ g.body) : Timestamp.Inner c :=
  Timestamp.inner_of_digit_or_point (g.own_of_mem_body member)

@[simp]
theorem toList_text : g.text.toList = g.body ++ ['Z'] := String.toList_ofList

theorem stripZulu_text : Timestamp.stripZulu g.text.toList = g.body := by
  rw [toList_text]
  exact Timestamp.stripZulu_zulus (fun _ member => (g.inner_of_mem_body member).1) 0 1

/-- What comes back is the time to its hundredths. -/
theorem toDirectory_toColumn :
    Timestamp.toDirectory (Timestamp.toColumn g.text) = g.hundredths.text := by
  have inner : ∀ c ∈ Timestamp.stripZulu g.text.toList, Timestamp.Inner c := by
    rw [stripZulu_text]
    exact fun _ => g.inner_of_mem_body
  rw [Timestamp.toDirectory, Timestamp.toColumn, String.toList_ofList,
    Timestamp.filter_toColumnChars inner, stripZulu_text, take_body]
  rfl

theorem body_eq_of_text_eq {g h : GeneralizedTime} (same : g.text = h.text) : g.body = h.body := by
  have lists := congrArg String.toList same
  rw [toList_text, toList_text] at lists
  exact List.append_cancel_right lists

theorem text_hundredths_iff : g.hundredths.text = g.text ↔ g.fraction.length ≤ 2 := by
  constructor
  · intro same
    have kept : g.fraction.take 2 = g.fraction :=
      pointed_injective (List.append_cancel_left (body_eq_of_text_eq same))
    rw [← kept]
    exact List.length_take_le 2 _
  · intro short
    have kept : g.hundredths.body = g.seconds ++ pointed (g.fraction.take 2) := rfl
    rw [text, text, kept, List.take_of_length_le short, body]

/-! ## What a column holds -/

/-- The characters between two places of the seconds. -/
def part (first last : Nat) : List Char := Timestamp.slice first last g.seconds

/-- The seconds as a column writes them, with the fraction that it keeps. -/
theorem toColumnChars_text : Timestamp.toColumnChars g.text.toList =
    g.part 0 4 ++ ['-'] ++ g.part 4 6 ++ ['-'] ++ g.part 6 8 ++ [' '] ++ g.part 8 10 ++ [':'] ++
      g.part 10 12 ++ [':'] ++ g.part 12 14 ++ pointed (g.fraction.take 2) := by
  have inside : ∀ first last, last ≤ 14 →
      Timestamp.slice first last g.body = g.part first last := by
    intro first last before
    rw [part, Timestamp.slice, Timestamp.slice, body,
      List.take_append_of_le_length (g.whole.symm ▸ before)]
  have behind : Timestamp.slice 14 17 g.body = pointed (g.fraction.take 2) := by
    rw [Timestamp.slice, take_body, body, ← g.whole]
    exact List.drop_left
  simp only [Timestamp.toColumnChars, stripZulu_text, behind, inside 0 4 (by decide),
    inside 4 6 (by decide), inside 6 8 (by decide), inside 8 10 (by decide),
    inside 10 12 (by decide), inside 12 14 (by decide)]

end GeneralizedTime

namespace Coercion

/-- A time that is stored comes back to its hundredths, so it comes back as it was exactly if its
fraction has no thousandths. -/
theorem toDirectory_generalizedTime (c : Coercion) (name : String) (g : GeneralizedTime)
    (kinded : c.kind name = .ok .timestamp) :
    ∃ w, c.toColumn name [g.text] = .ok w ∧ c.toDirectory name w = .ok [g.hundredths.text] ∧
      (c.toDirectory name w = .ok [g.text] ↔ g.fraction.length ≤ 2) := by
  have back : c.toDirectory name (.text (Timestamp.toColumn g.text)) =
      .ok [g.hundredths.text] := by
    rw [toDirectory, kinded, ← g.toDirectory_toColumn]
    rfl
  refine ⟨.text (Timestamp.toColumn g.text), ?_, back, ?_⟩
  · rw [toColumn, kinded]
    rfl
  · rw [back, ← g.text_hundredths_iff]
    simp

/-- A time with tenths comes back as it was. -/
theorem toDirectory_generalizedTime_tenths :
    timed.kind "time" = .ok .timestamp ∧ ∃ w,
      timed.toColumn "time" ["20230615120000.5Z"] = .ok w ∧
        timed.toDirectory "time" w = .ok ["20230615120000.5Z"] := by
  have kinded : timed.kind "time" = .ok .timestamp := by decide +kernel
  let g : GeneralizedTime :=
    ⟨"20230615120000".toList, "5".toList, rfl, by decide, List.all_eq_true.1 rfl⟩
  obtain ⟨w, stored, _, same⟩ := toDirectory_generalizedTime timed "time" g kinded
  have text : g.text = "20230615120000.5Z" := by decide +kernel
  rw [text] at stored same
  exact ⟨kinded, w, stored, same.2 (by decide)⟩

/-- A time with thousandths comes back without them. -/
theorem not_toDirectory_generalizedTime :
    ¬ ∀ (c : Coercion) (name : String) (g : GeneralizedTime) (w : Value),
      c.kind name = .ok .timestamp → c.toColumn name [g.text] = .ok w →
        c.toDirectory name w = .ok [g.text] := by
  intro always
  have kept := always timed "time"
    ⟨"20230615120000".toList, "123".toList, rfl, by decide, List.all_eq_true.1 rfl⟩
    (.text "2023-06-15 12:00:00.12") (by decide +kernel) (by decide +kernel)
  have cut : timed.toDirectory "time" (.text "2023-06-15 12:00:00.12") =
      .ok ["20230615120000.12Z"] := by decide +kernel
  rw [cut] at kept
  exact absurd kept (by decide +kernel)

end Coercion

end RelDirectory
