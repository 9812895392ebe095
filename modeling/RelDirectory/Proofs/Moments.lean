import Mathlib.Algebra.Group.Nat.Defs
import RelDirectory.Proofs.Base64
import RelDirectory.Proofs.GeneralizedTime
import RelDirectory.Proofs.Replies

/-!
# Moments that a server gives back

A server gives a stored time back as a moment, and a session writes this again with no, three or
six digits of a fraction.  A stored time has at most two, so it is written as it was stored exactly
if it has none (`chars_time_iff`), and only then a record with this time finds its column up to date
(`replace_unchanged_iff`).
-/
set_option autoImplicit false
namespace RelDirectory

namespace Text

/-! ## Numbers of a fixed width -/

def number (ds : List Char) : Nat := ofDigits 10 (ds.map digitValue)

theorem number_concat (ds : List Char) (d : Char) :
    number (ds ++ [d]) = 10 * number ds + digitValue d := by
  rw [number, number, ofDigits, ofDigits, List.map_append, List.foldl_append, Nat.mul_comm]
  rfl

theorem digitValue_spec {c : Char} (digit : isDigit c = true) :
    digitValue c < 10 ∧ 48 + digitValue c = c.toNat := by
  have bounds : 48 ≤ c.toNat ∧ c.toNat ≤ 57 := by
    simpa [isDigit, Char.le_def, UInt32.le_iff_toNat_le] using digit
  have zero : '0'.toNat = 48 := rfl
  rw [digitValue, zero]
  omega

theorem digitChar_digitValue {c : Char} (digit : isDigit c = true) :
    Nat.digitChar (digitValue c) = c := by
  obtain ⟨below, whole⟩ := digitValue_spec digit
  apply Char.toNat_inj.1
  rw [Nat.toNat_digitChar_of_lt_ten below, whole]

theorem padded_append {width n d : Nat} (wide : 0 < width) (digit : d < 10) :
    padded (width + 1) (10 * n + d) = padded width n ++ [Nat.digitChar d] := by
  rcases Nat.eq_zero_or_pos n with rfl | positive
  · obtain ⟨before, rfl⟩ := Nat.exists_eq_succ_of_ne_zero (Nat.ne_of_gt wide)
    rw [Nat.mul_zero, Nat.zero_add, padded, padded, Nat.toDigits_of_lt_base digit,
      Nat.toDigits_of_lt_base (by decide)]
    exact congrArg (· ++ [Nat.digitChar d]) List.replicate_succ'
  · have digits := Nat.toDigits_append_toDigits (b := 10) (by decide) positive digit
    rw [Nat.toDigits_of_lt_base digit] at digits
    rw [padded, padded, ← digits, List.length_append, List.length_singleton,
      Nat.add_sub_add_right, List.append_assoc]

/-- Digits are the number that they write, padded to as many places. -/
theorem padded_number {ds : List Char} (some : ds ≠ []) (digits : ∀ c ∈ ds, isDigit c = true) :
    padded ds.length (number ds) = ds := by
  induction ds using List.reverseRecOn with
  | nil => exact absurd rfl some
  | append_singleton front d ih =>
    have last : isDigit d = true := digits d (by simp)
    have below := (digitValue_spec last).1
    cases front with
    | nil =>
      have single : number [d] = digitValue d := Nat.zero_add _
      rw [List.nil_append, single, padded, Nat.toDigits_of_lt_base below,
        digitChar_digitValue last]
      rfl
    | cons c rest =>
      have ahead := ih (List.cons_ne_nil c rest) fun c member =>
        digits c (List.mem_append_left _ member)
      rw [number_concat, List.length_append, List.length_singleton,
        padded_append (by simp) below, ahead, digitChar_digitValue last]

theorem number_lt {ds : List Char} (digits : ∀ c ∈ ds, isDigit c = true) :
    number ds < 10 ^ ds.length := by
  induction ds using List.reverseRecOn with
  | nil => exact Nat.one_pos
  | append_singleton front d ih =>
    have ahead := ih fun c member => digits c (List.mem_append_left _ member)
    have below := (digitValue_spec (digits d (by simp))).1
    rw [number_concat, List.length_append, List.length_singleton, Nat.pow_succ]
    omega

theorem le_length_padded (width n : Nat) : width ≤ (padded width n).length := by
  rw [padded, List.length_append, List.length_replicate]
  omega

theorem nat?_digits {ds : List Char} (some : ds ≠ []) (digits : ∀ c ∈ ds, isDigit c = true) :
    nat? ds = .some (number ds) := if_pos ⟨some, List.all_eq_true.2 digits⟩

end Text

namespace GeneralizedTime

open Text (number)
open Text.Calendar

variable (g : GeneralizedTime)

/-! ## The moment of a time -/

def date : Date := ⟨number (g.part 0 4), number (g.part 4 6), number (g.part 6 8)⟩

/-- The millionths of a second that a fraction is worth. -/
def micro (fraction : List Char) : Nat := number fraction * 10 ^ (6 - fraction.length)

def time : Time :=
  ⟨number (g.part 8 10), number (g.part 10 12), number (g.part 12 14), micro g.fraction⟩

/-- A day of the calendar and a time of day. -/
structure Real : Prop where
  day : g.date.isReal = true
  hour : g.time.isReal = true

/-- The text of the time in a column. -/
def column : String := Timestamp.toColumn g.text

theorem isDigit_of_mem_part {first last : Nat} {c : Char} (member : c ∈ g.part first last) :
    Text.isDigit c = true :=
  g.digits c (List.mem_append_left _ (List.mem_of_mem_take (List.mem_of_mem_drop member)))

theorem length_part (first : Nat) {last : Nat} (inside : last ≤ 14) :
    (g.part first last).length = last - first := by
  rw [part, Timestamp.slice, List.length_drop, List.length_take, g.whole, Nat.min_eq_left inside]

theorem part_ne_nil {first last : Nat} (some : first < last) (inside : last ≤ 14) :
    g.part first last ≠ [] := by
  intro none
  have length := g.length_part first inside
  rw [none, List.length_nil] at length
  omega

theorem not_mem_part {first last : Nat} {sep : Char} (other : Text.isDigit sep = false) :
    sep ∉ g.part first last := fun member =>
  absurd (g.isDigit_of_mem_part member) (by simp [other])

theorem nat?_part {first last : Nat} (some : first < last) (inside : last ≤ 14) :
    Text.nat? (g.part first last) = .some (number (g.part first last)) :=
  Text.nat?_digits (g.part_ne_nil some inside) fun _ => g.isDigit_of_mem_part

theorem padded_part {first last : Nat} (some : first < last) (inside : last ≤ 14) :
    Text.padded (last - first) (number (g.part first last)) = g.part first last := by
  rw [← g.length_part first inside]
  exact Text.padded_number (g.part_ne_nil some inside) fun _ => g.isDigit_of_mem_part

/-- The column's text is a date and a time of day with a blank between them. -/
theorem toList_column : g.column.toList =
    (g.part 0 4 ++ '-' :: (g.part 4 6 ++ '-' :: g.part 6 8)) ++ ' ' ::
      (g.part 8 10 ++ ':' :: (g.part 10 12 ++ ':' :: g.part 12 14)) ++
        pointed (g.fraction.take 2) := by
  rw [column, Timestamp.toColumn, String.toList_ofList, toColumnChars_text]
  simp

theorem date?_chars (real : g.date.isReal = true) :
    date? (g.part 0 4 ++ '-' :: (g.part 4 6 ++ '-' :: g.part 6 8)) = some g.date := by
  have split : Text.split '-' (g.part 0 4 ++ '-' :: (g.part 4 6 ++ '-' :: g.part 6 8)) =
      [g.part 0 4, g.part 4 6, g.part 6 8] := by
    rw [Text.split_append_sep (g.not_mem_part rfl), Text.split_append_sep (g.not_mem_part rfl),
      Text.split_of_free (g.not_mem_part rfl)]
  simp only [date?, split, g.nat?_part (show 0 < 4 by decide) (by decide),
    g.nat?_part (show 4 < 6 by decide) (by decide), g.nat?_part (show 6 < 8 by decide) (by decide)]
  exact if_pos real

/-- A fraction is read as its millionths, one that is not there as none. -/
theorem micros?_digits {ds : List Char} (short : ds.length ≤ 2)
    (digits : ∀ c ∈ ds, Text.isDigit c = true) :
    micros? (if ds = [] then ['0'] else ds) = some (micro ds) := by
  by_cases none : ds = []
  · subst none
    rfl
  · rw [if_neg none, micros?, Text.nat?_digits none digits]
    exact if_neg (by omega)

theorem time?_chars (real : g.time.isReal = true) :
    time? (g.part 8 10 ++ ':' :: (g.part 10 12 ++ ':' :: g.part 12 14) ++
      pointed (g.fraction.take 2)) = some g.hundredths.time := by
  have point : '.' ∉ g.part 8 10 ++ ':' :: (g.part 10 12 ++ ':' :: g.part 12 14) := by
    simp [g.not_mem_part (show Text.isDigit '.' = false from rfl)]
  have cut : ∀ ds, (Text.cutAt '.' (g.part 8 10 ++ ':' :: (g.part 10 12 ++ ':' :: g.part 12 14) ++
      pointed ds)).getD (g.part 8 10 ++ ':' :: (g.part 10 12 ++ ':' :: g.part 12 14) ++
        pointed ds, ['0']) =
      (g.part 8 10 ++ ':' :: (g.part 10 12 ++ ':' :: g.part 12 14),
        if ds = [] then ['0'] else ds) := by
    intro ds
    cases ds with
    | nil =>
      rw [pointed, List.append_nil, Text.cutAt_of_free point]
      rfl
    | cons c rest =>
      rw [pointed, Text.cutAt_append point]
      rfl
  have split : Text.split ':' (g.part 8 10 ++ ':' :: (g.part 10 12 ++ ':' :: g.part 12 14)) =
      [g.part 8 10, g.part 10 12, g.part 12 14] := by
    rw [Text.split_append_sep (g.not_mem_part rfl), Text.split_append_sep (g.not_mem_part rfl),
      Text.split_of_free (g.not_mem_part rfl)]
  have kept : micros? (if g.fraction.take 2 = [] then ['0'] else g.fraction.take 2) =
      some (micro (g.fraction.take 2)) :=
    micros?_digits (List.length_take_le 2 _) fun c member =>
      g.digits c (List.mem_append_right _ (List.mem_of_mem_take member))
  simp only [time?, cut, split, kept, g.nat?_part (show 8 < 10 by decide) (by decide),
    g.nat?_part (show 10 < 12 by decide) (by decide),
    g.nat?_part (show 12 < 14 by decide) (by decide)]
  exact if_pos real

/-- The column's text means the time to its hundredths. -/
theorem moment?_column (real : g.Real) :
    moment? g.column.toList = some (g.date, g.hundredths.time) := by
  have blank : ' ' ∉ g.part 0 4 ++ '-' :: (g.part 4 6 ++ '-' :: g.part 6 8) := by
    simp [g.not_mem_part (show Text.isDigit ' ' = false from rfl)]
  rw [moment?, toList_column, List.append_assoc, List.cons_append, Text.cutAt_append blank]
  simp only [g.date?_chars real.day, g.time?_chars real.hour]
  rfl

/-! ## The moment as it is written -/

theorem chars_date : g.date.chars = g.part 0 4 ++ '-' :: (g.part 4 6 ++ '-' :: g.part 6 8) := by
  have small : ¬ 9999 < g.date.year := by
    have digits : ∀ c ∈ g.part 0 4, Text.isDigit c = true := fun _ => g.isDigit_of_mem_part
    have below := Text.number_lt digits
    rw [g.length_part 0 (by decide)] at below
    exact Nat.not_lt.2 (Nat.le_of_lt_succ below)
  have year := g.padded_part (show 0 < 4 by decide) (by decide)
  have month := g.padded_part (show 4 < 6 by decide) (by decide)
  have day := g.padded_part (show 6 < 8 by decide) (by decide)
  rw [Date.chars, if_neg small]
  simp only [date] at *
  rw [year, month, day]
  simp

theorem chars_time : g.time.chars =
    g.part 8 10 ++ ':' :: (g.part 10 12 ++ ':' :: g.part 12 14) ++
      fractionChars (micro g.fraction) := by
  have hour := g.padded_part (show 8 < 10 by decide) (by decide)
  have minute := g.padded_part (show 10 < 12 by decide) (by decide)
  have second := g.padded_part (show 12 < 14 by decide) (by decide)
  rw [Time.chars]
  simp only [time]
  rw [hour, minute, second]
  simp

/-- A fraction of one or two digits is written with none or with more. -/
theorem fractionChars_iff {ds : List Char} (short : ds.length ≤ 2) :
    fractionChars (micro ds) = pointed ds ↔ ds = [] := by
  constructor
  · intro same
    cases ds with
    | nil => rfl
    | cons d rest =>
      have lengths := congrArg List.length same
      have three := Text.le_length_padded 3 (micro (d :: rest) / 1000)
      have six := Text.le_length_padded 6 (micro (d :: rest))
      rw [fractionChars, pointed] at lengths
      split at lengths
      · simp at lengths
      · split at lengths
        all_goals
          simp only [List.length_cons] at lengths short
          omega
  · rintro rfl
    rfl

/-- The moment is written as the column's text was exactly if the time has no fraction. -/
theorem chars_time_iff :
    String.ofList (g.date.chars ++ [' '] ++ g.hundredths.time.chars) = g.column ↔
      g.fraction = [] := by
  have kept : g.hundredths.time.chars =
      g.part 8 10 ++ ':' :: (g.part 10 12 ++ ':' :: g.part 12 14) ++
        fractionChars (micro (g.fraction.take 2)) := g.hundredths.chars_time
  have same : String.ofList (g.date.chars ++ [' '] ++ g.hundredths.time.chars) = g.column ↔
      fractionChars (micro (g.fraction.take 2)) = pointed (g.fraction.take 2) := by
    rw [← String.toList_inj, String.toList_ofList, toList_column, g.chars_date, kept]
    simp
  rw [same, fractionChars_iff (List.length_take_le 2 _)]
  simp

/-- The cell holds the moment that the column's text means. -/
def Denotes (cell : Cell) : Prop :=
  ∃ content text, cell = .bytes content ∧ Text.Utf8.decode? content = some text ∧
    moment? text.toList = moment? g.column.toList

end GeneralizedTime

namespace Server

/-- The types of columns that hold a date with a time of day. -/
def momentTypes : Backend → List String
  | .mysql => ["DATETIME", "TIMESTAMP"]
  | .pgsql => ["TIMESTAMP", "TIMESTAMPTZ"]

/-- The session makes nothing of such a column. -/
def Unread (b : Backend) (type : String) : Prop := b = .mysql ∧ type = "TIMESTAMP"

instance (b : Backend) (type : String) : Decidable (Unread b type) :=
  inferInstanceAs (Decidable (_ ∧ _))

theorem decoding_momentTypes {b : Backend} {type : String} (member : type ∈ momentTypes b) :
    (typeOf b type).2 = if Unread b type then .nothing else .moment := by
  cases b
  all_goals
    simp only [momentTypes, List.mem_cons, List.not_mem_nil, or_false] at member
    rcases member with rfl | rfl <;> decide

end Server

namespace Session

/-- What the server gives back of a stored time is its text in the column exactly if the time has
no fraction and the session reads the column. -/
theorem valueOf_moment_iff {g : GeneralizedTime} (real : g.Real) {b : Backend}
    (column : ResultColumn) (typed : column.type ∈ Server.momentTypes b) {cell : Cell}
    (denotes : g.Denotes cell) :
    valueOf b (column, cell) = .text g.column ↔
      g.fraction = [] ∧ ¬ Server.Unread b column.type := by
  obtain ⟨content, text, rfl, decoded, same⟩ := denotes
  have decoding := Server.decoding_momentTypes typed
  rw [valueOf, if_neg (by simp)]
  simp only [decoding]
  by_cases unread : Server.Unread b column.type
  · rw [if_pos unread]
    simp [Server.decode?, unread]
  · have written : Server.decode? b .moment (.bytes content) = some (.text (String.ofList
        (g.date.chars ++ [' '] ++ g.hundredths.time.chars))) := by
      simp only [Server.decode?, decoded, Option.bind_eq_bind, Option.bind_some, same,
        g.moment?_column real]
      rfl
    rw [if_neg unread, written, Option.getD_some, Value.text.injEq, g.chars_time_iff]
    simp [unread]

end Session

namespace Ldif

open Step

/-! ## Records that find their column up to date -/

theorem effect_writeColumn_iff {σ : Type} [Store σ] (t : Table) (row : Row) (dn column : String)
    (value : Value) (d : Directory σ) :
    effect (writeColumn t row dn column value) d = (.ok .unchanged, d) ↔
      row.get? column = some value := by
  by_cases held : row.get? column = some value
  · simp [writeColumn, held]
  · simp only [writeColumn, held, if_false, iff_false, effect_bind]
    cases run : effect (Directory.updateColumn t (row.dn?.getD dn) column value) d with
    | mk result d' => cases result <;> simp

/-- A record that replaces a time compares its text in the column with what the row holds. -/
theorem effect_replace_time {d d' : Directory Session} {r : ChangeRecord} {name : String}
    {g : GeneralizedTime} {rest : List String} {row : Row} {t : Table}
    (replaces : r.operation = .replace name) (given : r.values? name = some (g.text :: rest))
    (kinded : d.coercion.kind name = .ok .timestamp)
    (found : effect (locate r.dn) d = (.ok (some (row, t)), d')) (stored : t.hasColumn name) :
    effect (applyRecord r) d = effect (writeColumn t row r.dn name (.text g.column)) d' := by
  have values : changedValues r name = .ok (g.text :: rest) := by rw [changedValues, given]
  have coerced : d.coercion.toColumn name (g.text :: rest) = .ok (.text g.column) := by
    rw [Coercion.toColumn, kinded]
    rfl
  have value : effect (Directory.coerce name (g.text :: rest)) d = (.ok (.text g.column), d) := by
    simp only [Directory.coerce, effect_bind, effect_current, effect_ofExcept, coerced]
    rfl
  rw [applyRecord, replaces]
  simp only [replaceAttribute, effect_bind, effect_ofExcept, values, value, found, stored, if_true]

/-- The row of an entry is made of a reply, and a record that replaces a time by the one that the
reply means finds it up to date exactly if the time has no fraction and the session reads the
column. -/
theorem replace_unchanged_iff (d d' : Directory Session) (r : ChangeRecord) (name : String)
    (g : GeneralizedTime) (rest : List String) (row : Row) (t : Table) (real : g.Real)
    (replaces : r.operation = .replace name) (given : r.values? name = some (g.text :: rest))
    (kinded : d.coercion.kind name = .ok .timestamp)
    (found : effect (locate r.dn) d = (.ok (some (row, t)), d')) (stored : t.hasColumn name) :
    ∃ table columns rows cells, .rows columns rows ∈ d.store.script.replies ∧ cells ∈ rows ∧
      row = Session.ofCells d.backend table (columns.zip cells) ∧
      ∀ front type cell back, columns.zip cells = front ++ (⟨name, type⟩, cell) :: back →
        (∀ later ∈ back, later.1.name ≠ name) → type ∈ Server.momentTypes d.backend →
        g.Denotes cell →
          (Session.valueOf d.backend (⟨name, type⟩, cell) = .text g.column ↔
            g.fraction = [] ∧ ¬ Server.Unread d.backend type) ∧
          (effect (applyRecord r) d = (.ok .unchanged, d') ↔
            g.fraction = [] ∧ ¬ Server.Unread d.backend type) := by
  have expects : Directory.Expects d.backend d.store.script.replies d :=
    ⟨rfl, List.Subset.refl _⟩
  obtain ⟨table, columns, rows, cells, reply, inside, made⟩ :=
    (Directory.gives_locate r.dn d expects).2 _ (congrArg Prod.fst found) _ rfl
  refine ⟨table, columns, rows, cells, reply, inside, made, ?_⟩
  intro front type cell back split others typed denotes
  have same := Session.valueOf_moment_iff real ⟨name, type⟩ typed denotes
  have held : row.get? name = some (Session.valueOf d.backend (⟨name, type⟩, cell)) := by
    have last := Session.get?_ofCells d.backend table front (⟨name, type⟩, cell) others
    rwa [← split, ← made] at last
  refine ⟨same, ?_⟩
  rw [effect_replace_time replaces given kinded found stored, effect_writeColumn_iff, held,
    Option.some.injEq, same]

def answeredColumns : List ResultColumn := [⟨"dn", "VARCHAR"⟩, ⟨"time", "DATETIME"⟩]

def answeredCells (time : String) : List Cell :=
  [.bytes (Text.Utf8.encode "inum=1,o=jans"), .bytes (Text.Utf8.encode time)]

def answeredRow (time : String) : Row :=
  Session.ofCells .mysql "events" (answeredColumns.zip (answeredCells time))

def events : Table := ⟨"events", [⟨"dn", "varchar"⟩, ⟨"time", "datetime"⟩]⟩

/-- A directory with one table, whose server replies with one row and then takes a change. -/
def answering (time : String) : Directory Session where
  store :=
    ⟨.mysql, ⟨none, none, none, [.rows answeredColumns [answeredCells time], .affected 1]⟩, []⟩
  catalog := Coercion.timed.catalog
  tables := some (.ofList [("events", events)])

def replacing (time : String) : ChangeRecord :=
  ⟨"inum=1,o=jans", [("changetype", ["modify"]), ("replace", ["time"]), ("time", [time])]⟩

theorem cells_answering {time : String} {columns : List ResultColumn} {rows : List (List Cell)}
    {cells : List Cell} (reply : .rows columns rows ∈ (answering time).store.script.replies)
    (inside : cells ∈ rows) : columns = answeredColumns ∧ cells = answeredCells time := by
  have only : columns = answeredColumns ∧ rows = [answeredCells time] := by
    simpa [answering] using reply
  obtain ⟨rfl, rfl⟩ := only
  exact ⟨rfl, List.mem_singleton.1 inside⟩

/-- A time without a fraction is found up to date. -/
theorem replace_unchanged_whole :
    let d := answering "2023-06-15 12:00:00"
    let r := replacing "20230615120000Z"
    let g : GeneralizedTime :=
      ⟨"20230615120000".toList, [], rfl, by decide, List.all_eq_true.1 rfl⟩
    g.Real ∧ r.operation = .replace "time" ∧ r.values? "time" = some [g.text] ∧
      d.coercion.kind "time" = .ok .timestamp ∧
      ∃ d' row t, effect (locate r.dn) d = (.ok (some (row, t)), d') ∧ t.hasColumn "time" ∧
        effect (applyRecord r) d = (.ok .unchanged, d') := by
  intro d r g
  have real : g.Real := ⟨by decide +kernel, by decide +kernel⟩
  have replaces : r.operation = .replace "time" := by decide +kernel
  have given : r.values? "time" = some [g.text] := by decide +kernel
  have kinded : d.coercion.kind "time" = .ok .timestamp := by decide +kernel
  have located : (effect (locate r.dn) d).1 =
      .ok (some (answeredRow "2023-06-15 12:00:00", events)) := by decide +kernel
  have found := Prod.ext (y := (_, (effect (locate r.dn) d).2)) located rfl
  obtain ⟨table, columns, rows, cells, reply, inside, _, exact⟩ := replace_unchanged_iff d _ r
    "time" g [] _ _ real replaces given kinded found (by decide +kernel)
  refine ⟨real, replaces, given, kinded, _, _, _, found, by decide +kernel, ?_⟩
  obtain ⟨rfl, rfl⟩ := cells_answering reply inside
  have denotes : g.Denotes (.bytes (Text.Utf8.encode "2023-06-15 12:00:00")) :=
    ⟨_, _, rfl, Text.Utf8.decode?_encode _, by decide +kernel⟩
  exact (exact [_] "DATETIME" _ [] rfl nofun (by decide) denotes).2.2 ⟨rfl, by decide⟩

/-- Every row that the server replies with holds the time under the name. -/
def Holding (d : Directory Session) (name : String) (g : GeneralizedTime) : Prop :=
  ∀ columns rows, .rows columns rows ∈ d.store.script.replies → ∀ cells ∈ rows,
    ∃ front type cell back, columns.zip cells = front ++ (⟨name, type⟩, cell) :: back ∧
      (∀ later ∈ back, later.1.name ≠ name) ∧ type ∈ Server.momentTypes d.backend ∧
      g.Denotes cell

/-- A time with tenths is written again, though the server gives just this time back. -/
theorem not_replace_unchanged : ¬ ∀ (d d' : Directory Session) (r : ChangeRecord) (name : String)
    (g : GeneralizedTime) (rest : List String) (row : Row) (t : Table), g.Real →
    r.operation = .replace name → r.values? name = some (g.text :: rest) →
    d.coercion.kind name = .ok .timestamp →
    effect (locate r.dn) d = (.ok (some (row, t)), d') → t.hasColumn name → Holding d name g →
      effect (applyRecord r) d = (.ok .unchanged, d') := by
  intro always
  let d := answering "2023-06-15 12:00:00.500"
  let r := replacing "20230615120000.5Z"
  let g : GeneralizedTime :=
    ⟨"20230615120000".toList, ['5'], rfl, by decide, List.all_eq_true.1 rfl⟩
  have real : g.Real := ⟨by decide +kernel, by decide +kernel⟩
  have located : (effect (locate r.dn) d).1 =
      .ok (some (answeredRow "2023-06-15 12:00:00.500", events)) := by decide +kernel
  have holding : Holding d "time" g := by
    intro columns rows reply cells inside
    obtain ⟨rfl, rfl⟩ := cells_answering reply inside
    refine ⟨[_], "DATETIME", _, [], rfl, nofun, by decide, ?_⟩
    exact ⟨_, _, rfl, Text.Utf8.decode?_encode _, by decide +kernel⟩
  have unchanged := always d _ r "time" g [] _ _ real (by decide +kernel) (by decide +kernel)
    (by decide +kernel) (Prod.ext (y := (_, _)) located rfl) (by decide +kernel) holding
  have updated : (effect (applyRecord r) d).1 = .ok .updated := by decide +kernel
  rw [unchanged] at updated
  cases updated

end Ldif

end RelDirectory
