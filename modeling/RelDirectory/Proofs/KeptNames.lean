import Mathlib.Data.List.TakeDrop
import RelDirectory.Proofs.Base64
import RelDirectory.Proofs.Requests

/-!
# Identifiers that are cut

A name may have 64 bytes in either dialect, and one of the two servers keeps no more than 63 bytes of
an identifier.  In the statements it reads, a name stands for what it keeps of it (`seen?`), so a
name with 64 bytes is read as another one, and so is each name that begins with the same 63 bytes
(`distinct_seen_iff`).  Marks do not count: they are gone when the identifier is cut.
-/
set_option autoImplicit false
namespace RelDirectory.Statement

open Text.Utf8 (encode encode_append encode_inj encode_ofList length_encode)

/-- How many bytes of an identifier the server keeps. -/
def keptLength : Nat := 63

/-- What the server keeps of a name. -/
def kept (name : String) : List UInt8 := (encode name).take keptLength

def Token.name? : Token → Option String
  | .name text => some text
  | _ => none

/-- The identifiers in a statement as the server sees them, unless it ends inside of one. -/
def seen? (statement : String) : Option (List (List UInt8)) :=
  (tokens? .pgsql statement).map fun ts => (ts.filterMap Token.name?).map kept

/-! ## Names that are alike -/

variable {name other quoted text : String}

theorem length_kept (name : String) : (kept name).length = min keptLength name.utf8ByteSize := by
  rw [kept, List.length_take, length_encode]

theorem kept_eq_encode_iff : kept name = encode name ↔ name.utf8ByteSize ≤ keptLength := by
  rw [kept, List.take_eq_self_iff, length_encode]

theorem kept_append (filled : name.utf8ByteSize = keptLength) (rest : String) :
    kept (name ++ rest) = kept name := by
  rw [kept, kept, encode_append, List.take_append_of_le_length]
  rw [length_encode]
  exact Nat.le_of_eq filled.symm

/-- The last character with the same leading bytes, or the last but one. -/
def neighbour (c : Char) : Char :=
  Char.ofNat (c.toNat / 64 * 64 + if c.toNat % 64 = 63 then 62 else 63)

theorem toNat_neighbour (c : Char) :
    (neighbour c).toNat = c.toNat / 64 * 64 + if c.toNat % 64 = 63 then 62 else 63 := by
  have valid : c.toNat.isValidChar := c.valid
  have near : (c.toNat / 64 * 64 + if c.toNat % 64 = 63 then 62 else 63).isValidChar := by
    unfold Nat.isValidChar at valid ⊢
    split <;> omega
  rw [neighbour, Char.ofNat, dif_pos near]
  rfl

theorem neighbour_ne (c : Char) : neighbour c ≠ c ∧ neighbour c ≠ Char.ofNat 0 := by
  have code := toNat_neighbour c
  constructor
  · intro same
    rw [same] at code
    split at code <;> omega
  · intro zero
    rw [zero] at code
    have none : (Char.ofNat 0).toNat = 0 := rfl
    split at code <;> omega

/-- The last byte of a character holds the last six bits of its code, and nothing else does. -/
theorem utf8EncodeChar_alike {c d : Char} (same : d.toNat / 64 = c.toNat / 64) :
    (String.utf8EncodeChar d).dropLast = (String.utf8EncodeChar c).dropLast ∧
      (String.utf8EncodeChar d).length = (String.utf8EncodeChar c).length := by
  have code : ∀ e : Char, e.val.toNat = e.toNat := fun _ => rfl
  have second : d.toNat / 4096 = c.toNat / 4096 := by omega
  have third : d.toNat / 262144 = c.toNat / 262144 := by omega
  have one : d.toNat ≤ 127 ↔ c.toNat ≤ 127 := by omega
  have two : d.toNat ≤ 2047 ↔ c.toNat ≤ 2047 := by omega
  have three : d.toNat ≤ 65535 ↔ c.toNat ≤ 65535 := by omega
  simp only [String.utf8EncodeChar, code, one, two, three, same, second, third]
  split
  · exact ⟨rfl, rfl⟩
  · split
    · exact ⟨rfl, rfl⟩
    · split
      · exact ⟨rfl, rfl⟩
      · exact ⟨rfl, rfl⟩

theorem kept_neighbour {cs : List Char} {c : Char}
    (filled : (String.ofList (cs ++ [c])).utf8ByteSize = keptLength + 1) :
    (String.ofList (cs ++ [neighbour c])).utf8ByteSize = keptLength + 1 ∧
      kept (String.ofList (cs ++ [neighbour c])) = kept (String.ofList (cs ++ [c])) := by
  have block : (neighbour c).toNat / 64 = c.toNat / 64 := by
    rw [toNat_neighbour]
    split <;> omega
  obtain ⟨leading, count⟩ := utf8EncodeChar_alike block
  have written : ∀ d, encode (String.ofList (cs ++ [d])) =
      cs.flatMap String.utf8EncodeChar ++ String.utf8EncodeChar d := by
    intro d
    rw [encode_ofList, List.flatMap_append, List.flatMap_singleton]
  have long : (String.ofList (cs ++ [neighbour c])).utf8ByteSize = keptLength + 1 := by
    rw [← filled, ← length_encode, ← length_encode, written, written, List.length_append,
      List.length_append, count]
  have cut : ∀ d, (String.ofList (cs ++ [d])).utf8ByteSize = keptLength + 1 →
      kept (String.ofList (cs ++ [d])) =
        cs.flatMap String.utf8EncodeChar ++ (String.utf8EncodeChar d).dropLast := by
    intro d size
    rw [← List.dropLast_append_of_ne_nil String.utf8EncodeChar_ne_nil, ← written,
      List.dropLast_eq_take, length_encode, size]
    rfl
  rw [cut _ long, cut _ filled, leading]
  exact ⟨long, rfl⟩

/-- A name that is kept whole, without room for more, is kept like a longer one. -/
theorem exists_kept_eq_of_filled (permitted : Permitted name)
    (filled : name.utf8ByteSize = keptLength) :
    ∃ other, Permitted other ∧ other ≠ name ∧ kept other = kept name := by
  have size : (name ++ "a").utf8ByteSize = keptLength + 1 := by
    rw [String.utf8ByteSize_append, filled]
    rfl
  refine ⟨name ++ "a", ⟨?_, ?_, Nat.le_of_eq size⟩, ?_, kept_append filled _⟩
  · simp
  · simp [permitted.2.1]
  · intro same
    rw [same, filled] at size
    exact absurd size (by decide)

/-- A name that is not kept whole is kept like one with another last character. -/
theorem exists_kept_eq_of_cut (permitted : Permitted name)
    (cut : name.utf8ByteSize = keptLength + 1) :
    ∃ other, Permitted other ∧ other ≠ name ∧ kept other = kept name := by
  obtain ⟨nonempty, noZero, _⟩ := permitted
  rcases List.eq_nil_or_concat name.toList with empty | ⟨cs, c, last⟩
  · exact absurd (String.toList_eq_nil_iff.1 empty) nonempty
  rw [List.concat_eq_append] at last
  obtain rfl : name = String.ofList (cs ++ [c]) := by rw [← last, String.ofList_toList]
  obtain ⟨size, same⟩ := kept_neighbour cut
  obtain ⟨differs, noNull⟩ := neighbour_ne c
  refine ⟨_, ⟨?_, ?_, Nat.le_of_eq size⟩, ?_, same⟩
  · intro empty
    rw [empty] at size
    cases size
  · rw [String.toList_ofList] at noZero ⊢
    simp only [List.mem_append, List.mem_singleton, not_or] at noZero ⊢
    exact ⟨noZero.1, noNull.symm⟩
  · intro same
    have lists := String.ofList_injective same
    simp [differs] at lists

theorem exists_kept_eq (permitted : Permitted name) (long : keptLength ≤ name.utf8ByteSize) :
    ∃ other, Permitted other ∧ other ≠ name ∧ kept other = kept name := by
  have limit : name.utf8ByteSize ≤ keptLength + 1 := permitted.2.2
  rcases Nat.eq_or_lt_of_le long with filled | more
  · exact exists_kept_eq_of_filled permitted filled.symm
  · exact exists_kept_eq_of_cut permitted (Nat.le_antisymm limit more)

/-! ## Names in statements -/

theorem names_outline (ts : List Token) :
    (outline ts).filterMap Token.name? = ts.filterMap Token.name? := by
  rw [outline, List.filterMap_filter]
  refine List.filterMap_congr fun token _ => ?_
  cases token <;> rfl

theorem names_paired (b : Backend) (index : Nat) (names : List String) :
    (paired b index names).filterMap Token.name? = names := by
  induction names generalizing index with
  | nil => rfl
  | cons name names ih => exact congrArg (name :: ·) (ih (index + 1))

theorem names_skeleton (b : Backend) (t : Table) (r : Request) :
    (r.skeleton b t).filterMap Token.name? = t.name :: r.columns := by
  rw [← names_outline, Request.outline_skeleton]
  refine congrArg (t.name :: ·) ?_
  cases r with
  | insert row =>
    have columns : (row.values.keys.map Token.name).filterMap Token.name? = row.values.keys := by
      rw [List.filterMap_map]
      exact List.filterMap_some
    have places (ks : List Nat) :
        (ks.map fun k => Token.place (place b k)).filterMap Token.name? = [] := by
      rw [List.filterMap_map]
      exact List.filterMap_none ks
    rw [Request.arranged, List.filterMap_append, columns, places, List.append_nil]
    rfl
  | select predicates limit => exact names_paired b 1 _
  | update dn column value => exact names_paired b 1 _

theorem seen_quoted (made : Identifier.quote .pgsql name = .ok quoted) :
    seen? quoted = some [kept name] := by
  rw [seen?, (reads_quoted made).tokens?]
  rfl

theorem seen_statement {t : Table} (plain : PlainTypes .pgsql t) {r : Request}
    (made : r.statement t .pgsql = .ok text) :
    seen? text = some ((t.name :: r.columns).map kept) := by
  rw [seen?, ((Request.built_statement plain r).sound text made).tokens?, Option.map_some,
    names_skeleton]

theorem eq_of_kept_eq (short : name.utf8ByteSize < keptLength) (same : kept other = kept name) :
    other = name := by
  have lengths := congrArg List.length same
  rw [length_kept, length_kept] at lengths
  have small : other.utf8ByteSize ≤ keptLength := by omega
  rw [← encode_inj, ← kept_eq_encode_iff.2 small, same, kept_eq_encode_iff.2 (Nat.le_of_lt short)]

/-- The server sees a name as it is exactly if it has at most 63 bytes, alone and in each statement,
and tells it from every other name exactly if it has fewer.  Two names of at most 63 bytes are told
apart. -/
theorem distinct_seen_iff (made : Identifier.quote .pgsql name = .ok quoted) :
    (seen? quoted = some [encode name] ↔ name.utf8ByteSize ≤ keptLength) ∧
    ((∀ other text, Identifier.quote .pgsql other = .ok text → other ≠ name →
        seen? text ≠ seen? quoted) ↔ name.utf8ByteSize < keptLength) ∧
    (name.utf8ByteSize ≤ keptLength → ∀ other text, Identifier.quote .pgsql other = .ok text →
      other.utf8ByteSize ≤ keptLength → other ≠ name → seen? text ≠ seen? quoted) ∧
    ∀ (t : Table) (r : Request) (text : String) (i : Nat), PlainTypes .pgsql t →
      r.statement t .pgsql = .ok text → (t.name :: r.columns)[i]? = some name →
      ((seen? text).bind (·[i]?) = some (encode name) ↔ name.utf8ByteSize ≤ keptLength) := by
  have permitted := (quote_eq_ok_iff .pgsql name).1 ⟨quoted, made⟩
  have alike : ∀ {other text}, Identifier.quote .pgsql other = .ok text →
      (seen? text = seen? quoted ↔ kept other = kept name) := by
    intro other text written
    rw [seen_quoted made, seen_quoted written]
    simp
  refine ⟨?_, ⟨?_, ?_⟩, ?_, ?_⟩
  · rw [seen_quoted made, ← kept_eq_encode_iff]
    simp
  · intro apart
    by_contra long
    obtain ⟨other, fine, differs, same⟩ := exists_kept_eq permitted (Nat.le_of_not_lt long)
    obtain ⟨text, written⟩ := (quote_eq_ok_iff .pgsql other).2 fine
    exact apart other text written differs ((alike written).2 same)
  · intro short other text written differs same
    exact differs (eq_of_kept_eq short ((alike written).1 same))
  · intro short other text written small differs same
    have cut := (alike written).1 same
    rw [kept_eq_encode_iff.2 small, kept_eq_encode_iff.2 short, encode_inj] at cut
    exact differs cut
  · intro t r text i plain built at_i
    rw [seen_statement plain built, Option.bind_some, List.getElem?_map, at_i, ← kept_eq_encode_iff]
    simp

/-- A name of as many bytes as are kept. -/
def filledName : String := "aaaaaaaaaaaaaaaaaaaaaaaaaaaaaaaaaaaaaaaaaaaaaaaaaaaaaaaaaaaaaaa"

def filledRequest : Request := .select [⟨filledName, .equals (.text "v")⟩] none

def filledStatement : String := "SELECT * FROM \"t\" WHERE \"" ++ filledName ++ "\" = $1"

theorem distinct_seen_iff_filled :
    (∃ quoted, Identifier.quote .pgsql filledName = .ok quoted ∧
      seen? quoted = some [encode filledName] ∧
      ∃ other text, Identifier.quote .pgsql other = .ok text ∧ other ≠ filledName ∧
        seen? text = seen? quoted) ∧
    PlainTypes .pgsql ⟨"t", []⟩ ∧
    filledRequest.statement ⟨"t", []⟩ .pgsql = .ok filledStatement ∧
    (seen? filledStatement).bind (·[1]?) = some (encode filledName) := by
  have full : filledName.utf8ByteSize = keptLength := by decide +kernel
  have fits := Nat.le_of_eq full
  obtain ⟨quoted, made⟩ := (quote_eq_ok_iff .pgsql filledName).2 (by decide +kernel)
  obtain ⟨alone, apart, -, stated⟩ := distinct_seen_iff made
  have clash := mt apart.1 (Nat.not_lt.2 (Nat.le_of_eq full.symm))
  push Not at clash
  have plain : PlainTypes .pgsql ⟨"t", []⟩ := nofun
  have built : filledRequest.statement ⟨"t", []⟩ .pgsql = .ok filledStatement := by decide +kernel
  exact ⟨⟨quoted, made, alone.2 fits, clash⟩, plain, built, (stated _ _ _ 1 plain built rfl).2 fits⟩

theorem not_distinct_seen : ¬ ∀ first second quoted text,
    Identifier.quote .pgsql first = .ok quoted → Identifier.quote .pgsql second = .ok text →
      first ≠ second → seen? quoted ≠ seen? text := by
  intro distinct
  have full : filledName.utf8ByteSize = keptLength := by decide +kernel
  obtain ⟨quoted, made⟩ := (quote_eq_ok_iff .pgsql (filledName ++ "b")).2 (by decide +kernel)
  obtain ⟨text, written⟩ := (quote_eq_ok_iff .pgsql (filledName ++ "c")).2 (by decide +kernel)
  refine distinct _ _ _ _ made written (by decide +kernel) ?_
  rw [seen_quoted made, seen_quoted written, kept_append full, kept_append full]

end RelDirectory.Statement
