import Mathlib.Data.List.Basic
import RelDirectory.Text.Base64
import RelDirectory.Text.Blank
import RelDirectory.Text.Utf8

/-!
# Base64 is undone

`encode` writes bytes in the standard alphabet, with padding.  What it writes is read back as the
same bytes (`decode?_encode`) and has no blanks in it (`isBlank_of_mem_encode`).  The bytes of a
text are those of its characters in order (`Utf8.encode_ofList`), and are read back as the text
(`Utf8.decode?_encode`).
-/
set_option autoImplicit false
namespace RelDirectory.Text

namespace Base64

def alphabet : List Char :=
  "ABCDEFGHIJKLMNOPQRSTUVWXYZabcdefghijklmnopqrstuvwxyz0123456789+/".toList

/-- The character that stands for six bits. -/
def letter (n : Nat) : Char := alphabet.getD n '='

/-- Bytes written as groups of four characters, the last of them padded. -/
def encode : List UInt8 → List Char
  | [] => []
  | [a] => [letter (a.toNat / 4), letter (a.toNat % 4 * 16), '=', '=']
  | [a, b] =>
    [letter (a.toNat / 4), letter (a.toNat % 4 * 16 + b.toNat / 16), letter (b.toNat % 16 * 4), '=']
  | a :: b :: c :: rest =>
    letter (a.toNat / 4) :: letter (a.toNat % 4 * 16 + b.toNat / 16) ::
      letter (b.toNat % 16 * 4 + c.toNat / 64) :: letter (c.toNat % 64) :: encode rest

theorem sextet?_letter {n : Nat} (small : n < 64) : sextet? (letter n) = some n := by
  have all : ∀ n < 64, sextet? (letter n) = some n := by decide +kernel
  exact all n small

theorem letter_ne_pad {n : Nat} (small : n < 64) : letter n ≠ '=' := by
  intro pad
  have read := sextet?_letter small
  rw [pad] at read
  cases read

/-! ## Reading a group -/

theorem decode?_one {m n : Nat} (first : m < 64) (second : n < 64) (whole : (m * 64 + n) % 16 = 0) :
    decode? [letter m, letter n, '=', '='] = some [UInt8.ofNat ((m * 64 + n) / 16)] := by
  simp [decode?, sextet?_letter first, sextet?_letter second, whole]

theorem decode?_two {m n k : Nat} (first : m < 64) (second : n < 64) (third : k < 64)
    (whole : ((m * 64 + n) * 64 + k) % 4 = 0) :
    decode? [letter m, letter n, letter k, '='] =
      some [UInt8.ofNat (((m * 64 + n) * 64 + k) / 1024),
        UInt8.ofNat (((m * 64 + n) * 64 + k) / 4)] := by
  rw [decode?]
  · simp [sextet?_letter first, sextet?_letter second, sextet?_letter third, whole]
  · intro pad
    exact absurd pad (letter_ne_pad third)

theorem decode?_group {m n k l : Nat} (first : m < 64) (second : n < 64) (third : k < 64)
    (fourth : l < 64) (cs : List Char) :
    decode? (letter m :: letter n :: letter k :: letter l :: cs) =
      (decode? cs).map fun rest =>
        UInt8.ofNat ((((m * 64 + n) * 64 + k) * 64 + l) / 65536) ::
          UInt8.ofNat ((((m * 64 + n) * 64 + k) * 64 + l) / 256) ::
          UInt8.ofNat (((m * 64 + n) * 64 + k) * 64 + l) :: rest := by
  rw [decode?]
  · simp only [sextet?_letter first, sextet?_letter second, sextet?_letter third,
      sextet?_letter fourth]
    cases decode? cs <;> rfl
  · intro _ pad
    exact absurd pad (letter_ne_pad fourth)
  · intro pad
    exact absurd pad (letter_ne_pad fourth)

theorem ofNat_eq {n : Nat} {a : UInt8} (same : n % 256 = a.toNat) : UInt8.ofNat n = a := by
  rw [← UInt8.toNat_inj, UInt8.toNat_ofNat']
  exact same

theorem decode?_encode (bytes : List UInt8) : decode? (encode bytes) = some bytes := by
  induction bytes using encode.induct with
  | case1 => rfl
  | case2 a =>
    have := a.toNat_lt
    rw [encode, decode?_one (by omega) (by omega) (by omega)]
    rw [ofNat_eq (a := a) (by omega)]
  | case3 a b =>
    have := a.toNat_lt
    have := b.toNat_lt
    rw [encode, decode?_two (by omega) (by omega) (by omega) (by omega)]
    rw [ofNat_eq (a := a) (by omega), ofNat_eq (a := b) (by omega)]
  | case4 a b c rest ih =>
    have := a.toNat_lt
    have := b.toNat_lt
    have := c.toNat_lt
    rw [encode, decode?_group (by omega) (by omega) (by omega) (by omega), ih, Option.map_some]
    rw [ofNat_eq (a := a) (by omega), ofNat_eq (a := b) (by omega), ofNat_eq (a := c) (by omega)]

/-! ## The characters that are written -/

theorem letter_mem (n : Nat) : letter n ∈ '=' :: alphabet := by
  rw [letter, List.getD_eq_getElem?_getD]
  cases held : alphabet[n]? with
  | none => exact List.mem_cons_self
  | some c => exact List.mem_cons_of_mem _ (List.mem_of_getElem? held)

theorem mem_of_mem_encode {bytes : List UInt8} {c : Char} (member : c ∈ encode bytes) :
    c ∈ '=' :: alphabet := by
  have pad : '=' ∈ '=' :: alphabet := List.mem_cons_self
  induction bytes using encode.induct with
  | case1 => cases member
  | case2 a =>
    simp only [encode, List.mem_cons, List.not_mem_nil, or_false] at member
    rcases member with rfl | rfl | rfl | rfl
    exacts [letter_mem _, letter_mem _, pad, pad]
  | case3 a b =>
    simp only [encode, List.mem_cons, List.not_mem_nil, or_false] at member
    rcases member with rfl | rfl | rfl | rfl
    exacts [letter_mem _, letter_mem _, letter_mem _, pad]
  | case4 a b d rest ih =>
    rw [encode] at member
    simp only [List.mem_cons] at member
    rcases member with rfl | rfl | rfl | rfl | later
    exacts [letter_mem _, letter_mem _, letter_mem _, letter_mem _, ih later]

theorem isBlank_of_mem_encode {bytes : List UInt8} {c : Char} (member : c ∈ encode bytes) :
    isBlank c = false := by
  have all : (('=' :: alphabet).all fun c => !isBlank c) = true := by decide +kernel
  have solid := List.all_eq_true.1 all c (mem_of_mem_encode member)
  exact (Bool.not_eq_true' _).mp solid

end Base64

/-! ## Texts as bytes -/

namespace Utf8

theorem get!_eq_getElem {bytes : ByteArray} {i : Nat} (inside : i < bytes.data.toList.length) :
    bytes.get! i = bytes.data.toList[i] := by
  obtain ⟨data⟩ := bytes
  exact getElem!_pos data i inside

theorem toList_eq_data (bytes : ByteArray) : bytes.toList = bytes.data.toList := by
  have size : bytes.data.toList.length = bytes.size := rfl
  -- on the number of bytes that are left to read
  have general : ∀ (n i : Nat) (r : List UInt8), bytes.size - i = n →
      ByteArray.toList.loop bytes i r = r.reverse ++ bytes.data.toList.drop i := by
    intro n
    induction n with
    | zero =>
      intro i r left
      rw [ByteArray.toList.loop, if_neg (by omega), List.drop_eq_nil_of_le (by omega),
        List.append_nil]
    | succ n ih =>
      intro i r left
      have inside : i < bytes.data.toList.length := by omega
      rw [ByteArray.toList.loop, if_pos (by omega), ih (i + 1) _ (by omega), List.reverse_cons,
        List.append_assoc, List.singleton_append, get!_eq_getElem inside,
        List.drop_eq_getElem_cons inside]
  exact general _ 0 [] rfl

theorem decode?_encode (s : String) : decode? (encode s) = some s := by
  have bytes : (⟨(encode s).toArray⟩ : ByteArray) = s.toUTF8 := by
    rw [encode, toList_eq_data, Array.toArray_toList]
  rw [decode?, bytes, String.toUTF8_eq_toByteArray, String.fromUTF8?, dif_pos s.isValidUTF8]
  rfl

theorem encode_inj {s t : String} : encode s = encode t ↔ s = t := by
  refine ⟨fun same => ?_, congrArg encode⟩
  rw [← Option.some_inj, ← decode?_encode, ← decode?_encode, same]

theorem length_encode (s : String) : (encode s).length = s.utf8ByteSize := by
  rw [encode, toList_eq_data, String.toUTF8_eq_toByteArray, ← String.size_toByteArray]
  rfl

theorem encode_ofList (cs : List Char) :
    encode (String.ofList cs) = cs.flatMap String.utf8EncodeChar := by
  rw [encode, toList_eq_data, String.toUTF8_eq_toByteArray, String.toByteArray_ofList,
    List.utf8Encode, List.toList_data_toByteArray]

theorem encode_append (s t : String) : encode (s ++ t) = encode s ++ encode t := by
  rw [← String.ofList_toList (s := s), ← String.ofList_toList (s := t), ← String.ofList_append,
    encode_ofList, encode_ofList, encode_ofList, List.flatMap_append]

end Utf8

end RelDirectory.Text
