import Mathlib.Tactic.SplitIfs
import ServoLink.NameMap

/-!
# Names in byte order

Names are ordered by their code points.  Their UTF-8 bytes are ordered in the same way:
a greater character has a greater byte at the first place where the encodings differ.
-/

namespace ServoLink

/-- The bytes of a name in UTF-8. -/
def utf8Bytes (name : String) : List UInt8 :=
  name.toUTF8.data.toList

theorem utf8Bytes_eq (name : String) :
    utf8Bytes name = name.toList.flatMap String.utf8EncodeChar := by
  change name.toByteArray.data.toList = _
  rw [← String.utf8Encode_toList, List.utf8Encode, List.data_toByteArray]

/-- A greater character has greater bytes, whatever follows. -/
theorem encodeChar_lt
    {first second : Char} (before : first < second) (rest others : List UInt8) :
    String.utf8EncodeChar first ++ rest < String.utf8EncodeChar second ++ others := by
  have less : first.val.toNat < second.val.toNat := before
  have bound : second.val.toNat < 0x110000 := by
    rcases second.valid with low | high
    · exact Nat.lt_trans low (by decide)
    · exact high.2
  -- The bytes are the digits of the code points, each behind a mark that it leaves alone.
  have two (number : Nat) : (number % 32 + 192) % 256 = number % 32 + 192 := by omega
  have three (number : Nat) : (number % 16 + 224) % 256 = number % 16 + 224 := by omega
  have four (number : Nat) : (number % 8 + 240) % 256 = number % 8 + 240 := by omega
  have further (number : Nat) : (number % 64 + 128) % 256 = number % 64 + 128 := by omega
  have digits (number : Nat) (small : number < 0x110000) :
      number / 64 / 64 = number / 4096 ∧ number / 4096 / 64 = number / 262144 ∧
        number / 262144 / 8 = 0 := by
    omega
  unfold String.utf8EncodeChar
  dsimp only
  generalize first.val.toNat = low at less
  generalize second.val.toNat = high at less bound
  have lowDigits := digits low (Nat.lt_trans less bound)
  have highDigits := digits high bound
  split_ifs <;>
    simp only [List.cons_append, List.nil_append, List.cons_lt_cons_iff,
      UInt8.lt_iff_toNat_lt, ← UInt8.toNat_inj, UInt8.toNat_ofNat', Nat.reducePow,
      two, three, four, further] <;> omega

theorem utf8Bytes_lt {first second : String} (before : first < second) :
    utf8Bytes first < utf8Bytes second := by
  have characters : first.toList < second.toList := before
  rw [utf8Bytes_eq, utf8Bytes_eq]
  generalize first.toList = lesser at characters
  generalize second.toList = greater at characters
  induction lesser generalizing greater with
  | nil =>
      cases greater with
      | nil => exact absurd characters (List.lt_irrefl [])
      | cons character rest =>
          have first : String.utf8EncodeChar character ≠ [] := by
            intro empty
            have size := String.length_utf8EncodeChar character
            have positive := character.utf8Size_pos
            rw [empty, List.length_nil] at size
            omega
          obtain ⟨byte, bytes, encoded⟩ := List.exists_cons_of_ne_nil first
          rw [List.flatMap_cons, encoded]
          exact List.nil_lt_cons _ _
  | cons character rest inductionHypothesis =>
      cases greater with
      | nil => exact absurd characters (List.not_lt_nil _)
      | cons other others =>
          rw [List.flatMap_cons, List.flatMap_cons]
          rcases List.cons_lt_cons_iff.mp characters with less | ⟨rfl, later⟩
          · exact encodeChar_lt less _ _
          · exact List.append_left_lt (inductionHypothesis others later)

/-- The order of names is that of their bytes. -/
theorem utf8Bytes_le {first second : String} (before : first ≤ second) :
    utf8Bytes first ≤ utf8Bytes second := by
  by_cases less : first < second
  · exact List.le_of_lt (utf8Bytes_lt less)
  · rw [String.le_antisymm before (String.not_lt.mp less)]
    exact List.le_refl _

end ServoLink
