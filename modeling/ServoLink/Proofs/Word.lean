import Mathlib.Algebra.Ring.Nat
import ServoLink.Word

namespace ServoLink

/-! ## Words and their bytes -/

theorem shiftRight_toNat (word : UInt16) {count : Nat} (bound : count < 16) :
    (word >>> UInt16.ofNat count).toNat = word.toNat / 2 ^ count := by
  rw [UInt16.toNat_shiftRight, Nat.shiftRight_eq_div_pow, UInt16.toNat_ofNat']
  rw [Nat.mod_eq_of_lt (show count < 2 ^ 16 by omega), Nat.mod_eq_of_lt bound]

theorem toNat_high_byte (word : UInt16) : (word >>> 8).toNat = word.toNat / 256 :=
  shiftRight_toNat word (by decide : 8 < 16)

theorem wordOfBytes_toNat (low high : UInt8) :
    (wordOfBytes low high).toNat = low.toNat + 256 * high.toNat := by
  have lowBound : low.toNat < 2 ^ 8 := low.toNat_lt
  have highBound : high.toNat < 2 ^ 8 := high.toNat_lt
  have shifted : high.toNat <<< 8 % 2 ^ 16 = high.toNat <<< 8 := by
    apply Nat.mod_eq_of_lt
    rw [Nat.shiftLeft_eq]
    omega
  unfold wordOfBytes
  simp only [UInt16.toNat_or, UInt8.toNat_toUInt16, UInt16.toNat_shiftLeft]
  rw [show UInt16.toNat 8 % 16 = 8 from rfl, shifted, Nat.or_comm,
    ← Nat.shiftLeft_add_eq_or_of_lt lowBound, Nat.shiftLeft_eq]
  omega

theorem wordOfBytes_split (word : UInt16) :
    wordOfBytes word.toUInt8 (word >>> 8).toUInt8 = word := by
  have bound : word.toNat < 2 ^ 16 := word.toNat_lt
  apply UInt16.toNat_inj.mp
  rw [wordOfBytes_toNat]
  rw [UInt16.toNat_toUInt8, UInt16.toNat_toUInt8, toNat_high_byte]
  omega

theorem wordBytes_wordOfBytes (low high : UInt8) : wordBytes (wordOfBytes low high) = [low, high] := by
  have lowBound := low.toNat_lt
  have highBound := high.toNat_lt
  have whole := wordOfBytes_toNat low high
  unfold wordBytes
  refine congrArg₂ (fun first second => [first, second]) ?_ ?_
  · apply UInt8.toNat_inj.mp
    rw [UInt16.toNat_toUInt8, whole]
    omega
  · apply UInt8.toNat_inj.mp
    rw [UInt16.toNat_toUInt8, toNat_high_byte, whole]
    omega

/-- What is left of a word that is stored in `width` bytes. -/
def narrowed (width : Nat) (word : UInt16) : UInt16 :=
  if width = 1 then word &&& 0xFF else word

theorem toNat_and_low_byte (word : UInt16) : (word &&& 0xFF).toNat = word.toNat % 256 := by
  rw [UInt16.toNat_and, show UInt16.toNat 0xFF = 2 ^ 8 - 1 from rfl,
    Nat.and_two_pow_sub_one_eq_mod]

theorem toUInt8_toUInt16 (word : UInt16) : word.toUInt8.toUInt16 = word &&& 0xFF := by
  apply UInt16.toNat_inj.mp
  rw [toNat_and_low_byte, UInt8.toNat_toUInt16, UInt16.toNat_toUInt8]

theorem narrowed_of_lt {width : Nat} {word : UInt16}
    (fits : word.toNat < 256 ^ width) : narrowed width word = word := by
  unfold narrowed
  split
  next narrow =>
    subst narrow
    apply UInt16.toNat_inj.mp
    rw [toNat_and_low_byte]
    exact Nat.mod_eq_of_lt fits
  next => rfl

end ServoLink
