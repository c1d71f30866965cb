import Mathlib.Data.Nat.Bitwise
import Mathlib.Logic.Function.Iterate
import ServoLink.Proofs.Word
import ServoLink.Script.Checksum

/-!
# The cyclic check bit by bit

The check takes in a whole byte before it shifts eight times.  This is the same as taking in
the bits one at a time, because a shift is linear in exclusive or.  A shift also loses nothing,
so the checks of two messages stay different after they have once become different; and after
a word has been taken in they are different if the words are.
-/

namespace ServoLink

/-- One bit of a message taken into the reflected check with polynomial 0xA001: the check is
shifted down, and the polynomial is added if the bit that leaves it is not that of the
message. -/
def crcBit (crc : UInt16) (bit : Bool) : UInt16 :=
  if crc.toNat.testBit 0 = bit then crc >>> 1 else (crc >>> 1) ^^^ 0xA001

/-- The bits of a message, the lowest bit of a byte first. -/
def messageBits (message : List UInt8) : List Bool :=
  message.flatMap fun byte => (List.range 8).map byte.toNat.testBit

/-- The check of a message bit by bit, from an initial value of zero. -/
def bitwiseCrc (message : List UInt8) : UInt16 :=
  (messageBits message).foldl crcBit 0

/-! ## Taking in bits -/

section Bits

theorem and_one_eq_zero_iff (word : UInt16) : word &&& 1 = 0 ↔ word.toNat.testBit 0 = false := by
  rw [← UInt16.toNat_inj, UInt16.toNat_and, Nat.testBit_zero, decide_eq_false_iff_not]
  change word.toNat &&& 1 = 0 ↔ _
  rw [Nat.and_one_is_mod]
  omega

theorem toNat_shiftRight_one (word : UInt16) : (word >>> 1).toNat = word.toNat / 2 :=
  shiftRight_toNat word (by decide : 1 < 16)

theorem crcShift_eq_crcBit (crc : UInt16) : crcShift crc = crcBit crc false := by
  unfold crcShift crcBit
  simp only [and_one_eq_zero_iff]

/-- What is added to a check that has been shifted. -/
def feedback (bit : Bool) : UInt16 :=
  if bit then 0xA001 else 0

theorem feedback_xor (bit other : Bool) :
    feedback (bit ^^ other) = feedback bit ^^^ feedback other := by
  cases bit <;> cases other <;> rfl

theorem crcBit_eq (crc : UInt16) (bit : Bool) :
    crcBit crc bit = (crc >>> 1) ^^^ feedback (crc.toNat.testBit 0 ^^ bit) := by
  unfold crcBit feedback
  cases crc.toNat.testBit 0 <;> cases bit <;> simp

/-- Taking in a bit is linear in the check and the bit together. -/
theorem crcBit_xor (first second : UInt16) (bit other : Bool) :
    crcBit (first ^^^ second) (bit ^^ other) = crcBit first bit ^^^ crcBit second other := by
  have regrouped : ((first ^^^ second).toNat.testBit 0 ^^ (bit ^^ other)) =
      ((first.toNat.testBit 0 ^^ bit) ^^ (second.toNat.testBit 0 ^^ other)) := by
    rw [UInt16.toNat_xor, Nat.testBit_xor, Bool.xor_assoc, Bool.xor_assoc,
      Bool.xor_left_comm bit]
  rw [crcBit_eq, crcBit_eq, crcBit_eq, UInt16.shiftRight_xor, regrouped, feedback_xor]
  ac_rfl

/-- Only the check zero is shifted to zero: the polynomial has its highest bit, which a shift
leaves empty. -/
theorem eq_zero_of_crcShift {crc : UInt16} (zero : crcShift crc = 0) : crc = 0 := by
  have bound := crc.toNat_lt
  rw [crcShift_eq_crcBit] at zero
  unfold crcBit at zero
  split at zero
  next even =>
    rw [← UInt16.toNat_inj, toNat_shiftRight_one] at zero
    rw [Nat.testBit_zero, decide_eq_false_iff_not] at even
    apply UInt16.toNat_inj.mp
    change crc.toNat / 2 = 0 at zero
    change crc.toNat = 0
    omega
  next odd =>
    rw [UInt16.xor_eq_zero_iff, ← UInt16.toNat_inj, toNat_shiftRight_one] at zero
    change crc.toNat / 2 = 40961 at zero
    omega

theorem crcBit_injective (bit : Bool) : Function.Injective (crcBit · bit) := by
  intro first second same
  have difference : crcShift (first ^^^ second) = 0 := by
    rw [crcShift_eq_crcBit, ← Bool.xor_self bit, crcBit_xor, UInt16.xor_eq_zero_iff]
    exact same
  exact UInt16.xor_eq_zero_iff.mp (eq_zero_of_crcShift difference)

theorem foldl_crcBit_injective (bits : List Bool) :
    Function.Injective (bits.foldl crcBit ·) := by
  induction bits with
  | nil =>
      exact Function.injective_id
  | cons first rest inductionHypothesis =>
      exact inductionHypothesis.comp (crcBit_injective first)

end Bits

/-! ## Taking in words -/

section Words

theorem iterate_crcShift_injective (count : Nat) : Function.Injective crcShift^[count] := by
  have step : crcShift = (crcBit · false) := funext crcShift_eq_crcBit
  rw [step]
  exact (crcBit_injective false).iterate count

/-- Shifting a check together with a number takes in the lowest bit of the number. -/
theorem crcShift_xor_ofNat (crc : UInt16) {number : Nat} (small : number < 65536) :
    crcShift (crc ^^^ UInt16.ofNat number) =
      crcBit crc (number.testBit 0) ^^^ UInt16.ofNat (number / 2) := by
  have value : (UInt16.ofNat number).toNat = number := by
    rw [UInt16.toNat_ofNat']
    exact Nat.mod_eq_of_lt small
  have half : UInt16.ofNat number >>> 1 = UInt16.ofNat (number / 2) := by
    apply UInt16.toNat_inj.mp
    have fits : number / 2 < 2 ^ 16 := by omega
    rw [toNat_shiftRight_one, value, UInt16.toNat_ofNat', Nat.mod_eq_of_lt fits]
  have lowest : crcBit (UInt16.ofNat number) (number.testBit 0) = UInt16.ofNat (number / 2) := by
    unfold crcBit
    rw [value, if_pos rfl, half]
  rw [crcShift_eq_crcBit, ← Bool.xor_self (number.testBit 0), crcBit_xor, lowest]

theorem map_testBit_range_succ (number count : Nat) :
    (List.range (count + 1)).map number.testBit =
      number.testBit 0 :: (List.range count).map (number / 2).testBit := by
  rw [List.range_succ_eq_map, List.map_cons, List.map_map]
  exact congrArg (number.testBit 0 :: ·)
    (List.map_congr_left fun place _ => Nat.testBit_succ number place)

theorem foldl_crcBit_bits (crc : UInt16) {count number : Nat} (few : count ≤ 16)
    (small : number < 2 ^ count) :
    ((List.range count).map number.testBit).foldl crcBit crc =
      crcShift^[count] (crc ^^^ UInt16.ofNat number) := by
  -- The lowest bit is taken in first, and one shift leaves the other bits of the number.
  induction count generalizing crc number with
  | zero =>
      have zero : number = 0 := by omega
      subst zero
      exact (UInt16.xor_zero).symm
  | succ count inductionHypothesis =>
      have bound : 2 ^ (count + 1) ≤ 2 ^ 16 := Nat.pow_le_pow_right (by decide) few
      have half : number / 2 < 2 ^ count := by
        rw [Nat.pow_succ] at small
        omega
      rw [map_testBit_range_succ, List.foldl_cons, inductionHypothesis _ (by omega) half,
        Function.iterate_succ_apply, crcShift_xor_ofNat crc (by omega)]

theorem repeat_eq_iterate (count : Nat) (crc : UInt16) :
    Nat.repeat crcShift count crc = crcShift^[count] crc := by
  induction count with
  | zero =>
      rfl
  | succ count inductionHypothesis =>
      rw [Function.iterate_succ_apply', ← inductionHypothesis]
      rfl

theorem foldl_messageBits_byte (crc : UInt16) (byte : UInt8) :
    ((List.range 8).map byte.toNat.testBit).foldl crcBit crc = crcByte crc byte := by
  have word : byte.toUInt16 = UInt16.ofNat byte.toNat := by
    apply UInt16.toNat_inj.mp
    have bound := byte.toNat_lt
    rw [UInt8.toNat_toUInt16, UInt16.toNat_ofNat', Nat.mod_eq_of_lt (by omega)]
  unfold crcByte
  rw [foldl_crcBit_bits crc (by decide) byte.toNat_lt, repeat_eq_iterate, word]

/-- The check of a message does not depend on how many bits are taken in at once. -/
theorem crc16_eq_bitwiseCrc (message : List UInt8) : crc16 message = bitwiseCrc message := by
  unfold crc16 bitwiseCrc messageBits
  rw [List.foldl_flatMap]
  simp only [foldl_messageBits_byte]

theorem messageBits_pair (low high : UInt8) :
    messageBits [low, high] = (List.range 16).map (wordOfBytes low high).toNat.testBit := by
  have bound := low.toNat_lt
  have value : (wordOfBytes low high).toNat = 2 ^ 8 * high.toNat + low.toNat := by
    rw [wordOfBytes_toNat]
    omega
  rw [show List.range 16 = List.range 8 ++ (List.range 8).map (8 + ·) from rfl,
    List.map_append, List.map_map, value]
  unfold messageBits
  rw [List.flatMap_cons, List.flatMap_singleton]
  congr 1
  · refine List.map_congr_left fun place member => ?_
    rw [Nat.testBit_two_pow_mul_add _ bound, if_pos (List.mem_range.mp member)]
  · refine List.map_congr_left fun place _ => ?_
    rw [Function.comp, Nat.testBit_two_pow_mul_add _ bound, if_neg (by omega),
      Nat.add_sub_cancel_left]

theorem pair_eq_of_foldl_eq {crc : UInt16} {low high otherLow otherHigh : UInt8}
    (same : (messageBits [low, high]).foldl crcBit crc =
      (messageBits [otherLow, otherHigh]).foldl crcBit crc) :
    [low, high] = [otherLow, otherHigh] := by
  have small (word : UInt16) : word.toNat < 2 ^ 16 := word.toNat_lt
  rw [messageBits_pair, messageBits_pair, foldl_crcBit_bits crc le_rfl (small _),
    foldl_crcBit_bits crc le_rfl (small _)] at same
  have words := (UInt16.xor_right_inj crc).mp (iterate_crcShift_injective 16 same)
  rw [UInt16.ofNat_toNat, UInt16.ofNat_toNat] at words
  rw [← wordBytes_wordOfBytes, words, wordBytes_wordOfBytes]

end Words

/-! ## Messages that differ in neighbouring bytes -/

section Messages

variable {first second front back : List UInt8}

theorem messageBits_append (first second : List UInt8) :
    messageBits (first ++ second) = messageBits first ++ messageBits second :=
  List.flatMap_append

theorem eq_of_bitwiseCrc_eq {low high otherLow otherHigh : UInt8}
    (same : bitwiseCrc (front ++ [low, high] ++ back) =
      bitwiseCrc (front ++ [otherLow, otherHigh] ++ back)) :
    [low, high] = [otherLow, otherHigh] := by
  unfold bitwiseCrc at same
  simp only [messageBits_append, List.foldl_append] at same
  exact pair_eq_of_foldl_eq (foldl_crcBit_injective _ same)

theorem exists_pair_at {place : Nat} (inside : place + 1 < first.length) :
    ∃ low high, first = first.take place ++ [low, high] ++ first.drop (place + 2) := by
  have tail : first.drop place = [first[place], first[place + 1]] ++ first.drop (place + 2) := by
    rw [List.drop_eq_getElem_cons (Nat.lt_of_succ_lt inside), List.drop_eq_getElem_cons inside]
    rfl
  refine ⟨first[place], first[place + 1], ?_⟩
  rw [List.append_assoc, ← tail, List.take_append_drop]

/-- Messages that agree but for two neighbouring bytes have their other bytes in common. -/
theorem exists_split_of_agree {start : Nat} (sameLength : first.length = second.length)
    (inside : start + 1 < first.length)
    (outside : ∀ index, index ≠ start → index ≠ start + 1 → first[index]? = second[index]?) :
    ∃ front back low high otherLow otherHigh,
      first = front ++ [low, high] ++ back ∧ second = front ++ [otherLow, otherHigh] ++ back := by
  have front : first.take start = second.take start := by
    apply List.ext_getElem?
    intro index
    by_cases before : index < start
    · rw [List.getElem?_take_of_lt before, List.getElem?_take_of_lt before]
      exact outside index (by omega) (by omega)
    · rw [List.getElem?_take_eq_none (by omega), List.getElem?_take_eq_none (by omega)]
  have back : first.drop (start + 2) = second.drop (start + 2) := by
    apply List.ext_getElem?
    intro index
    rw [List.getElem?_drop, List.getElem?_drop]
    exact outside _ (by omega) (by omega)
  obtain ⟨low, high, split⟩ := exists_pair_at inside
  obtain ⟨otherLow, otherHigh, otherSplit⟩ :=
    exists_pair_at (show start + 1 < second.length by rwa [← sameLength])
  rw [← front, ← back] at otherSplit
  exact ⟨_, _, low, high, otherLow, otherHigh, split, otherSplit⟩

/-- Messages of one length that differ in two neighbouring bytes at most have different
checks, unless they are equal. -/
theorem eq_of_bitwiseCrc_of_agree {place : Nat} (sameLength : first.length = second.length)
    (long : 2 ≤ first.length)
    (agree : ∀ index, index ≠ place → index ≠ place + 1 → first[index]? = second[index]?)
    (same : bitwiseCrc first = bitwiseCrc second) : first = second := by
  -- The last byte alone is taken together with the byte in front of it.
  obtain ⟨start, inside, outside⟩ : ∃ start, start + 1 < first.length ∧
      ∀ index, index ≠ start → index ≠ start + 1 → first[index]? = second[index]? := by
    by_cases inside : place + 1 < first.length
    · exact ⟨place, inside, agree⟩
    · refine ⟨first.length - 2, by omega, fun index notFirst notSecond => ?_⟩
      by_cases beyond : first.length ≤ index
      · rw [List.getElem?_eq_none beyond, List.getElem?_eq_none (by omega)]
      · exact agree index (by omega) (by omega)
  obtain ⟨front, back, low, high, otherLow, otherHigh, rfl, rfl⟩ :=
    exists_split_of_agree sameLength inside outside
  rw [eq_of_bitwiseCrc_eq same]

end Messages

end ServoLink
