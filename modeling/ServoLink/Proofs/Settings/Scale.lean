import Mathlib.Tactic.ByContra
import ServoLink.Proofs.Word
import ServoLink.Settings.Scale

/-!
# Scales between registers and units

A register that has been computed from a baud rate or a speed comes back when the
value that it stands for is converted again, although both conversions round.
-/

namespace ServoLink

/-! ## Baud rates

Below, a rate `bps` with register `register` divides the clock as closely as it can:
`register * bps + bps / 2 ≤ instructionFrequency < (register + 1) * bps + bps / 2`.
The square root of the clock lies between 3464 and 3465.  Rates below it come back
exactly; above it the divisor is the smaller factor and comes back. -/

/-- The division of a baud rate never goes below zero, and zero asks for detection. -/
theorem baudRegister_eq (rate : UInt32) :
    baudRegister rate =
      ((instructionFrequency - rate.toNat / 2) / rate.toNat : Nat) := by
  unfold baudRegister
  simp only
  split
  next zero =>
    subst zero
    rfl
  next nonzero =>
    have halved : Int.tdiv (rate.toNat : Int) 2 = ((rate.toNat / 2 : Nat) : Int) := rfl
    rw [halved]
    by_cases slow : rate.toNat / 2 ≤ instructionFrequency
    · rw [← Int.ofNat_sub slow]
      rfl
    · have fast : instructionFrequency - rate.toNat / 2 = 0 := by omega
      have negated : (instructionFrequency : Int) - ((rate.toNat / 2 : Nat) : Int) =
          -((rate.toNat / 2 - instructionFrequency : Nat) : Int) := by omega
      rw [fast, negated, Int.neg_tdiv,
        Int.tdiv_eq_zero_of_lt (by omega) (by omega)]
      simp

/-- A register of two bytes holds the divisor of any rate from 184 on, and zero. -/
theorem baudRegister_le_iff (rate : UInt32) :
    baudRegister rate ≤ 0xFFFF ↔ rate = 0 ∨ 184 ≤ rate.toNat := by
  have zero : rate = 0 ↔ rate.toNat = 0 := by
    rw [← UInt32.toNat_inj]
    rfl
  rw [baudRegister_eq, zero]
  rcases Nat.eq_zero_or_pos rate.toNat with equal | positive
  · simp [equal]
  · have bound := Nat.div_lt_iff_lt_mul (x := instructionFrequency - rate.toNat / 2)
      (y := 0x10000) positive
    unfold instructionFrequency at bound ⊢
    omega

/-- The register that asks for detection is also that of every rate above two thirds of
the clock. -/
theorem baudRegister_eq_zero_iff (rate : UInt32) :
    baudRegister rate = 0 ↔ rate = 0 ∨ 8000000 < rate := by
  have zero : rate = 0 ↔ rate.toNat = 0 := by
    rw [← UInt32.toNat_inj]
    rfl
  have fast : 8000000 < rate ↔ 8000000 < rate.toNat := UInt32.lt_iff_toNat_lt
  rw [baudRegister_eq, Int.natCast_eq_zero, Nat.div_eq_zero_iff, zero, fast]
  unfold instructionFrequency
  omega

theorem baudRegister_bounds {rate : Nat} (positive : 0 < rate)
    (small : rate ≤ 2 * instructionFrequency) :
    (instructionFrequency - rate / 2) / rate * rate + rate / 2 ≤ instructionFrequency ∧
      instructionFrequency <
        ((instructionFrequency - rate / 2) / rate + 1) * rate + rate / 2 := by
  have below := Nat.div_mul_le_self (instructionFrequency - rate / 2) rate
  have above := Nat.lt_div_mul_add positive (a := instructionFrequency - rate / 2)
  rw [Nat.succ_mul]
  omega

/-- The nearest rate of a register's divisor, before zero is set apart. -/
theorem rate_of_slow {rate : Nat} (positive : 0 < rate) (slow : rate ≤ 3463) :
    let divisor := (instructionFrequency - rate / 2) / rate + 1
    (instructionFrequency + divisor / 2) / divisor = rate := by
  intro divisor
  obtain ⟨lower, upper⟩ := baudRegister_bounds positive
    (by unfold instructionFrequency; omega)
  change (divisor - 1) * rate + rate / 2 ≤ instructionFrequency at lower
  change instructionFrequency < divisor * rate + rate / 2 at upper
  have larger : rate + 1 ≤ divisor := by
    by_contra smaller
    have product : divisor * rate ≤ 3463 * 3463 :=
      Nat.mul_le_mul (by omega) slow
    unfold instructionFrequency at upper
    omega
  have product : (divisor - 1) * rate = rate * divisor - rate := by
    rw [Nat.sub_mul, Nat.one_mul, Nat.mul_comm]
  have commuted : divisor * rate = rate * divisor := Nat.mul_comm _ _
  have positiveProduct : divisor ≤ rate * divisor := Nat.le_mul_of_pos_left _ positive
  apply Nat.div_eq_of_lt_le
  · omega
  · rw [Nat.succ_mul]
    omega

/-- A divisor below the root of the clock is the nearest one of its nearest rate. -/
theorem register_of_fast (divisor : Nat) (positive : 0 < divisor)
    (fast : divisor ≤ 3463) :
    let rate := (instructionFrequency + divisor / 2) / divisor
    (instructionFrequency - rate / 2) / rate + 1 = divisor := by
  intro rate
  have lower : rate * divisor ≤ instructionFrequency + divisor / 2 :=
    Nat.div_mul_le_self _ _
  have upper : instructionFrequency + divisor / 2 < rate * divisor + divisor :=
    Nat.lt_div_mul_add positive
  have larger : divisor + 1 ≤ rate := by
    by_contra smaller
    have product : rate * divisor ≤ 3463 * 3463 :=
      Nat.mul_le_mul (by omega) fast
    unfold instructionFrequency at upper
    omega
  have commuted : (divisor - 1) * rate = rate * divisor - rate := by
    rw [Nat.sub_mul, Nat.one_mul, Nat.mul_comm]
  have covers : rate ≤ rate * divisor := Nat.le_mul_of_pos_right _ positive
  suffices quotient : (instructionFrequency - rate / 2) / rate = divisor - 1 by
    omega
  apply Nat.div_eq_of_lt_le
  · omega
  · rw [Nat.sub_add_cancel positive, Nat.mul_comm]
    omega

theorem baudOfRegister_toNat {register : UInt16} (nonzero : register ≠ 0) :
    (baudOfRegister register).toNat =
      (instructionFrequency + (register.toNat + 1) / 2) / (register.toNat + 1) := by
  have bound := register.toNat_lt
  have small := Nat.div_le_self
    (instructionFrequency + (register.toNat + 1) / 2) (register.toNat + 1)
  unfold baudOfRegister
  rw [if_neg nonzero]
  refine UInt32.toNat_ofNat_of_lt' (Nat.lt_of_le_of_lt small ?_)
  unfold instructionFrequency
  change _ < 2 ^ 32
  omega

theorem baudOfRegister_eq_zero_iff (register : UInt16) :
    baudOfRegister register = 0 ↔ register = 0 := by
  constructor
  · intro automatic
    by_contra nonzero
    have bound := register.toNat_lt
    have positive := Nat.div_pos
      (show register.toNat + 1 ≤ instructionFrequency + (register.toNat + 1) / 2 by
        unfold instructionFrequency
        omega)
      (Nat.succ_pos register.toNat)
    rw [← baudOfRegister_toNat nonzero, automatic] at positive
    exact absurd positive (Nat.lt_irrefl 0)
  · rintro rfl
    rfl

/-- The register of a rate below the root of the clock stands for that rate. -/
theorem baudOfRegister_of_slow_rate {rate : UInt32} {register : UInt16}
    (holds : (register.toNat : Int) = baudRegister rate) (slow : rate.toNat ≤ 3463) :
    baudOfRegister register = rate := by
  by_cases automatic : rate = 0
  · subst automatic
    have zero : register = 0 := UInt16.toNat_inj.mp (Int.ofNat.inj holds)
    rw [zero]
    rfl
  · have positive : 0 < rate.toNat := by
      rw [Nat.pos_iff_ne_zero]
      exact fun equal => automatic (UInt32.toNat_inj.mp equal)
    have nonzero : register ≠ 0 := by
      rintro rfl
      rcases (baudRegister_eq_zero_iff rate).mp holds.symm with none | fast
      · exact automatic none
      · have large : 8000000 < rate.toNat := UInt32.lt_iff_toNat_lt.mp fast
        omega
    have quotient : register.toNat =
        (instructionFrequency - rate.toNat / 2) / rate.toNat := by
      rw [baudRegister_eq] at holds
      exact Int.ofNat.inj holds
    apply UInt32.toNat_inj.mp
    rw [baudOfRegister_toNat nonzero, quotient]
    exact rate_of_slow positive slow

/-- The registers of the other rates are below the root of the clock. -/
theorem baudRegister_le_of_fast {rate : UInt32} (fast : 3463 < rate.toNat) :
    baudRegister rate ≤ 3463 := by
  have bound := Nat.div_lt_iff_lt_mul (x := instructionFrequency - rate.toNat / 2)
    (y := 3464) (show 0 < rate.toNat by omega)
  rw [baudRegister_eq]
  unfold instructionFrequency at bound ⊢
  omega

/-- A register below the root of the clock is that of the rate that it stands for. -/
theorem baudRegister_baudOfRegister_of_le {register : UInt16}
    (fast : register.toNat ≤ 3463) :
    baudRegister (baudOfRegister register) = register.toNat := by
  by_cases zero : register = 0
  · subst zero
    rfl
  · rw [baudRegister_eq, baudOfRegister_toNat zero]
    -- The divisor next to the root is its own nearest rate.
    by_cases middle : register.toNat = 3463
    · rw [middle]
      rfl
    · have again := register_of_fast (register.toNat + 1) (by omega) (by omega)
      simp only at again
      omega

/-- The register of a rate comes back from the rate that it stands for. -/
theorem baudRegister_baudOfRegister {rate : UInt32} {register : UInt16}
    (holds : (register.toNat : Int) = baudRegister rate) :
    baudRegister (baudOfRegister register) = register.toNat := by
  by_cases slow : rate.toNat ≤ 3463
  · rw [baudOfRegister_of_slow_rate holds slow, holds]
  · have fast := baudRegister_le_of_fast (Nat.lt_of_not_le slow)
    exact baudRegister_baudOfRegister_of_le (by omega)

/-! ## Speeds

A speed register is normal when its mantissa could not be shifted further left: its
exponent is zero, or the mantissa uses all five bits. -/

theorem mantissa_lt_iff (speed : UInt16) {exponent : Nat} (bound : exponent < 16) :
    speed >>> UInt16.ofNat exponent < 32 ↔ speed.toNat < 32 * 2 ^ exponent := by
  rw [UInt16.lt_iff_toNat_lt, shiftRight_toNat speed bound,
    Nat.div_lt_iff_lt_mul (Nat.two_pow_pos exponent)]
  rfl

/-- The bytes with a given mantissa and exponent. -/
def speedByte (mantissa exponent : Nat) : UInt8 :=
  UInt8.ofNat (8 * mantissa + exponent)

theorem speedOfRegister_speedByte
    {mantissa exponent : Nat} (five : mantissa < 32) (three : exponent < 8) :
    (speedOfRegister (speedByte mantissa exponent)).toNat = mantissa * 2 ^ exponent := by
  have value : (speedByte mantissa exponent).toNat = 8 * mantissa + exponent := by
    unfold speedByte
    rw [UInt8.toNat_ofNat']
    omega
  have high : ((speedByte mantissa exponent) >>> 3).toNat = mantissa := by
    rw [UInt8.toNat_shiftRight, value, show UInt8.toNat 3 % 8 = 3 from rfl,
      Nat.shiftRight_eq_div_pow]
    omega
  have low : ((speedByte mantissa exponent) &&& 7).toNat = exponent := by
    rw [UInt8.toNat_and, value, show UInt8.toNat 7 = 2 ^ 3 - 1 from rfl,
      Nat.and_two_pow_sub_one_eq_mod]
    omega
  have small : mantissa * 2 ^ exponent < 2 ^ 16 :=
    calc
      mantissa * 2 ^ exponent ≤ 31 * 2 ^ 7 :=
        Nat.mul_le_mul (by omega) (Nat.pow_le_pow_right (by decide) (by omega))
      _ < 2 ^ 16 := by decide
  unfold speedOfRegister
  rw [UInt16.toNat_shiftLeft, UInt8.toNat_toUInt16, UInt8.toNat_toUInt16, high, low,
    Nat.shiftLeft_eq, Nat.mod_eq_of_lt (show exponent < 16 by omega),
    Nat.mod_eq_of_lt small]

/-- The register of every speed that a normal mantissa and exponent round down to. -/
theorem speedRegister_of_normal
    {speed : UInt16} {mantissa exponent : Nat}
    (five : mantissa < 32) (three : exponent < 8)
    (normal : exponent = 0 ∨ 16 ≤ mantissa)
    (quotient : speed.toNat / 2 ^ exponent = mantissa) :
    speedRegister speed = speedByte mantissa exponent := by
  have found : ((List.range 8).find? fun tried =>
      decide (speed >>> UInt16.ofNat tried < 32)) = some exponent := by
    rw [List.find?_range_eq_some]
    refine ⟨?_, List.mem_range.mpr three, fun smaller below => ?_⟩
    · rw [decide_eq_true_iff, UInt16.lt_iff_toNat_lt, shiftRight_toNat speed (by omega),
        quotient]
      exact five
    · rw [Bool.not_eq_true', decide_eq_false_iff_not,
        mantissa_lt_iff speed (by omega), Nat.not_lt]
      have least : 16 * 2 ^ exponent ≤ speed.toNat := by
        have wide : 16 ≤ mantissa := by omega
        calc
          16 * 2 ^ exponent ≤ mantissa * 2 ^ exponent := Nat.mul_le_mul_right _ wide
          _ ≤ speed.toNat := by
            rw [← quotient]
            exact Nat.div_mul_le_self _ _
      calc
        32 * 2 ^ smaller = 16 * 2 ^ (smaller + 1) := by omega
        _ ≤ 16 * 2 ^ exponent :=
          Nat.mul_le_mul_left _ (Nat.pow_le_pow_right (by decide) below)
        _ ≤ speed.toNat := least
  unfold speedRegister
  simp only [found]
  apply UInt8.toNat_inj.mp
  simp only [speedByte, UInt8.toNat_add, UInt8.toNat_ofNat', UInt8.toNat_shiftLeft,
    UInt16.toNat_toUInt8, shiftRight_toNat speed (show exponent < 16 by omega), quotient,
    show UInt8.toNat 3 % 8 = 3 from rfl, Nat.shiftLeft_eq]
  omega

/-- Every speed rounds down to a normal mantissa and exponent, or has the greatest
register. -/
theorem speedRegister_cases (speed : UInt16) :
    (∃ mantissa exponent, mantissa < 32 ∧ exponent < 8 ∧
      (exponent = 0 ∨ 16 ≤ mantissa) ∧ speed.toNat / 2 ^ exponent = mantissa) ∨
      (32 * 2 ^ 7 ≤ speed.toNat ∧ speedRegister speed = speedByte 31 7) := by
  cases found : (List.range 8).find? fun tried =>
      decide (speed >>> UInt16.ofNat tried < 32) with
  | none =>
      have last := List.find?_range_eq_none.mp found 7 (by decide)
      rw [Bool.not_eq_true', decide_eq_false_iff_not,
        mantissa_lt_iff speed (by decide), Nat.not_lt] at last
      refine Or.inr ⟨last, ?_⟩
      unfold speedRegister
      simp only [found]
      rfl
  | some exponent =>
      obtain ⟨small, member, minimal⟩ := List.find?_range_eq_some.mp found
      have three : exponent < 8 := List.mem_range.mp member
      rw [decide_eq_true_iff, UInt16.lt_iff_toNat_lt,
        shiftRight_toNat speed (by omega)] at small
      refine Or.inl ⟨_, exponent, small, three, ?_, rfl⟩
      rcases Nat.eq_zero_or_pos exponent with zero | positive
      · exact Or.inl zero
      · have before := minimal (exponent - 1) (by omega)
        rw [Bool.not_eq_true', decide_eq_false_iff_not,
          mantissa_lt_iff speed (by omega), Nat.not_lt] at before
        refine Or.inr ((Nat.le_div_iff_mul_le (Nat.two_pow_pos exponent)).mpr ?_)
        calc
          16 * 2 ^ exponent = 32 * 2 ^ (exponent - 1) := by
            obtain ⟨less, rfl⟩ : ∃ less, exponent = less + 1 :=
              ⟨exponent - 1, by omega⟩
            simp only [Nat.add_sub_cancel]
            omega
          _ ≤ speed.toNat := before

/-- The speed that a register stands for has the same register. -/
theorem speedRegister_speedOfRegister (speed : UInt16) :
    speedRegister (speedOfRegister (speedRegister speed)) = speedRegister speed := by
  rcases speedRegister_cases speed with
    ⟨mantissa, exponent, five, three, normal, quotient⟩ | ⟨_, greatest⟩
  · rw [speedRegister_of_normal five three normal quotient]
    refine speedRegister_of_normal five three normal ?_
    rw [speedOfRegister_speedByte five three]
    exact Nat.mul_div_cancel _ (Nat.two_pow_pos exponent)
  · rw [greatest]
    rfl

/-! ## Multipliers -/

theorem multiplierRegister_toNat (multiplier : UInt16) :
    (multiplierRegister multiplier).toNat = min (max multiplier.toNat 1) 256 - 1 := by
  unfold multiplierRegister
  rw [UInt16.toNat_ofNat']
  omega

end ServoLink
