import ServoLink.Proofs.Settings.Scale

/-!
# Baud rates that come back

A rate and its register are each rounded to the other, and not in the same way.  One rounding is
enough all the same: the register of a rate is also that of the rate it stands for, and a rate that
a register stands for is read again as it is, wherever the register fits its word.
-/

namespace ServoLink

/-- The word that holds the register of a rate. -/
theorem exists_baudRegister {rate : UInt32} (held : rate = 0 ∨ 184 ≤ rate) :
    ∃ register : UInt16, (register.toNat : Int) = baudRegister rate := by
  have fits : baudRegister rate ≤ 0xFFFF :=
    (baudRegister_le_iff rate).mpr (held.imp_right UInt32.le_iff_toNat_le.mp)
  rw [baudRegister_eq] at fits ⊢
  refine ⟨UInt16.ofNat ((instructionFrequency - rate.toNat / 2) / rate.toNat), ?_⟩
  rw [UInt16.toNat_ofNat_of_lt' (by change _ < 65536; omega)]

/-- Only registers below the root of the clock stand for rates above it. -/
theorem register_le_of_fast_rate {register : UInt16}
    (fast : 3463 < (baudOfRegister register).toNat) : register.toNat ≤ 3463 := by
  have nonzero : register ≠ 0 := by
    rintro rfl
    cases fast
  have covered := (Nat.le_div_iff_mul_le (Nat.succ_pos register.toNat)).mp
    (baudOfRegister_toNat nonzero ▸ fast)
  unfold instructionFrequency at covered
  omega

/-- A rate that a register stands for is also what its own register stands for. -/
theorem baudOfRegister_again {register other : UInt16}
    (holds : (register.toNat : Int) = baudRegister (baudOfRegister other)) :
    baudOfRegister register = baudOfRegister other := by
  by_cases slow : (baudOfRegister other).toNat ≤ 3463
  · exact baudOfRegister_of_slow_rate holds slow
  · have small := register_le_of_fast_rate (Nat.lt_of_not_le slow)
    rw [baudRegister_baudOfRegister_of_le small] at holds
    rw [UInt16.toNat_inj.mp (Int.ofNat.inj holds)]

/-! ## Main result -/

/-- The register of a rate that asks for detection or is at least 184 is a word, also where half of
the rate is more than the clock and the numerator is negative.  The rate that this word stands for
has the same register.  It is the rate itself for every rate that some word stands for, and for
every rate up to 3463. -/
theorem baudRegister_stable (rate : UInt32) (held : rate = 0 ∨ 184 ≤ rate) :
    ∃ register : UInt16, baudRegister rate = register.toNat ∧
      baudRegister (baudOfRegister register) = register.toNat ∧
      (baudOfRegister register = rate ↔ ∃ other, baudOfRegister other = rate) ∧
      (rate ≤ 3463 → baudOfRegister register = rate) := by
  obtain ⟨register, holds⟩ := exists_baudRegister held
  refine ⟨register, holds.symm, baudRegister_baudOfRegister holds,
    ⟨fun exact => ⟨register, exact⟩, ?_⟩, fun slow => ?_⟩
  · rintro ⟨other, rfl⟩
    exact baudOfRegister_again holds
  · exact baudOfRegister_of_slow_rate holds (UInt32.le_iff_toNat_le.mp slow)

/-- A rate that is read as another one, which then stays; the last rate before the root; and the
greatest rate, for which the numerator is negative. -/
theorem baudRegister_stable_of_rounded :
    baudOfRegister 103 = 115385 ∧ baudRegister 115200 = 103 ∧
      baudRegister (baudOfRegister 103) = 103 ∧
      baudRegister 3463 = 3464 ∧ baudOfRegister 3464 = 3463 ∧
      ∃ register : UInt16, baudRegister 4294967295 = register.toNat ∧
        baudRegister (baudOfRegister register) = register.toNat := by
  obtain ⟨fast, fastHolds, fastAgain, -⟩ := baudRegister_stable 115200 (by decide)
  obtain ⟨slow, slowHolds, -, -, exact⟩ := baudRegister_stable 3463 (by decide)
  obtain ⟨least, leastHolds, leastAgain, -⟩ := baudRegister_stable 4294967295 (by decide)
  have fastValue : baudRegister 115200 = 103 := by decide
  have slowValue : baudRegister 3463 = 3464 := by decide
  obtain rfl : fast = 103 := UInt16.toNat_inj.mp (Int.ofNat.inj (fastHolds.symm.trans fastValue))
  obtain rfl : slow = 3464 := UInt16.toNat_inj.mp (Int.ofNat.inj (slowHolds.symm.trans slowValue))
  exact ⟨by decide, fastValue, fastAgain, slowValue, exact (by decide), least, leastHolds,
    leastAgain⟩

end ServoLink
