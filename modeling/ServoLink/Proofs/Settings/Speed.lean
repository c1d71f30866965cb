import Mathlib.Order.Bounds.Basic
import ServoLink.Proofs.Settings.Exact

/-!
# Speeds rounded down

A speed register has a mantissa of five bits and an exponent of three.  The register of a speed
stands for the greatest speed with such a mantissa and exponent that is not above it, and it is
found by halving the speed in arithmetic in which no byte overflows.
-/

namespace ServoLink

/-! ## Speeds with a register -/

/-- A mantissa of five bits times a power of two with an exponent of three bits. -/
def Encodable (speed : Nat) : Prop :=
  ∃ mantissa exponent, mantissa ≤ 31 ∧ exponent ≤ 7 ∧ speed = mantissa * 2 ^ exponent

theorem Encodable.le_greatest {speed : Nat} (encodable : Encodable speed) : speed ≤ 3968 := by
  obtain ⟨mantissa, exponent, five, three, rfl⟩ := encodable
  calc
    mantissa * 2 ^ exponent ≤ 31 * 2 ^ 7 :=
      Nat.mul_le_mul five (Nat.pow_le_pow_right (by decide) three)
    _ = 3968 := rfl

theorem encodable_speedOfRegister (raw : UInt8) : Encodable (speedOfRegister raw).toNat := by
  have bound := raw.toNat_lt
  have split : raw = speedByte (raw.toNat / 8) (raw.toNat % 8) := by
    unfold speedByte
    rw [Nat.div_add_mod, UInt8.ofNat_toNat]
  rw [split, speedOfRegister_speedByte (by omega) (by omega)]
  exact ⟨_, _, by omega, by omega, rfl⟩

/-- A normal mantissa and exponent round a speed down to the greatest of the encodable speeds
that are not above it: one with a larger exponent has the same quotient to stay below, and one
with a smaller exponent stays below the least normal mantissa. -/
theorem le_of_encodable
    {speed lower mantissa exponent : Nat}
    (normal : exponent = 0 ∨ 16 ≤ mantissa) (quotient : speed / 2 ^ exponent = mantissa)
    (encodable : Encodable lower) (below : lower ≤ speed) :
    lower ≤ mantissa * 2 ^ exponent := by
  obtain ⟨tried, power, five, -, rfl⟩ := encodable
  by_cases larger : exponent ≤ power
  · obtain ⟨more, rfl⟩ := Nat.exists_eq_add_of_le larger
    have regrouped : tried * 2 ^ (exponent + more) = tried * 2 ^ more * 2 ^ exponent := by
      rw [pow_add, Nat.mul_assoc, Nat.mul_comm (2 ^ more)]
    rw [regrouped] at below ⊢
    refine Nat.mul_le_mul_right _ ?_
    rw [← quotient]
    exact (Nat.le_div_iff_mul_le (Nat.two_pow_pos exponent)).mpr below
  · obtain ⟨less, rfl⟩ : ∃ less, exponent = less + 1 := ⟨exponent - 1, by omega⟩
    have wide : 16 ≤ mantissa := normal.resolve_left (Nat.succ_ne_zero less)
    calc
      tried * 2 ^ power ≤ 32 * 2 ^ less :=
        Nat.mul_le_mul (by omega) (Nat.pow_le_pow_right (by decide) (by omega))
      _ = 16 * 2 ^ (less + 1) := by
        rw [pow_succ]
        omega
      _ ≤ mantissa * 2 ^ (less + 1) := Nat.mul_le_mul_right _ wide

/-- The speed that is left of a speed in its register. -/
def roundedSpeed (speed : UInt16) : UInt16 :=
  speedOfRegister (speedRegister speed)

theorem roundedSpeed_isGreatest (speed : UInt16) :
    IsGreatest {lower | Encodable lower ∧ lower ≤ speed.toNat} (roundedSpeed speed).toNat := by
  refine ⟨⟨encodable_speedOfRegister _, ?_⟩, fun lower ⟨encodable, below⟩ => ?_⟩
  · rcases speedRegister_cases speed with
      ⟨mantissa, exponent, five, three, normal, quotient⟩ | ⟨large, greatest⟩
    · rw [roundedSpeed, speedRegister_of_normal five three normal quotient,
        speedOfRegister_speedByte five three, ← quotient]
      exact Nat.div_mul_le_self _ _
    · rw [roundedSpeed, greatest, speedOfRegister_speedByte (by decide) (by decide)]
      omega
  · rcases speedRegister_cases speed with
      ⟨mantissa, exponent, five, three, normal, quotient⟩ | ⟨large, greatest⟩
    · rw [roundedSpeed, speedRegister_of_normal five three normal quotient,
        speedOfRegister_speedByte five three]
      exact le_of_encodable normal quotient encodable below
    · rw [roundedSpeed, greatest, speedOfRegister_speedByte (by decide) (by decide)]
      exact encodable.le_greatest

theorem roundedSpeed_mono {slow fast : UInt16} (ordered : slow ≤ fast) :
    roundedSpeed slow ≤ roundedSpeed fast := by
  have least := (roundedSpeed_isGreatest slow).1
  have below : (roundedSpeed slow).toNat ≤ fast.toNat :=
    Nat.le_trans least.2 (UInt16.le_iff_toNat_le.mp ordered)
  exact UInt16.le_iff_toNat_le.mpr ((roundedSpeed_isGreatest fast).2 ⟨least.1, below⟩)

theorem roundedSpeed_speedOfRegister (raw : UInt8) :
    roundedSpeed (speedOfRegister raw) = speedOfRegister raw := by
  have greatest := roundedSpeed_isGreatest (speedOfRegister raw)
  have itself := greatest.2 ⟨encodable_speedOfRegister raw, Nat.le_refl _⟩
  exact UInt16.toNat_inj.mp (Nat.le_antisymm greatest.1.2 itself)

theorem speedRegister_of_large {speed : UInt16} (large : 3968 ≤ speed.toNat) :
    speedRegister speed = 0xFF := by
  by_cases inside : speed.toNat < 4096
  · have quotient : speed.toNat / 2 ^ 7 = 31 := by omega
    exact speedRegister_of_normal (by decide) (by decide) (Or.inr (by decide)) quotient
  · rcases speedRegister_cases speed with
      ⟨mantissa, exponent, five, three, -, quotient⟩ | ⟨-, greatest⟩
    · have small : speed.toNat < 32 * 2 ^ exponent :=
        (Nat.div_lt_iff_lt_mul (Nat.two_pow_pos exponent)).mp (by omega)
      have power : 2 ^ exponent ≤ 2 ^ 7 := Nat.pow_le_pow_right (by decide) (by omega)
      omega
    · exact greatest

/-! ## Halving without an overflow -/

/-- The register by halving: the first of the exponents whose mantissa has five bits, with the
mantissa moved into its place.  A byte that does not hold a step's result overflows. -/
def speedRegister? (mantissa : UInt16) : (exponents : List Nat) → Option UInt8
  | [] => some 0xFF
  | exponent :: later =>
      if mantissa < 32 then do
        let byte ← inBits? 8 UInt8.ofNat mantissa.toNat
        let moved ← shiftLeft? 8 UInt8.ofNat byte.toNat 3
        inBits? 8 UInt8.ofNat (exponent + moved.toNat)
      else
        speedRegister? (mantissa >>> 1) later

theorem placed_mantissa {mantissa : UInt16} (five : mantissa < 32) {exponent : Nat}
    (three : exponent < 8) :
    (do
      let byte ← inBits? 8 UInt8.ofNat mantissa.toNat
      let moved ← shiftLeft? 8 UInt8.ofNat byte.toNat 3
      inBits? 8 UInt8.ofNat (exponent + moved.toNat)) =
      some (UInt8.ofNat exponent + (mantissa.toUInt8 <<< 3)) := by
  have bound : mantissa.toNat < 32 := UInt16.lt_iff_toNat_lt.mp five
  have byte : (UInt8.ofNat mantissa.toNat).toNat = mantissa.toNat :=
    UInt8.toNat_ofNat_of_lt' (by change _ < 256; omega)
  have moved : (UInt8.ofNat (mantissa.toNat * 2 ^ 3)).toNat = mantissa.toNat * 2 ^ 3 :=
    UInt8.toNat_ofNat_of_lt' (by change _ < 256; omega)
  rw [inBits?_of_lt (by omega), Option.bind_eq_bind, Option.bind_some, byte,
    shiftLeft?_of_lt (by decide) (by omega), Option.bind_some, moved, inBits?_of_lt (by omega)]
  refine congrArg some (UInt8.toNat_inj.mp ?_)
  rw [UInt8.toNat_ofNat_of_lt' (by change _ < 256; omega), UInt8.toNat_add, UInt8.toNat_ofNat',
    UInt8.toNat_shiftLeft, UInt16.toNat_toUInt8, show UInt8.toNat 3 % 8 = 3 from rfl,
    Nat.shiftLeft_eq]
  omega

theorem shiftRight_succ (speed : UInt16) {count : Nat} (bound : count + 1 < 16) :
    speed >>> UInt16.ofNat count >>> 1 = speed >>> UInt16.ofNat (count + 1) := by
  apply UInt16.toNat_inj.mp
  rw [UInt16.toNat_shiftRight, shiftRight_toNat speed (by omega), shiftRight_toNat speed bound,
    show UInt16.toNat 1 % 16 = 1 from rfl, Nat.shiftRight_eq_div_pow, Nat.div_div_eq_div_mul,
    ← pow_add]

/-- The register of a speed with an exponent that leaves five bits, or with none. -/
def registerAt (speed : UInt16) : (exponent : Option Nat) → UInt8
  | some exponent => UInt8.ofNat exponent + ((speed >>> UInt16.ofNat exponent).toUInt8 <<< 3)
  | none => 0xFF

/-- Halving from any exponent on finds the first of those that are left. -/
theorem speedRegister?_range' (speed : UInt16) (count start : Nat) (bound : start + count ≤ 8) :
    speedRegister? (speed >>> UInt16.ofNat start) (List.range' start count) =
      some (registerAt speed ((List.range' start count).find? fun exponent =>
        decide (speed >>> UInt16.ofNat exponent < 32))) := by
  induction count generalizing start with
  | zero =>
      rfl
  | succ count inductionHypothesis =>
      rw [List.range'_succ, List.find?_cons]
      unfold speedRegister?
      by_cases small : speed >>> UInt16.ofNat start < 32
      · rw [if_pos small, decide_eq_true small]
        exact placed_mantissa small (by omega)
      · rw [if_neg small, decide_eq_false small, shiftRight_succ speed (by omega)]
        exact inductionHypothesis (start + 1) (by omega)

theorem speedRegister?_eq (speed : UInt16) :
    speedRegister? speed (List.range 8) = some (speedRegister speed) := by
  have found := speedRegister?_range' speed 8 0 (by decide)
  have whole : speed >>> UInt16.ofNat 0 = speed := by simp
  rw [← List.range_eq_range', whole] at found
  exact found

/-! ## Main result -/

/-- The register of a speed stands for the greatest encodable speed that is not above it.  So
rounding is monotone, keeps what a register stands for, and finds the same register again; the
greatest register takes all speeds from its own on.  No step of the halving, and none of the way
back, overflows. -/
theorem speedRegister_best (speed : UInt16) :
    IsGreatest {lower | Encodable lower ∧ lower ≤ speed.toNat} (roundedSpeed speed).toNat ∧
      (∀ faster, speed ≤ faster → roundedSpeed speed ≤ roundedSpeed faster) ∧
      roundedSpeed speed ≤ speed ∧
      (∀ raw, speedOfRegister raw = speed → roundedSpeed speed = speed) ∧
      speedRegister (roundedSpeed speed) = speedRegister speed ∧
      (3968 ≤ speed.toNat → speedRegister speed = 0xFF) ∧
      speedRegister? speed (List.range 8) = some (speedRegister speed) ∧
      speedOfRegister? (speedRegister speed) = some (roundedSpeed speed) := by
  refine ⟨roundedSpeed_isGreatest speed, fun _ => roundedSpeed_mono,
    UInt16.le_iff_toNat_le.mpr (roundedSpeed_isGreatest speed).1.2, ?_,
    speedRegister_speedOfRegister speed, speedRegister_of_large, speedRegister?_eq speed,
    speedOfRegister?_eq _⟩
  rintro raw rfl
  exact roundedSpeed_speedOfRegister raw

/-- A speed between two registers, and the first one beyond the greatest. -/
theorem speedRegister_best_of_rounded :
    speedRegister 1001 = speedByte 31 5 ∧ roundedSpeed 1001 = 992 ∧
      roundedSpeed 1001 ≤ roundedSpeed 3969 ∧ roundedSpeed 992 = 992 ∧
      speedRegister 3969 = 0xFF := by
  obtain ⟨-, monotone, -⟩ := speedRegister_best 1001
  obtain ⟨-, -, -, exact, -⟩ := speedRegister_best 992
  obtain ⟨-, -, -, -, -, saturates, -⟩ := speedRegister_best 3969
  exact ⟨by decide, by decide, monotone 3969 (by decide), exact (speedByte 31 5) (by decide),
    saturates (by decide)⟩

end ServoLink
