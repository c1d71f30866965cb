import ServoLink.Proofs.Parameter.Range
import ServoLink.Proofs.Settings.Scale
import ServoLink.Settings.Registers

/-!
# Registers in exact arithmetic

The arithmetic between registers and settings is done here in numbers of any size, and a
number that needs more bits than its word has is an overflow.  Bytes overflow nowhere, nor
does any word in a rate or in a servo period, and then the results are those of the words.
-/

namespace ServoLink

/-! ## Words of a number -/

section Words

variable {α : Type} {bits : Nat} {ofNat : Nat → α} {number amount : Nat}

/-- The word that holds a number; a number with more bits overflows. -/
def inBits? (bits : Nat) (ofNat : Nat → α) (number : Nat) : Option α :=
  if number < 2 ^ bits then some (ofNat number) else none

theorem inBits?_of_lt (fits : number < 2 ^ bits) :
    inBits? bits ofNat number = some (ofNat number) :=
  if_pos fits

/-- A shift by less than the width of the word, in which no bit is lost. -/
def shiftLeft? (bits : Nat) (ofNat : Nat → α) (number amount : Nat) : Option α :=
  if amount < bits then inBits? bits ofNat (number * 2 ^ amount) else none

theorem shiftLeft?_of_lt (short : amount < bits) (fits : number * 2 ^ amount < 2 ^ bits) :
    shiftLeft? bits ofNat number amount = some (ofNat (number * 2 ^ amount)) := by
  unfold shiftLeft?
  rw [if_pos short, inBits?_of_lt fits]

end Words

/-! ## Channels -/

/-- The address of a field, computed in bytes. -/
def Parameter.servoExactly? (field : ServoField) (channel : Nat) : Option Parameter := do
  let first ← inBits? 8 UInt8.ofNat (30 + field.offset)
  let distance ← inBits? 8 UInt8.ofNat (channel * servoParameterBytes)
  let address ← inBits? 8 UInt8.ofNat (first.toNat + distance.toNat)
  return ⟨address⟩

theorem Parameter.servoExactly?_eq
    (field : ServoField) {channel : Nat} (bound : channel < maxChannels) :
    servoExactly? field channel = some (servo field channel) := by
  have small := offset_lt field
  unfold maxChannels at bound
  unfold servoParameterBytes at small
  unfold servoExactly? servo servoParameterBytes
  have first : (UInt8.ofNat (30 + field.offset)).toNat = 30 + field.offset :=
    UInt8.toNat_ofNat_of_lt' (by change _ < 256; omega)
  have distance : (UInt8.ofNat (channel * 9)).toNat = channel * 9 :=
    UInt8.toNat_ofNat_of_lt' (by change _ < 256; omega)
  rw [inBits?_of_lt (by omega), Option.bind_eq_bind, Option.bind_some,
    inBits?_of_lt (by omega), Option.bind_some, first, distance, inBits?_of_lt (by omega)]
  rfl

/-- The value of a register in steps of a size. -/
def scale? (step raw : UInt16) : Option UInt16 :=
  inBits? 16 UInt16.ofNat (step.toNat * raw.toNat)

theorem scale?_of_lt {step raw : UInt16} (fits : step.toNat * raw.toNat < 2 ^ 16) :
    scale? step raw = some (step * raw) := by
  unfold scale?
  rw [inBits?_of_lt fits, UInt16.ofNat_mul, UInt16.ofNat_toNat, UInt16.ofNat_toNat]

/-- A byte of steps that are no larger than 256 fits a word. -/
theorem scale?_of_byte {step raw : UInt16} (short : step.toNat ≤ 256) (byte : raw.toNat < 256) :
    scale? step raw = some (step * raw) := by
  refine scale?_of_lt ?_
  calc
    step.toNat * raw.toNat ≤ 256 * 255 := Nat.mul_le_mul short (by omega)
    _ < 2 ^ 16 := by decide

def speedOfRegister? (raw : UInt8) : Option UInt16 :=
  shiftLeft? 16 UInt16.ofNat (raw >>> 3).toNat (raw &&& 7).toNat

theorem speedOfRegister?_eq (raw : UInt8) :
    speedOfRegister? raw = some (speedOfRegister raw) := by
  have bound := raw.toNat_lt
  have mantissa : (raw >>> 3).toNat < 32 := by
    rw [UInt8.toNat_shiftRight, show UInt8.toNat 3 % 8 = 3 from rfl,
      Nat.shiftRight_eq_div_pow]
    omega
  have exponent : (raw &&& 7).toNat < 8 := by
    rw [UInt8.toNat_and]
    exact Nat.lt_of_le_of_lt Nat.and_le_right (by decide)
  have fits : (raw >>> 3).toNat * 2 ^ (raw &&& 7).toNat < 2 ^ 16 :=
    calc
      (raw >>> 3).toNat * 2 ^ (raw &&& 7).toNat ≤ 31 * 2 ^ 7 :=
        Nat.mul_le_mul (by omega) (Nat.pow_le_pow_right (by decide) (by omega))
      _ < 2 ^ 16 := by decide
  unfold speedOfRegister? speedOfRegister
  rw [shiftLeft?_of_lt (by omega) fits]
  refine congrArg some (UInt16.toNat_inj.mp ?_)
  rw [UInt16.toNat_ofNat_of_lt' fits, UInt16.toNat_shiftLeft, UInt8.toNat_toUInt16,
    UInt8.toNat_toUInt16, Nat.mod_eq_of_lt (show (raw &&& 7).toNat < 16 by omega),
    Nat.shiftLeft_eq, Nat.mod_eq_of_lt fits]

/-! ## The whole controller -/

def baudOfRegister? (register : UInt16) : Option UInt32 :=
  if register = 0 then
    some 0
  else do
    let divisor ← inBits? 32 UInt32.ofNat (register.toNat + 1)
    let sum ← inBits? 32 UInt32.ofNat (instructionFrequency + divisor.toNat / 2)
    if divisor = 0 then none else some (sum / divisor)

theorem baudOfRegister?_eq (register : UInt16) :
    baudOfRegister? register = some (baudOfRegister register) := by
  have bound := register.toNat_lt
  unfold baudOfRegister? baudOfRegister
  by_cases zero : register = 0
  · rw [if_pos zero, if_pos zero]
  · have clock : instructionFrequency = 12000000 := rfl
    have divisor : (UInt32.ofNat (register.toNat + 1)).toNat = register.toNat + 1 :=
      UInt32.toNat_ofNat_of_lt' (by change _ < 2 ^ 32; omega)
    have sum : (UInt32.ofNat (instructionFrequency + (register.toNat + 1) / 2)).toNat =
        instructionFrequency + (register.toNat + 1) / 2 :=
      UInt32.toNat_ofNat_of_lt' (by change _ < 2 ^ 32; omega)
    have nonzero : UInt32.ofNat (register.toNat + 1) ≠ 0 := by
      intro same
      rw [same] at divisor
      cases divisor
    rw [if_neg zero, if_neg zero, inBits?_of_lt (by omega), Option.bind_eq_bind,
      Option.bind_some, divisor, inBits?_of_lt (by omega), Option.bind_some, if_neg nonzero]
    refine congrArg some (UInt32.toNat_inj.mp ?_)
    have small := Nat.div_le_self
      (instructionFrequency + (register.toNat + 1) / 2) (register.toNat + 1)
    rw [UInt32.toNat_div, sum, divisor,
      UInt32.toNat_ofNat_of_lt' (by change _ < 2 ^ 32; omega)]

/-- The upper bytes of a servo period, in their place. -/
def upperPeriod? (high : UInt16) : Option UInt32 :=
  shiftLeft? 32 UInt32.ofNat high.toNat 8

theorem upperPeriod?_eq (high : UInt16) :
    upperPeriod? high = some (high.toUInt32 <<< 8) := by
  have bound := high.toNat_lt
  have fits : high.toNat * 2 ^ 8 < 2 ^ 32 := by omega
  unfold upperPeriod?
  rw [shiftLeft?_of_lt (by decide) fits]
  refine congrArg some (UInt32.toNat_inj.mp ?_)
  rw [UInt32.toNat_ofNat_of_lt' fits, UInt32.toNat_shiftLeft, UInt16.toNat_toUInt32,
    show UInt32.toNat 8 % 32 = 8 from rfl, Nat.shiftLeft_eq, Nat.mod_eq_of_lt fits]

/-- The upper two bytes of a period and its lowest byte make three bytes. -/
theorem period_toNat_lt (high : UInt16) {low : UInt16} (byte : low.toNat < 256) :
    ((high.toUInt32 <<< 8) ||| low.toUInt32).toNat < 2 ^ 24 := by
  have bound := high.toNat_lt
  have upper : (high.toUInt32 <<< 8).toNat < 2 ^ 24 := by
    rw [UInt32.toNat_shiftLeft, UInt16.toNat_toUInt32, show UInt32.toNat 8 % 32 = 8 from rfl,
      Nat.shiftLeft_eq]
    omega
  rw [UInt32.toNat_or, UInt16.toNat_toUInt32]
  exact Nat.or_lt_two_pow upper (by omega)

/-- The multiplier of a register, which holds it less one. -/
def multiplierOfRegister? (raw : UInt16) : Option UInt16 :=
  inBits? 16 UInt16.ofNat (raw.toNat + 1)

theorem multiplierOfRegister?_of_byte {raw : UInt16} (byte : raw.toNat < 256) :
    multiplierOfRegister? raw = some (raw + 1) := by
  unfold multiplierOfRegister?
  rw [inBits?_of_lt (by omega), UInt16.ofNat_add, UInt16.ofNat_toNat]
  rfl

/-! ## Channel modes -/

/-- The mask bit of a pin. -/
def bitOfPin? (pin : UInt8) : Option UInt16 :=
  shiftLeft? 16 UInt16.ofNat 1 pin.toNat

/-- The mode in a byte, from which the bits of earlier channels are shifted out. -/
def modeOfByte? (byte : UInt16) (channel : Nat) : Option ChannelMode :=
  if 2 * (channel % 4) < 16 then some (modeOfByte byte channel) else none

theorem modeOfByte?_eq (byte : UInt16) (channel : Nat) :
    modeOfByte? byte channel = some (modeOfByte byte channel) :=
  if_pos (by omega)

end ServoLink
