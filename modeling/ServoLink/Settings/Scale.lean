namespace ServoLink

/-! ## Speeds -/

/-- The speed of a register: five bits of mantissa above three bits of exponent. -/
def speedOfRegister (raw : UInt8) : UInt16 :=
  (raw >>> 3).toUInt16 <<< (raw &&& 7).toUInt16

/-- The register of a speed: the least exponent that leaves a five-bit mantissa.
Bits below the mantissa are lost, and speeds that no exponent can hold give the
greatest register. -/
def speedRegister (speed : UInt16) : UInt8 :=
  let mantissa (exponent : Nat) := speed >>> UInt16.ofNat exponent
  match (List.range 8).find? fun exponent => mantissa exponent < 32 with
  | some exponent => UInt8.ofNat exponent + ((mantissa exponent).toUInt8 <<< 3)
  | none => 0xFF

/-! ## Baud rates -/

/-- The controller's instruction clock, in hertz. -/
def instructionFrequency : Nat := 12000000

/-- The baud rate generator's register for a rate; zero asks for detection.  The
division rounds toward zero. -/
def baudRegister (rate : UInt32) : Int :=
  let bps : Int := rate.toNat
  if rate = 0 then 0 else Int.tdiv ((instructionFrequency : Int) - Int.tdiv bps 2) bps

/-- The rate of a register, rounded to the nearest integer. -/
def baudOfRegister (register : UInt16) : UInt32 :=
  if register = 0 then
    0
  else
    let divisor := register.toNat + 1
    UInt32.ofNat ((instructionFrequency + divisor / 2) / divisor)

/-! ## Multipliers -/

/-- A multiplier is stored less one, after it has been limited to 1 … 256. -/
def multiplierRegister (multiplier : UInt16) : UInt16 :=
  UInt16.ofNat (min (max multiplier.toNat 1) 256 - 1)

/-! ## Microseconds -/

/-- A position in quarter-microseconds, as microseconds. -/
def microsecondsOfPosition (position : UInt16) : Float :=
  position.toFloat / 4.0

/-- The nearest position, a half away from zero, limited to a word. -/
def positionOfMicroseconds (microseconds : Float) : UInt16 :=
  (microseconds * 4.0).round.toUInt16

/-- The servo period of a compact controller, in microseconds. -/
def microsecondsOfPeriod (period servosAvailable : UInt8) : Float :=
  period.toFloat * 256.0 * servosAvailable.toFloat / 12.0

/-- The nearest period register, a half away from zero, limited to a byte. -/
def periodOfMicroseconds (microseconds : Float) (servosAvailable : UInt8) : UInt8 :=
  if servosAvailable = 0 then
    0
  else
    (microseconds / 256.0 * 12.0 / servosAvailable.toFloat).round.toUInt8

end ServoLink
