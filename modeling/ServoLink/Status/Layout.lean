import ServoLink.Error
import ServoLink.Status.Basic
import ServoLink.Word

namespace ServoLink

/-! ## Record lengths

All words are little-endian.  A servo record has its position at 0, target at 2, speed
at 4 and acceleration at 6.  The variables of an extended controller have the stack
pointer at 0, the call stack pointer at 1, errors at 2, the program counter at 4, the
script state at 6 and performance flags at 7.  Those of a compact controller have the
two pointers and the errors at the same places, six bytes of no use at 4, 32 stack
slots at 10, ten return addresses at 74, the script state at 94 and one byte of no use
at 95; one servo record per channel follows. -/

def servoStatusLength : Nat := 7
def extendedVariablesLength : Nat := 8
def compactVariablesLength : Nat := 96
def deviceDescriptorLength : Nat := 18

/-- A reply of exactly the expected length. -/
def expectLength (reply : Reply) (buffer : List UInt8) (expected : Nat) :
    Except ProtocolError Unit :=
  if buffer.length = expected then
    .ok ()
  else
    .error (.shortRead reply expected buffer.length)

/-! ## Servo records -/

/-- The fields of a servo record, from a buffer that is long enough. -/
def ServoStatus.ofBuffer (buffer : List UInt8) : ServoStatus :=
  { position := wordAt buffer 0
    target := wordAt buffer 2
    speed := wordAt buffer 4
    acceleration := buffer.getD 6 0 }

def ServoStatus.decode (buffer : List UInt8) : Except ProtocolError ServoStatus := do
  expectLength .servoStatus buffer servoStatusLength
  return .ofBuffer buffer

/-- As many servo records as are asked for, one after the other. -/
def ServoStatus.decodeAll (buffer : List UInt8) (count : Nat) :
    Except ProtocolError (List ServoStatus) := do
  expectLength .servoStatusArray buffer (count * servoStatusLength)
  return (List.range count).map fun channel =>
    .ofBuffer (buffer.drop (channel * servoStatusLength))

/-! ## Variables -/

def Variables.decodeExtended (buffer : List UInt8) : Except ProtocolError Variables := do
  expectLength .deviceVariables buffer extendedVariablesLength
  return {
    stackPointer := buffer.getD 0 0
    callStackPointer := buffer.getD 1 0
    errors := ⟨wordAt buffer 2⟩
    programCounter := some (wordAt buffer 4)
    scriptDone := buffer.getD 6 0
    performanceFlags := some ⟨buffer.getD 7 0⟩
    stack := []
    callStack := [] }

def Variables.decodeCompact (buffer : List UInt8) : Except ProtocolError Variables := do
  expectLength .deviceVariables buffer compactVariablesLength
  return {
    stackPointer := buffer.getD 0 0
    callStackPointer := buffer.getD 1 0
    errors := ⟨wordAt buffer 2⟩
    programCounter := none
    scriptDone := buffer.getD 94 0
    performanceFlags := none
    stack := (List.range 32).map fun slot => (wordAt buffer (10 + 2 * slot)).toInt16
    callStack := (List.range 10).map fun slot => wordAt buffer (74 + 2 * slot) }

/-- The one reply of a compact controller: variables, then the servo records. -/
def decodeCompactStatus (buffer : List UInt8) (count : Nat) :
    Except ProtocolError (Variables × List ServoStatus) := do
  expectLength .variablesAndServoStatus buffer
    (compactVariablesLength + count * servoStatusLength)
  let record ← Variables.decodeCompact (buffer.take compactVariablesLength)
  let servos ← ServoStatus.decodeAll (buffer.drop compactVariablesLength) count
  return (record, servos)

/-! ## Stacks -/

/-- The stack of an extended controller: `size` signed slots. -/
def decodeStack (buffer : List UInt8) (size : Nat) : Except ProtocolError (List Int16) := do
  expectLength .stack buffer (2 * size)
  return (wordsOf buffer).map UInt16.toInt16

/-- The call stack of an extended controller: `size` return addresses. -/
def decodeCallStack (buffer : List UInt8) (size : Nat) : Except ProtocolError (List UInt16) := do
  expectLength .callStack buffer (2 * size)
  return wordsOf buffer

/-! ## Firmware versions -/

/-- The value of two binary-coded decimal digits. -/
def ofBinaryCodedDecimal (byte : UInt8) : UInt8 :=
  byte % 16 + byte / 16 * 10

/-- The version in a device descriptor: minor number at 12, major number at 13. -/
def FirmwareVersion.decode (descriptor : List UInt8) :
    Except ProtocolError FirmwareVersion := do
  expectLength .deviceDescriptor descriptor deviceDescriptorLength
  return {
    major := ofBinaryCodedDecimal (descriptor.getD 13 0)
    minor := ofBinaryCodedDecimal (descriptor.getD 12 0) }

end ServoLink
