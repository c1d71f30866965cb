import ServoLink.Script.Image

namespace ServoLink

/-! ## The cyclic redundancy check -/

/-- One shift of the reflected check with polynomial 0xA001. -/
def crcShift (crc : UInt16) : UInt16 :=
  if crc &&& 1 = 0 then crc >>> 1 else (crc >>> 1) ^^^ 0xA001

/-- Takes one byte of the message into the check, its lowest bit first. -/
def crcByte (crc : UInt16) (byte : UInt8) : UInt16 :=
  Nat.repeat crcShift 8 (crc ^^^ byte.toUInt16)

/-- CRC-16/ARC as it is documented: the reflected check with polynomial 0xA001 from an initial
value of zero, taken bit by bit and without a final inversion.  This is the reference that
library implementations of the check and the firmware agree with. -/
def crc16 (message : List UInt8) : UInt16 :=
  message.foldl crcByte 0

/-! ## The script checksum -/

/-- What a script checksum covers: the subroutine table with zeros where it is unused,
and the byte code without its terminator. -/
def Program.checkedMessage (program : Program) : Except ValidationError (List UInt8) := do
  let entries ← program.tableEntries
  return subroutineTable 0 entries ++ program.byteCode

/-- The checksum that firmware keeps for a script. -/
def Program.computeChecksum (program : Program) : Except ValidationError UInt16 :=
  program.checkedMessage.map crc16

end ServoLink
