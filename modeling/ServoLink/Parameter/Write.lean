import ServoLink.Parameter.Range
import ServoLink.Request

namespace ServoLink

/-! ## Writing parameters -/

/-- A value that has passed the check of its parameter's range. -/
structure ParameterWrite where
  range : ParameterRange
  value : UInt16
  deriving DecidableEq, Repr

namespace ParameterWrite

def parameter (write : ParameterWrite) : Parameter :=
  write.range.parameter

/-- A checked write; an unknown parameter is reported before a bad value. -/
def make (parameter : Parameter) (value : Int) : Except Error ParameterWrite := do
  let range ← parameter.range.mapError Error.protocol
  let word ← (range.check value).mapError Error.validation
  return ⟨range, word⟩

/-- The value travels in the value field, the width and the address in the index. -/
def setup (write : ParameterWrite) : Setup :=
  Request.setParameter.setup write.value
    (UInt16.ofNat (write.range.width * 256 + write.parameter.id.toNat))

/-- The value in the parameter's width, low byte first. -/
def bytes (write : ParameterWrite) : List UInt8 :=
  (wordBytes write.value).take write.range.width

end ParameterWrite

namespace Parameter

/-- The bytes that store a value, after its range has been checked. -/
def encode (parameter : Parameter) (value : Int) : Except Error (List UInt8) :=
  (ParameterWrite.make parameter value).map ParameterWrite.bytes

/-- The value of exactly as many bytes as the parameter is wide; the bounds
are not checked. -/
def decode (parameter : Parameter) (bytes : List UInt8) : Except Error UInt16 := do
  let range ← parameter.range.mapError Error.protocol
  match range.width, bytes with
  | 1, [low] => return low.toUInt16
  | 2, [low, high] => return wordOfBytes low high
  | width, _ => throw (.protocol (.shortRead .parameter width bytes.length))

/-- The request that reads a parameter. -/
def query (parameter : Parameter) : Setup :=
  Request.getParameter.setup 0 parameter.id.toUInt16

end Parameter

end ServoLink
