import ServoLink.Error
import ServoLink.Word

namespace ServoLink

/-! ## Ranges -/

/-- The width in bytes and the inclusive bounds of one parameter. -/
structure ParameterRange where
  parameter : Parameter
  width : Nat
  least : UInt16
  greatest : UInt16
  deriving DecidableEq, Repr

/-- A value inside the bounds, as the word that carries it. -/
def ParameterRange.check (range : ParameterRange) (value : Int) :
    Except ValidationError UInt16 :=
  if value < range.least.toNat ∨ range.greatest.toNat < value then
    .error (.outOfRange range.parameter value range.least range.greatest)
  else
    .ok (UInt16.ofNat value.toNat)

/-- The highest home or neutral position, in quarter-microseconds. -/
def positionMax : UInt16 := 32440

/-- The width and bounds that a field has on every channel. -/
def ServoField.limits : ServoField → Parameter → ParameterRange
  | home, parameter | neutral, parameter => ⟨parameter, 2, 0, positionMax⟩
  | minimum, parameter | maximum, parameter => ⟨parameter, 1, 0, 0xFF⟩
  | speed, parameter | acceleration, parameter => ⟨parameter, 1, 0, 0xFF⟩
  | range, parameter => ⟨parameter, 1, 1, 50⟩

namespace Parameter

/-- The range of a known parameter. -/
def range? (parameter : Parameter) : Option ParameterRange :=
  match parameter.row? with
  | some row => some ⟨parameter, row.width, row.least, row.greatest⟩
  | none => parameter.servo?.map fun found => found.1.limits parameter

def range (parameter : Parameter) : Except ProtocolError ParameterRange :=
  match parameter.range? with
  | some range => .ok range
  | none => .error (.unknownParameter parameter)

/-- The address of a field of any channel number a caller may give. -/
def ofServo (field : ServoField) (channel : UInt8) :
    Except ProtocolError Parameter :=
  if channel.toNat < maxChannels then
    .ok (servo field channel.toNat)
  else
    .error (.invalidChannel channel)

end Parameter

end ServoLink
