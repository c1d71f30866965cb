namespace ServoLink

/-! ## Settings parameters -/

/-- The address of a value in the settings region of a controller. -/
structure Parameter where
  id : UInt8
  deriving DecidableEq, Repr

namespace Parameter

def initialized : Parameter := ⟨0⟩
def servosAvailable : Parameter := ⟨1⟩
def servoPeriod : Parameter := ⟨2⟩
def serialMode : Parameter := ⟨3⟩
def fixedBaudRate : Parameter := ⟨4⟩
def serialTimeout : Parameter := ⟨6⟩
def enableCrc : Parameter := ⟨8⟩
def neverSuspend : Parameter := ⟨9⟩
def serialDeviceNumber : Parameter := ⟨10⟩
def baudDetectType : Parameter := ⟨11⟩
def channelModes0To3 : Parameter := ⟨12⟩
def channelModes4To7 : Parameter := ⟨13⟩
def channelModes8To11 : Parameter := ⟨14⟩
def channelModes12To15 : Parameter := ⟨15⟩
def channelModes16To19 : Parameter := ⟨16⟩
def channelModes20To23 : Parameter := ⟨17⟩
/-- Six-channel controllers keep their input/output pin mask here. -/
def ioMask : Parameter := ⟨16⟩
/-- Six-channel controllers keep their output pin mask here. -/
def outputMask : Parameter := ⟨17⟩
def miniServoPeriodLow : Parameter := ⟨18⟩
def miniServoPeriodHigh : Parameter := ⟨19⟩
def enablePullups : Parameter := ⟨21⟩
def scriptCrc : Parameter := ⟨22⟩
def scriptDone : Parameter := ⟨24⟩
def miniSscOffset : Parameter := ⟨25⟩
def servoMultiplier : Parameter := ⟨26⟩

end Parameter

/-! ## Servo parameters -/

/-- The largest number of channels of any model. -/
def maxChannels : Nat := 24

/-- The number of addresses set aside for each channel. -/
def servoParameterBytes : Nat := 9

/-- What a servo parameter says about its channel. -/
inductive ServoField where
  | home
  | minimum
  | maximum
  | neutral
  | range
  | speed
  | acceleration
  deriving DecidableEq, Repr

namespace ServoField

def label : ServoField → String
  | home => "Home"
  | minimum => "Min"
  | maximum => "Max"
  | neutral => "Neutral"
  | range => "Range"
  | speed => "Speed"
  | acceleration => "Acceleration"

/-- The distance from the channel's first address. -/
def offset : ServoField → Nat
  | home => 0
  | minimum => 2
  | maximum => 3
  | neutral => 4
  | range => 6
  | speed => 7
  | acceleration => 8

/-- All attributes, in the order of their addresses. -/
def all : List ServoField :=
  [home, minimum, maximum, neutral, range, speed, acceleration]

/-- The field at a distance from the channel's first address. -/
def ofOffset? (distance : Nat) : Option ServoField :=
  all.find? fun field => field.offset == distance

end ServoField

namespace Parameter

/-- The address of a channel's field, for a channel below `maxChannels`. -/
def servo (field : ServoField) (channel : Nat) : Parameter :=
  ⟨UInt8.ofNat (30 + field.offset + channel * servoParameterBytes)⟩

/-- The field and channel that a servo parameter belongs to. -/
def servo? (parameter : Parameter) : Option (ServoField × Nat) :=
  let address := parameter.id.toNat
  if address < 30 then
    none
  else
    let channel := (address - 30) / servoParameterBytes
    if channel < maxChannels then
      (ServoField.ofOffset? ((address - 30) % servoParameterBytes)).map (·, channel)
    else
      none

end Parameter

/-! ## The parameter table -/

/-- A row of the table: a value of `width` bytes with its inclusive bounds. -/
structure ParameterRow where
  parameter : Parameter
  label : String
  width : Nat
  least : UInt16
  greatest : UInt16
  deriving DecidableEq, Repr

namespace Parameter

/-- Every parameter that does not belong to a servo. -/
def table : List ParameterRow :=
  [ ⟨initialized, "initialized", 1, 0, 0xFF⟩,
    ⟨servosAvailable, "servos available", 1, 0, 0xFF⟩,
    ⟨servoPeriod, "servo period", 1, 0, 0xFF⟩,
    ⟨serialMode, "serial mode", 1, 0, 3⟩,
    ⟨fixedBaudRate, "serial fixed baud rate", 2, 0, 0xFFFF⟩,
    ⟨serialTimeout, "serial timeout", 2, 0, 0xFFFF⟩,
    ⟨enableCrc, "serial enable crc", 1, 0, 1⟩,
    ⟨neverSuspend, "serial never suspend", 1, 0, 1⟩,
    ⟨serialDeviceNumber, "serial device number", 1, 0, 0x7F⟩,
    ⟨baudDetectType, "serial baud detect type", 1, 0, 1⟩,
    ⟨channelModes0To3, "channel modes 0-3", 1, 0, 0xFF⟩,
    ⟨channelModes4To7, "channel modes 4-7", 1, 0, 0xFF⟩,
    ⟨channelModes8To11, "channel modes 8-11", 1, 0, 0xFF⟩,
    ⟨channelModes12To15, "channel modes 12-15", 1, 0, 0xFF⟩,
    ⟨channelModes16To19, "channel modes 16-19 / io mask", 1, 0, 0xFF⟩,
    ⟨channelModes20To23, "channel modes 20-23 / output mask", 1, 0, 0xFF⟩,
    ⟨miniServoPeriodLow, "servo period (low byte)", 1, 0, 0xFF⟩,
    ⟨miniServoPeriodHigh, "servo period (upper bytes)", 2, 0, 0xFFFF⟩,
    ⟨enablePullups, "enable pull-ups", 1, 0, 0xFF⟩,
    ⟨scriptCrc, "script crc", 2, 0, 0xFFFF⟩,
    ⟨scriptDone, "script done", 1, 0, 1⟩,
    ⟨miniSscOffset, "mini ssc offset", 1, 0, 254⟩,
    ⟨servoMultiplier, "servo multiplier", 1, 0, 0xFF⟩ ]

def row? (parameter : Parameter) : Option ParameterRow :=
  table.find? fun row => row.parameter == parameter

/-- The parameter as messages name it. -/
def text (parameter : Parameter) : String :=
  let address := s!"parameter {parameter.id.toNat}"
  match parameter.row?, parameter.servo? with
  | some row, _ => address ++ " (" ++ row.label ++ ")"
  | none, some (field, channel) =>
      address ++ s!" (servo {channel} " ++ field.label ++ ")"
  | none, none => address

end Parameter

end ServoLink
