namespace ServoLink

/-! ## Channel modes -/

/-- What a channel's pin is used for. -/
inductive ChannelMode where
  | servo
  | servoMultiplied
  | output
  | input
  deriving DecidableEq, Repr

namespace ChannelMode

def all : List ChannelMode := [servo, servoMultiplied, output, input]

def name : ChannelMode → String
  | servo => "servo"
  | servoMultiplied => "servo_multiplied"
  | output => "output"
  | input => "input"

def ofName? (name : String) : Option ChannelMode :=
  all.find? fun mode => mode.name == name

/-- The two-bit code of a mode. -/
def code : ChannelMode → UInt16
  | servo => 0
  | servoMultiplied => 1
  | output => 2
  | input => 3

/-- The mode of the two lowest bits; higher bits do not matter. -/
def ofBits (bits : UInt16) : ChannelMode :=
  match (bits &&& 3).toNat with
  | 0 => servo
  | 1 => servoMultiplied
  | 2 => output
  | _ => input

end ChannelMode

/-- What a channel does when the controller starts or meets an error. -/
inductive HomeMode where
  | off
  | ignore
  | goto
  deriving DecidableEq, Repr

namespace HomeMode

def all : List HomeMode := [off, ignore, goto]

def name : HomeMode → String
  | off => "off"
  | ignore => "ignore"
  | goto => "goto"

def ofName? (name : String) : Option HomeMode :=
  all.find? fun mode => mode.name == name

end HomeMode

/-! ## Channel settings -/

/-- The configuration of one channel; positions are in quarter-microseconds. -/
structure ChannelSetting where
  name : String := ""
  mode : ChannelMode := .servo
  homeMode : HomeMode := .off
  home : UInt16 := 6000
  minimum : UInt16 := 3968
  maximum : UInt16 := 8000
  neutral : UInt16 := 6000
  range : UInt16 := 1905
  speed : UInt16 := 0
  acceleration : UInt8 := 0
  deriving DecidableEq, Repr, Inhabited

end ServoLink
