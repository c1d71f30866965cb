import ServoLink.Channel.Basic
import ServoLink.Script.Program

namespace ServoLink

/-! ## Serial modes -/

/-- How the controller's serial lines are connected. -/
inductive SerialMode where
  | usbDualPort
  | usbChained
  | uartDetectBaudRate
  | uartFixedBaudRate
  deriving DecidableEq, Repr

namespace SerialMode

def all : List SerialMode :=
  [usbDualPort, usbChained, uartDetectBaudRate, uartFixedBaudRate]

def name : SerialMode → String
  | usbDualPort => "usb_dual_port"
  | usbChained => "usb_chained"
  | uartDetectBaudRate => "uart_detect_baud_rate"
  | uartFixedBaudRate => "uart_fixed_baud_rate"

def ofName? (name : String) : Option SerialMode :=
  all.find? fun mode => mode.name == name

def register : SerialMode → UInt16
  | usbDualPort => 0
  | usbChained => 1
  | uartDetectBaudRate => 2
  | uartFixedBaudRate => 3

def ofRegister? (raw : UInt16) : Option SerialMode :=
  all.find? fun mode => mode.register == raw

end SerialMode

/-! ## Controller settings -/

/-- The settings of a controller with one entry per channel.  `servosAvailable` and
`servoPeriod` matter on compact controllers only, `miniServoPeriod` and
`servoMultiplier` on extended ones only, and a fixed baud rate of zero asks for
detection. -/
structure Settings where
  servosAvailable : UInt8 := 6
  servoPeriod : UInt8 := 156
  miniServoPeriod : UInt32 := 80000
  servoMultiplier : UInt16 := 1
  serialMode : SerialMode := .uartDetectBaudRate
  fixedBaudRate : UInt32 := 9600
  enableCrc : Bool := false
  neverSuspend : Bool := false
  serialDeviceNumber : UInt8 := 12
  miniSscOffset : UInt8 := 0
  serialTimeout : UInt16 := 0
  scriptDone : Bool := true
  enablePullups : Bool := true
  channels : List ChannelSetting := []
  scriptInconsistent : Bool := false
  program : Option Program := none
  deriving DecidableEq, Repr, Inhabited

end ServoLink
