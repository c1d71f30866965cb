import ServoLink.Usb.Setup

namespace ServoLink

/-! ## Vendor requests -/

/-- The requests that controller firmware understands. -/
inductive Request where
  | getParameter
  | setParameter
  | getVariables
  | setServoVariable
  | setTarget
  | clearErrors
  | getServoSettings
  | getStack
  | getCallStack
  | setPwm
  | reload
  | eraseScript
  | writeScript
  | setScriptDone
  | restartScriptAtSubroutine
  | restartScriptAtSubroutineWithParameter
  | restartScript
  | startBootloader
  deriving DecidableEq, Repr

namespace Request

def code : Request → UInt8
  | getParameter => 0x81
  | setParameter => 0x82
  | getVariables => 0x83
  | setServoVariable => 0x84
  | setTarget => 0x85
  | clearErrors => 0x86
  | getServoSettings => 0x87
  | getStack => 0x88
  | getCallStack => 0x89
  | setPwm => 0x8A
  | reload => 0x90
  | eraseScript => 0xA0
  | writeScript => 0xA1
  | setScriptDone => 0xA2
  | restartScriptAtSubroutine => 0xA3
  | restartScriptAtSubroutineWithParameter => 0xA4
  | restartScript => 0xA5
  | startBootloader => 0xFF

def setup (request : Request) (value index : UInt16) : Setup :=
  .vendor request.code value index

end Request

end ServoLink
