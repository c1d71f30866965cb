import ServoLink.Parameter.Basic
import ServoLink.Usb.Transport

namespace ServoLink

/-! ## Errors -/

/-- A value that the caller has to correct; no transfer has been made for it. -/
inductive ValidationError where
  | outOfRange (parameter : Parameter) (value : Int) (least greatest : UInt16)
  | scriptTooLong (length limit : Nat)
  | subroutineOpcode (name : String) (opcode : UInt8)
  | unknownSubroutine (name : String)
  | channelCount (expected actual : Nat)
  | invalidChannel (channel : UInt8) (count : Nat)
  deriving DecidableEq, Repr

/-- The records a device returns. -/
inductive Reply where
  | parameter
  | status
  | servoStatus
  | servoStatusArray
  | deviceVariables
  | variablesAndServoStatus
  | stack
  | callStack
  | deviceDescriptor
  | channelModeMasks
  deriving DecidableEq, Repr

def Reply.label : Reply → String
  | parameter => "parameter"
  | status => "status"
  | servoStatus => "servo status"
  | servoStatusArray => "servo status array"
  | deviceVariables => "variables"
  | variablesAndServoStatus => "variables and servo status"
  | stack => "stack"
  | callStack => "call stack"
  | deviceDescriptor => "device descriptor"
  | channelModeMasks => "channel mode masks"

/-- A request the tables do not know, or an answer of the wrong shape. -/
inductive ProtocolError where
  | unknownParameter (parameter : Parameter)
  | invalidChannel (channel : UInt8)
  | unrecognizedProduct (product : UInt16)
  | shortRead (reply : Reply) (expected actual : Nat)
  | unsupported (operation : String)
  deriving DecidableEq, Repr

inductive Error where
  | validation (cause : ValidationError)
  | protocol (cause : ProtocolError)
  | transport (cause : TransportError)
  deriving DecidableEq, Repr

/-! ## Messages -/

def ValidationError.message : ValidationError → String
  | outOfRange parameter value least greatest =>
      parameter.text ++
        s!" must be between {least.toNat} and {greatest.toNat} but the value given was {value}"
  | scriptTooLong length limit =>
      s!"script is too long for device ({length} bytes, maximum {limit})"
  | subroutineOpcode name opcode =>
      "subroutine " ++ name ++ s!" has opcode {opcode.toNat}, expected 128..=255"
  | unknownSubroutine name =>
      "subroutine " ++ name ++ " has an address but no command"
  | channelCount expected actual =>
      s!"settings hold {actual} channels but the device has {expected}"
  | invalidChannel channel count =>
      s!"channel {channel.toNat} is out of range for a {count}-channel device"

def ProtocolError.message : ProtocolError → String
  | unknownParameter parameter =>
      s!"invalid parameter id {parameter.id.toNat}" ++
        ", can not determine the range of this parameter"
  | invalidChannel channel => s!"invalid channel number {channel.toNat}"
  | unrecognizedProduct product => "unknown product id 0x" ++ upperHex 4 product.toNat
  | shortRead reply expected actual =>
      "short read of " ++ reply.label ++ s!": expected {expected} bytes, got {actual}"
  | unsupported operation => "not supported on this device: " ++ operation

def Error.message : Error → String
  | validation cause => cause.message
  | protocol cause => cause.message
  | transport cause => cause.message

end ServoLink
