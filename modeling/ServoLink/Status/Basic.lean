import ServoLink.Text.Hex

namespace ServoLink

/-! ## Flags -/

/-- The error bits of a controller. -/
structure ErrorFlags where
  bits : UInt16
  deriving DecidableEq, Repr

namespace ErrorFlags

/-- The bits that have a name, lowest first. -/
def labels : List String :=
  [ "serial signal", "serial overrun", "serial buffer full", "serial crc",
    "serial protocol", "serial timeout", "script stack", "script call stack",
    "script program counter" ]

/-- Whether all bits of `flag` are set. -/
def contains (flags : ErrorFlags) (flag : UInt16) : Bool :=
  flags.bits &&& flag == flag

def isEmpty (flags : ErrorFlags) : Bool :=
  flags.bits == 0

/-- The names of the set bits, lowest first. -/
def names (flags : ErrorFlags) : List String :=
  labels.zipIdx.filterMap fun entry =>
    if flags.bits.toNat.testBit entry.2 then some entry.1 else none

end ErrorFlags

/-- The missed-deadline bits of an extended controller. -/
structure PerformanceFlags where
  bits : UInt8
  deriving DecidableEq, Repr

/-- Whether all bits of `flag` are set. -/
def PerformanceFlags.contains (flags : PerformanceFlags) (flag : UInt8) : Bool :=
  flags.bits &&& flag == flag

/-! ## Status records -/

/-- The state of one channel. -/
structure ServoStatus where
  position : UInt16
  target : UInt16
  speed : UInt16
  acceleration : UInt8
  deriving DecidableEq, Repr

/-- The state of the script interpreter.  Compact controllers report the stacks here
and have no program counter or performance flags; extended ones do the reverse. -/
structure Variables where
  stackPointer : UInt8
  callStackPointer : UInt8
  errors : ErrorFlags
  programCounter : Option UInt16
  scriptDone : UInt8
  performanceFlags : Option PerformanceFlags
  stack : List Int16
  callStack : List UInt16
  deriving DecidableEq, Repr

/-- What can be asked of a running controller. -/
inductive StatusKind where
  | deviceVariables
  | servos
  | stack
  | callStack
  deriving DecidableEq, Repr

namespace StatusKind

def all : List StatusKind := [deviceVariables, servos, stack, callStack]

def name : StatusKind → String
  | deviceVariables => "variables"
  | servos => "servos"
  | stack => "stack"
  | callStack => "call_stack"

def ofName? (name : String) : Option StatusKind :=
  all.find? fun kind => kind.name == name

end StatusKind

inductive StatusReport where
  | deviceVariables (record : Variables)
  | servos (channels : List ServoStatus)
  | stack (slots : List Int16)
  | callStack (addresses : List UInt16)
  deriving DecidableEq, Repr

def StatusReport.kind : StatusReport → StatusKind
  | deviceVariables _ => .deviceVariables
  | servos _ => .servos
  | stack _ => .stack
  | callStack _ => .callStack

/-! ## Firmware versions -/

structure FirmwareVersion where
  major : UInt8
  minor : UInt8
  deriving DecidableEq, Repr

/-- The minor number has at least two digits. -/
def FirmwareVersion.text (version : FirmwareVersion) : String :=
  let minor := version.minor.toNat
  s!"{version.major.toNat}." ++ (if minor < 10 then "0" else "") ++ s!"{minor}"

end ServoLink
