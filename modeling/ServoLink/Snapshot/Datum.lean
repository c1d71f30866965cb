import ServoLink.Settings.Basic
import ServoLink.Status.Basic

namespace ServoLink

/-! ## Data to be written -/

/-- What a record looks like before a document format has been chosen.  A variant is a
name with a payload; a variant without one is written as its name alone. -/
inductive Datum where
  | null
  | bool (value : Bool)
  | number (value : Int)
  | text (value : String)
  | list (items : List Datum)
  | map (entries : List (String × Datum))
  | variant (name : String) (payload : Datum)
  deriving Repr, Inhabited

/-! ## Settings -/

def SubroutineCommand.datum : SubroutineCommand → Datum
  | opcode code => .variant "opcode" (.number code.toNat)
  | callOnly => .text "call_only"

def Program.datum (program : Program) : Datum :=
  .map
    [ ("byte_code", .list (program.byteCode.map fun byte => .number byte.toNat)),
      ("subroutine_addresses",
        .map (program.subroutineAddresses.entries.map fun entry =>
          (entry.1, .number entry.2.toNat))),
      ("subroutine_commands",
        .map (program.subroutineCommands.entries.map fun entry => (entry.1, entry.2.datum))),
      ("checksum", .number program.checksum.toNat) ]

def ChannelSetting.datum (setting : ChannelSetting) : Datum :=
  .map
    [ ("name", .text setting.name),
      ("mode", .text setting.mode.name),
      ("home_mode", .text setting.homeMode.name),
      ("home", .number setting.home.toNat),
      ("minimum", .number setting.minimum.toNat),
      ("maximum", .number setting.maximum.toNat),
      ("neutral", .number setting.neutral.toNat),
      ("range", .number setting.range.toNat),
      ("speed", .number setting.speed.toNat),
      ("acceleration", .number setting.acceleration.toNat) ]

def Settings.datum (settings : Settings) : Datum :=
  .map
    [ ("servos_available", .number settings.servosAvailable.toNat),
      ("servo_period", .number settings.servoPeriod.toNat),
      ("mini_servo_period", .number settings.miniServoPeriod.toNat),
      ("servo_multiplier", .number settings.servoMultiplier.toNat),
      ("serial_mode", .text settings.serialMode.name),
      ("fixed_baud_rate", .number settings.fixedBaudRate.toNat),
      ("enable_crc", .bool settings.enableCrc),
      ("never_suspend", .bool settings.neverSuspend),
      ("serial_device_number", .number settings.serialDeviceNumber.toNat),
      ("mini_ssc_offset", .number settings.miniSscOffset.toNat),
      ("serial_timeout", .number settings.serialTimeout.toNat),
      ("script_done", .bool settings.scriptDone),
      ("enable_pullups", .bool settings.enablePullups),
      ("channels", .list (settings.channels.map ChannelSetting.datum)),
      ("script_inconsistent", .bool settings.scriptInconsistent),
      ("program", (settings.program.map Program.datum).getD .null) ]

/-! ## Status -/

def ServoStatus.datum (status : ServoStatus) : Datum :=
  .map
    [ ("position", .number status.position.toNat),
      ("target", .number status.target.toNat),
      ("speed", .number status.speed.toNat),
      ("acceleration", .number status.acceleration.toNat) ]

def Variables.datum (record : Variables) : Datum :=
  .map
    [ ("stack_pointer", .number record.stackPointer.toNat),
      ("call_stack_pointer", .number record.callStackPointer.toNat),
      ("errors", .number record.errors.bits.toNat),
      ("program_counter",
        (record.programCounter.map fun counter => .number counter.toNat).getD .null),
      ("script_done", .number record.scriptDone.toNat),
      ("performance_flags",
        (record.performanceFlags.map fun flags => .number flags.bits.toNat).getD .null),
      ("stack", .list (record.stack.map fun slot => .number slot.toInt)),
      ("call_stack", .list (record.callStack.map fun address => .number address.toNat)) ]

def StatusReport.datum : StatusReport → Datum
  | deviceVariables record => .variant "variables" record.datum
  | servos channels => .variant "servos" (.list (channels.map ServoStatus.datum))
  | stack slots => .variant "stack" (.list (slots.map fun slot => .number slot.toInt))
  | callStack addresses =>
      .variant "call_stack" (.list (addresses.map fun address => .number address.toNat))

end ServoLink
