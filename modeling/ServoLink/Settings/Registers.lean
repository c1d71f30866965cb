import ServoLink.Channel.ModePacking
import ServoLink.Parameter.Write
import ServoLink.Settings.Basic
import ServoLink.Settings.Scale

namespace ServoLink

/-! ## Home positions -/

/-- Home registers below this stand for a mode and not for a position. -/
def leastHome : UInt16 := 2

/-- The home register of a channel: zero is off and one is ignore, so a position to
go to has to be above them.  Inputs have no home. -/
def ChannelSetting.homeRegister (setting : ChannelSetting) (channel : UInt8) :
    Except Error Int :=
  match if setting.mode = .input then .ignore else setting.homeMode with
  | .off => .ok 0
  | .ignore => .ok 1
  | .goto =>
      if setting.home < leastHome then
        match Parameter.ofServo .home channel with
        | .ok parameter =>
            .error (.validation (.outOfRange parameter setting.home.toNat leastHome positionMax))
        | .error cause => .error (.protocol cause)
      else
        .ok setting.home.toNat

def homeOfRegister (raw : UInt16) : HomeMode × UInt16 :=
  if raw = 0 then (.off, 0)
  else if raw = 1 then (.ignore, 0)
  else (.goto, raw)

/-! ## Writing settings -/

/-- A value for a parameter, not yet checked against its range. -/
structure Assignment where
  parameter : Parameter
  value : Int
  deriving DecidableEq, Repr

def Assignment.write (assignment : Assignment) : Except Error ParameterWrite :=
  ParameterWrite.make assignment.parameter assignment.value

/-- The values of the serial lines and of the script's state at start. -/
def Settings.serialValues (settings : Settings) : List Assignment :=
  [ ⟨.serialMode, settings.serialMode.register.toNat⟩,
    ⟨.fixedBaudRate, baudRegister settings.fixedBaudRate⟩,
    ⟨.enableCrc, settings.enableCrc.toNat⟩,
    ⟨.neverSuspend, settings.neverSuspend.toNat⟩,
    ⟨.serialDeviceNumber, settings.serialDeviceNumber.toNat⟩,
    ⟨.miniSscOffset, settings.miniSscOffset.toNat⟩,
    ⟨.serialTimeout, settings.serialTimeout.toNat⟩,
    ⟨.scriptDone, settings.scriptDone.toNat⟩ ]

/-- The values that set the servo period, which differ between the families. -/
def Settings.periodValues (settings : Settings) : Family → List Assignment
  | .compact =>
      [ ⟨.servosAvailable, settings.servosAvailable.toNat⟩,
        ⟨.servoPeriod, settings.servoPeriod.toNat⟩ ]
  | .extended =>
      [ ⟨.miniServoPeriodLow, (settings.miniServoPeriod &&& 0xFF).toNat⟩,
        ⟨.miniServoPeriodHigh, (settings.miniServoPeriod >>> 8).toNat⟩,
        ⟨.servoMultiplier, (multiplierRegister settings.servoMultiplier).toNat⟩ ]

/-- The values that belong to the whole controller, in the order they are written. -/
def Settings.controllerValues (settings : Settings) (model : Model) : List Assignment :=
  settings.serialValues ++ settings.periodValues model.family ++
    if model.hasPullups then [⟨.enablePullups, settings.enablePullups.toNat⟩] else []

/-- The value of one field of a channel. -/
def ChannelSetting.value (setting : ChannelSetting) (channel : Nat) :
    ServoField → Except Error Int
  | .home => setting.homeRegister (UInt8.ofNat channel)
  | .minimum => .ok (setting.minimum.toNat / 64 : Nat)
  | .maximum => .ok (setting.maximum.toNat / 64 : Nat)
  | .neutral => .ok setting.neutral.toNat
  | .range => .ok (setting.range.toNat / 127 : Nat)
  | .speed => .ok (speedRegister setting.speed).toNat
  | .acceleration => .ok setting.acceleration.toNat

/-- The checked writes of one channel. -/
def ChannelSetting.writes (setting : ChannelSetting) (channel : Nat) :
    Except Error (List ParameterWrite) :=
  ServoField.all.mapM fun field => do
    Assignment.write ⟨.servo field channel, ← setting.value channel field⟩

/-- All writes of a controller's settings, checked and in order.  The settings have to
have exactly one entry per channel. -/
def Settings.writes (settings : Settings) (model : Model) :
    Except Error (List ParameterWrite) := do
  if settings.channels.length ≠ model.channelCount then
    throw (.validation (.channelCount model.channelCount settings.channels.length))
  let controller ← (settings.controllerValues model).mapM Assignment.write
  let channels ← settings.channels.zipIdx.mapM fun entry => entry.1.writes entry.2
  let packed ← (model.family.packModes (settings.channels.map (·.mode))).mapError Error.protocol
  let modes ← (model.modeParameters.zip packed).mapM fun entry =>
    Assignment.write ⟨entry.1, entry.2.toNat⟩
  return controller ++ channels.flatten ++ modes

/-! ## Reading settings -/

/-- The parameters that settings are read from, in the order they are asked for. -/
def Model.readOrder (model : Model) : List Parameter :=
  [.serialMode, .fixedBaudRate, .enableCrc, .neverSuspend, .serialDeviceNumber,
    .miniSscOffset, .serialTimeout, .scriptDone] ++
  (match model.family with
    | .compact => [.servosAvailable, .servoPeriod]
    | .extended => [.miniServoPeriodHigh, .miniServoPeriodLow, .servoMultiplier]) ++
  (if model.hasPullups then [.enablePullups] else []) ++
  model.modeParameters ++
  (List.range model.channelCount).flatMap fun channel =>
    ServoField.all.map fun field => .servo field channel

/-- The mode of a channel, from the values of the mode parameters. -/
def Model.modeOfRegisters (model : Model) (register : Parameter → UInt16) (channel : Nat) :
    ChannelMode :=
  match model.family with
  | .compact => modeOfMasks (register .ioMask) (register .outputMask) (pinBit channel)
  | .extended =>
      modeOfByte (register (model.modeParameters.getD (channel / 4) .channelModes0To3)) channel

/-- The setting of a channel, from the values of its parameters. -/
def Model.channelOfRegisters (model : Model) (register : Parameter → UInt16) (channel : Nat) :
    ChannelSetting :=
  let value (field : ServoField) := register (.servo field channel)
  let home := homeOfRegister (value .home)
  { mode := model.modeOfRegisters register channel
    homeMode := home.1
    home := home.2
    minimum := 64 * value .minimum
    maximum := 64 * value .maximum
    neutral := value .neutral
    range := 127 * value .range
    speed := speedOfRegister (value .speed).toUInt8
    acceleration := (value .acceleration).toUInt8 }

/-- The settings that the values of the parameters stand for. -/
def Settings.ofRegisters (model : Model) (register : Parameter → UInt16) : Settings :=
  let base : Settings :=
    { serialMode := (SerialMode.ofRegister? (register .serialMode)).getD .uartDetectBaudRate
      fixedBaudRate := baudOfRegister (register .fixedBaudRate)
      enableCrc := register .enableCrc != 0
      neverSuspend := register .neverSuspend != 0
      serialDeviceNumber := (register .serialDeviceNumber).toUInt8
      miniSscOffset := (register .miniSscOffset).toUInt8
      serialTimeout := register .serialTimeout
      scriptDone := register .scriptDone != 0
      channels := (List.range model.channelCount).map (model.channelOfRegisters register) }
  let withFamily : Settings :=
    match model.family with
    | .compact =>
        { base with
          servosAvailable := (register .servosAvailable).toUInt8
          servoPeriod := (register .servoPeriod).toUInt8 }
    | .extended =>
        { base with
          miniServoPeriod :=
            ((register .miniServoPeriodHigh).toUInt32 <<< 8) |||
              (register .miniServoPeriodLow).toUInt32
          servoMultiplier := register .servoMultiplier + 1 }
  if model.hasPullups then
    { withFamily with enablePullups := register .enablePullups != 0 }
  else
    withFamily

/-- The settings of a controller, read one parameter at a time. -/
def Settings.readWith {m : Type → Type} [Monad m] (model : Model)
    (read : Parameter → m UInt16) : m Settings := do
  let values ← model.readOrder.mapM fun parameter => do
    return (parameter, ← read parameter)
  return Settings.ofRegisters model fun parameter => (values.lookup parameter).getD 0

end ServoLink
