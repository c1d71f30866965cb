import ServoLink.Exchange
import ServoLink.Parameter.Write
import ServoLink.Script.Checksum
import ServoLink.Session.Config
import ServoLink.Settings.Reconcile
import ServoLink.Settings.Registers
import ServoLink.Status.Query

namespace ServoLink

/-- What the operations of a session depend on. -/
structure Controller where
  model : Model
  delays : SettleDelays := {}
  deriving DecidableEq, Repr

namespace Controller

/-- A request without a payload. -/
def request (request : Request) (value index : UInt16) : Exchange Unit :=
  .sending (request.setup value index) [] none

/-! ## Parameters -/

def writeParameter (write : ParameterWrite) : Exchange Unit :=
  .sending write.setup [] (some .parameterWrite)

/-- Writes one parameter after its value has been checked. -/
def setRawParameter (parameter : Parameter) (value : Int) : Exchange Unit := do
  writeParameter (← ParameterWrite.make parameter value)

def getRawParameter (parameter : Parameter) : Exchange UInt16 := do
  let range ← parameter.range
  let reply ← Exchange.receiving parameter.query range.width
  parameter.decode reply

/-! ## Status -/

/-- Asks for one kind of status. -/
def readStatus (controller : Controller) (kind : StatusKind) : Exchange StatusReport := do
  let query := controller.model.statusQuery kind
  let reply ← Exchange.receiving (query.request.setup 0 0) query.length
  if reply.length ≠ query.length then
    .stop (.protocol (.shortRead .status query.length reply.length))
  else
    controller.model.decodeStatus kind reply

/-- Makes firmware load its settings again and gives it time for that. -/
def reloadFor (controller : Controller) (milliseconds : UInt64) : Exchange Unit := do
  request .reload 0 0
  if controller.model.refetchesAfterReload then
    discard (controller.readStatus .deviceVariables)
  Exchange.settling milliseconds

def reload (controller : Controller) : Exchange Unit :=
  controller.reloadFor controller.delays.reload

/-- Marks the settings as uninitialized, so that firmware loads its defaults. -/
def restoreDefaults (controller : Controller) : Exchange Unit := do
  Exchange.sending
    (Request.setParameter.setup 0xFF (0x0100 + Parameter.initialized.id.toUInt16)) [] none
  controller.reloadFor controller.delays.restoreDefaults

/-! ## Scripts -/

/-- The values of the request that starts and stops the script. -/
inductive ScriptState where
  | run
  | stop
  | step
  deriving DecidableEq, Repr

def ScriptState.value : ScriptState → UInt16
  | run => 0
  | stop => 1
  | step => 2

def ScriptState.name : ScriptState → String
  | run => "run"
  | stop => "stop"
  | step => "step"

def ScriptState.ofName? (name : String) : Option ScriptState :=
  [run, stop, step].find? fun state => state.name == name

def setScriptState (state : ScriptState) : Exchange Unit :=
  request .setScriptDone state.value 0

/-- Erases the script and its subroutine table. -/
def eraseScript : Exchange Unit :=
  request .eraseScript 0 0

def writeBlocks (blocks : List ScriptBlock) : Exchange Unit :=
  blocks.forM fun block =>
    .sending (Request.writeScript.setup 0 block.index) block.data (some .scriptBlock)

/-- The write of a program's checksum; a program whose checksum cannot be computed has
none. -/
def checksumWrite (program : Program) : Except Error ParameterWrite := do
  discard (program.computeChecksum.mapError Error.validation)
  ParameterWrite.make .scriptCrc program.checksum.toNat

/-- Replaces the script in the device: the table first, then the code. -/
def writeScript (controller : Controller) (program : Program) (image : ScriptImage)
    (withChecksum : Bool) : Exchange Unit := do
  let checksum ←
    if withChecksum then some <$> checksumWrite program else pure none
  setScriptState .stop
  eraseScript
  writeBlocks (image.tableBlocks ++ image.codeBlocks)
  if let some write := checksum then
    writeParameter write
  controller.reloadFor controller.delays.scriptUpload

def uploadScript (controller : Controller) (program : Program) (withChecksum : Bool) :
    Exchange Unit := do
  let image ← ScriptImage.build program controller.model
  controller.writeScript program image withChecksum

/-- Stops the script and points it at a subroutine, with a parameter on the stack if
one is given. -/
def restartScriptAt (subroutine : UInt8) (parameter : Option Int16) : Exchange Unit :=
  match parameter with
  | none => request .restartScriptAtSubroutine 0 subroutine.toUInt16
  | some value =>
      request .restartScriptAtSubroutineWithParameter value.toUInt16 subroutine.toUInt16

def restartScript : Exchange Unit :=
  request .restartScript 0 0

/-! ## Settings -/

/-- The script that an upload of the settings includes, or why there is none. -/
def scriptToUpload (controller : Controller) (settings : Settings) :
    Except ValidationError ((Program × ScriptImage) ⊕ Diagnostic) :=
  if settings.scriptInconsistent then
    .ok (.inr .scriptInconsistent)
  else
    match settings.program with
    | none => .ok (.inr .scriptMissing)
    | some program => do
        let image ← ScriptImage.build program controller.model
        return .inl (program, image)

/-- Reconciles settings with the model and writes them.  Everything is checked before
the first transfer. -/
def applySettings (controller : Controller) (settings : Settings) (upload : Bool) :
    Exchange (List Diagnostic) := do
  let (settings, diagnostics) := settings.reconcile controller.model
  let writes ← settings.writes controller.model
  if upload then
    match ← controller.scriptToUpload settings with
    | .inl (program, image) =>
        writes.forM writeParameter
        controller.writeScript program image true
        return diagnostics
    | .inr diagnostic =>
        writes.forM writeParameter
        return diagnostics ++ [diagnostic]
  else
    writes.forM writeParameter
    return diagnostics

def readSettings (controller : Controller) : Exchange Settings :=
  Settings.readWith controller.model getRawParameter

/-! ## Channels -/

/-- The bit of the index that selects acceleration in place of speed. -/
def accelerationFlag : UInt16 := 0x80

/-- Sets a target in quarter-microseconds; zero stops the pulses. -/
def setTarget (controller : Controller) (channel : UInt8) (target : UInt16) :
    Exchange Unit := do
  controller.model.checkChannel channel
  request .setTarget target channel.toUInt16

def setSpeed (controller : Controller) (channel : UInt8) (speed : UInt16) :
    Exchange Unit := do
  controller.model.checkChannel channel
  request .setServoVariable speed channel.toUInt16

def setAcceleration (controller : Controller) (channel : UInt8) (acceleration : UInt16) :
    Exchange Unit := do
  controller.model.checkChannel channel
  request .setServoVariable acceleration (channel.toUInt16 ||| accelerationFlag)

/-! ## Pulse-width modulation -/

def setPwm (controller : Controller) (dutyCycle period : UInt16) : Exchange Unit :=
  if controller.model.isCompact then
    .stop (.protocol (.unsupported "pwm output"))
  else
    request .setPwm dutyCycle period

/-- The channel whose target switches the modulation off. -/
def pwmOffChannel (model : Model) : UInt8 :=
  if model = .mini12 then 8 else 12

def disablePwm (controller : Controller) : Exchange Unit :=
  if controller.model.isCompact then
    .stop (.protocol (.unsupported "pwm output"))
  else
    controller.setTarget (pwmOffChannel controller.model) 0

/-! ## The device itself -/

def clearErrors : Exchange Unit :=
  request .clearErrors 0 0

/-- Restarts the device in its bootloader, which does not answer these requests. -/
def startBootloader : Exchange Unit :=
  request .startBootloader 0 0

/-- The standard request for the device descriptor. -/
def descriptorQuery : Setup :=
  .standard 6 0x0100 0

def firmwareVersion : Exchange FirmwareVersion := do
  let descriptor ← Exchange.receiving descriptorQuery deviceDescriptorLength
  FirmwareVersion.decode descriptor

end Controller

end ServoLink
