import ServoLink.Session.Operations

namespace ServoLink

/-! ## Commands -/

/-- Everything that can be asked of a session. -/
inductive Command where
  | setRawParameter (parameter : Parameter) (value : Int)
  | getRawParameter (parameter : Parameter)
  | applySettings (settings : Settings) (upload : Bool)
  | readSettings
  | readStatus (kind : StatusKind)
  | setTarget (channel : UInt8) (target : UInt16)
  | setSpeed (channel : UInt8) (speed : UInt16)
  | setAcceleration (channel : UInt8) (acceleration : UInt16)
  | eraseScript
  | uploadScript (program : Program) (withChecksum : Bool)
  | restartScriptAt (subroutine : UInt8) (parameter : Option Int16)
  | restartScript
  | setScriptState (state : Controller.ScriptState)
  | clearErrors
  | startBootloader
  | setPwm (dutyCycle period : UInt16)
  | disablePwm
  | reload
  | restoreDefaults
  | firmwareVersion
  deriving DecidableEq, Repr

/-- What a completed command answers. -/
inductive Answer where
  | nothing
  | value (word : UInt16)
  | diagnostics (found : List Diagnostic)
  | settings (record : Settings)
  | report (status : StatusReport)
  | version (firmware : FirmwareVersion)
  deriving DecidableEq, Repr

/-- The exchange that carries out a command. -/
def Controller.perform (controller : Controller) : Command → Exchange Answer
  | .setRawParameter parameter value => plain (setRawParameter parameter value)
  | .getRawParameter parameter => Answer.value <$> getRawParameter parameter
  | .applySettings settings upload =>
      Answer.diagnostics <$> controller.applySettings settings upload
  | .readSettings => Answer.settings <$> controller.readSettings
  | .readStatus kind => Answer.report <$> controller.readStatus kind
  | .setTarget channel target => plain (controller.setTarget channel target)
  | .setSpeed channel speed => plain (controller.setSpeed channel speed)
  | .setAcceleration channel acceleration =>
      plain (controller.setAcceleration channel acceleration)
  | .eraseScript => plain eraseScript
  | .uploadScript program withChecksum => plain (controller.uploadScript program withChecksum)
  | .restartScriptAt subroutine parameter => plain (restartScriptAt subroutine parameter)
  | .restartScript => plain restartScript
  | .setScriptState state => plain (setScriptState state)
  | .clearErrors => plain clearErrors
  | .startBootloader => plain startBootloader
  | .setPwm dutyCycle period => plain (controller.setPwm dutyCycle period)
  | .disablePwm => plain controller.disablePwm
  | .reload => plain controller.reload
  | .restoreDefaults => plain controller.restoreDefaults
  | .firmwareVersion => Answer.version <$> firmwareVersion
where
  plain (exchange : Exchange Unit) : Exchange Answer :=
    (fun _ => Answer.nothing) <$> exchange

/-! ## Sessions -/

/-- A device bound to the model that its product id names. -/
structure Session (δ : Type) where
  controller : Controller
  line : Exchange.Line δ
  timeout : UInt64

namespace Session

variable {δ : Type} [Transport δ]

/-- Binds a device; an unknown product is refused. -/
def bind (device : δ) (config : SessionConfig) : Except Error (Session δ) := do
  let model ← (Model.ofProduct (Transport.product device)).mapError Error.protocol
  return {
    controller := ⟨model, config.settle⟩
    line := { device := Transport.setTimeout config.timeout device }
    timeout := config.timeout }

/-- The session with counters that start at zero. -/
def counting (session : Session δ) : Session δ :=
  { session with line := { session.line with counters := some {} } }

/-- Carries out an exchange on the session's device. -/
def carryOut {α : Type} (session : Session δ) (exchange : Exchange α) :
    Except Error α × Session δ :=
  let (outcome, line) := exchange.run session.line
  (outcome, { session with line })

/-- Carries out one command. -/
def perform (session : Session δ) (command : Command) : Except Error Answer × Session δ :=
  session.carryOut (session.controller.perform command)

end Session

end ServoLink
