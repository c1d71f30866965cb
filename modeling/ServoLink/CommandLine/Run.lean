import ServoLink.CommandLine.Arguments
import ServoLink.Counters.Published
import ServoLink.Device.Replay
import ServoLink.Snapshot.File
import ServoLink.Snapshot.Formats

namespace ServoLink

/-! ## Failures -/

/-- Why a task could not be completed. -/
inductive Failure where
  | hardwareMissing
  | opening
  | device (cause : Error)
  | file (cause : FileError)
  deriving DecidableEq, Repr

def Failure.message : Failure → String
  | hardwareMissing =>
      "built without the libusb feature; pass --mock or rebuild with --features libusb"
  | opening => "opening controller"
  | device cause => cause.message
  | file cause => cause.message

/-! ## Carrying out a task -/

/-- What has been written so far. -/
structure Printed where
  output : String := ""
  errors : String := ""
  deriving DecidableEq, Repr, Inhabited

/-- Steps that may fail, on a session, in a place with files. -/
abbrev TaskM (m : Type → Type) (δ : Type) :=
  ExceptT Failure (StateT (Session δ × Printed) m)

namespace TaskM

variable {m : Type → Type} [Monad m] {δ : Type} [Transport δ] {α : Type}

def exchange (exchange : Exchange α) : TaskM m δ α := do
  let (session, printed) ← get
  let (outcome, session) := session.carryOut exchange
  set (session, printed)
  match outcome with
  | .ok result => return result
  | .error cause => throw (.device cause)

def files (access : ExceptT FileError m α) : TaskM m δ α := do
  match ← (access.run : m (Except FileError α)) with
  | .ok result => return result
  | .error cause => throw (.file cause)

def printLine (line : String) : TaskM m δ Unit :=
  modify fun (session, printed) =>
    (session, { printed with output := printed.output ++ line ++ "\n" })

def warn (line : String) : TaskM m δ Unit :=
  modify fun (session, printed) =>
    (session, { printed with errors := printed.errors ++ "warning: " ++ line ++ "\n" })

end TaskM

namespace Task

variable {m : Type → Type} [Monad m] [Files m] {δ : Type} [Transport δ]

def infoLines (model : Model) (firmware : FirmwareVersion) : List String :=
  [ "product id:   0x" ++ upperHex 4 model.product.toNat,
    s!"channels:     {model.channelCount}",
    s!"script bytes: {model.maxScriptLength}",
    "firmware:     " ++ firmware.text ]

def listLine (entry : DeviceEntry) : String :=
  hex 4 entry.vendor.toNat ++ ":" ++ hex 4 entry.product.toNat ++ "\t" ++
    entry.serial.getD "-" ++ s!"\tbus {entry.bus.toNat} addr {entry.address.toNat}"

/-- Carries out a task on an open controller. -/
def carryOut (controller : Controller) : Task → TaskM m δ Unit
  | list => pure ()
  | info => do
      let firmware ← TaskM.exchange Controller.firmwareVersion
      (infoLines controller.model firmware).forM TaskM.printLine
  | readSettings out => do
      let settings ← TaskM.exchange controller.readSettings
      match out with
      | some path => TaskM.files (settings.save path)
      | none => TaskM.printLine (settings.toText .json)
  | applySettings path upload => do
      let settings ← TaskM.files (Settings.load path)
      let diagnostics ← TaskM.exchange (controller.applySettings settings upload)
      diagnostics.forM fun diagnostic => TaskM.warn diagnostic.message
      TaskM.exchange controller.reload
  | status kind => do
      let report ← TaskM.exchange (controller.readStatus kind)
      TaskM.printLine (FileFormat.json.codec.print report.datum)
  | uploadScript path withChecksum => do
      let program ← TaskM.files (Program.load path)
      TaskM.exchange (controller.uploadScript program withChecksum)
      TaskM.printLine s!"uploaded {program.byteCode.length} bytes"
  | control command => discard (TaskM.exchange (controller.perform command))

end Task

/-! ## Running the program -/

/-- What a run of the program leaves behind, apart from files.  `settled` is the time in
milliseconds that firmware needed. -/
structure Outcome where
  exitCode : UInt8
  output : String
  errors : String
  settled : Nat := 0
  deriving DecidableEq, Repr, Inhabited

namespace Outcome

def failed (failure : Failure) (printed : Printed) : Outcome :=
  { exitCode := 1
    output := printed.output
    errors := printed.errors ++ "Error: " ++ failure.message ++ "\n" }

def succeeded (output errors : String) (settled : Nat) : Outcome :=
  { exitCode := 0, output, errors, settled }

def usage : String :=
  "usage: maestro [--mock] [--mock-model MODEL] [--serial SERIAL] [--config FILE] " ++
    "[--metrics] COMMAND\n"

/-- How a command line ends that is not carried out. -/
def refused : Refusal → Outcome
  | .help => { exitCode := 0, output := usage, errors := "" }
  | .version => { exitCode := 0, output := "maestro 0.1.0\n", errors := "" }
  | .invalid => { exitCode := 2, output := "", errors := usage }

end Outcome

namespace Invocation

variable {m : Type → Type} [Monad m] [Files m]

def sessionConfig (invocation : Invocation) : ExceptT FileError m SessionConfig :=
  match invocation.config with
  | some path => SessionConfig.load path
  | none => return {}

/-- The text of the counters, if it was asked for. -/
def metricsText (invocation : Invocation) (counters : Counters) : String :=
  if invocation.metrics then counters.text else ""

/-- Carries out the task on a session, whose counters are printed at the end. -/
def runOn (invocation : Invocation) (session : Session ReplayDevice) : m Outcome := do
  let (outcome, session, printed) ←
    (invocation.task.carryOut session.controller : TaskM m ReplayDevice Unit).run.run
      (session, {})
  match outcome with
  | .error failure => return .failed failure printed
  | .ok () =>
      let metrics := invocation.metricsText (session.line.counters.getD {})
      return .succeeded (printed.output ++ metrics) printed.errors session.line.settled

/-- The device that the program talks to; this build has only the one in memory. -/
def filter (invocation : Invocation) : DeviceFilter :=
  { DeviceFilter.controllers invocation.serial with products := [invocation.mockModel.product] }

def openSession (invocation : Invocation) (config : SessionConfig) :
    Except Failure (Session ReplayDevice) := do
  let device ← (ReplayDevice.open? invocation.filter).mapError fun _ => Failure.opening
  (Session.bind device config).mapError Failure.device

/-- Lists the devices without opening one. -/
def listDevices (invocation : Invocation) : Outcome :=
  let lines := (ReplayDevice.list invocation.filter).map fun entry => Task.listLine entry ++ "\n"
  .succeeded (String.join lines ++ invocation.metricsText {}) "" 0

def run (invocation : Invocation) : m Outcome := do
  match ← invocation.sessionConfig.run with
  | .error cause => return .failed (.file cause) {}
  | .ok config =>
      if !invocation.mock then
        return .failed .hardwareMissing {}
      else if invocation.task = .list then
        return invocation.listDevices
      else
        match invocation.openSession config with
        | .error failure => return .failed failure {}
        | .ok session => invocation.runOn session.counting

end Invocation

/-- Runs the program with the words that follow its name. -/
def runCommandLine {m : Type → Type} [Monad m] [Files m] (words : List String) :
    m Outcome :=
  match Invocation.parse words with
  | .error refusal => return .refused refusal
  | .ok invocation => invocation.run

end ServoLink
