import ServoLink.CommandLine.Grammar
import ServoLink.Session.Command
import ServoLink.Text.Number

namespace ServoLink

/-! ## Reading arguments -/

namespace Argument

/-- A whole number, with a sign or without one, from `least` to `greatest`. -/
def integer? (least greatest : Int) (word : String) : Option Int :=
  (intOfDigits? word.toList).filter fun value => least ≤ value && value ≤ greatest

def uint8? (word : String) : Option UInt8 :=
  (integer? 0 255 word).map fun value => UInt8.ofNat value.toNat

def uint16? (word : String) : Option UInt16 :=
  (integer? 0 65535 word).map fun value => UInt16.ofNat value.toNat

def int16? (word : String) : Option Int16 :=
  (integer? (-32768) 32767 word).map Int16.ofInt

def double? (word : String) : Option Float :=
  (Decimal.parse? word.toList).map Decimal.toFloat

def model? : String → Option Model
  | "micro6" => some .micro6
  | "mini12" => some .mini12
  | "mini18" => some .mini18
  | "mini24" => some .mini24
  | _ => none

def statusKind? : String → Option StatusKind
  | "variables" => some .deviceVariables
  | "servos" => some .servos
  | "stack" => some .stack
  | "call-stack" => some .callStack
  | _ => none

end Argument

/-! ## The grammar -/

namespace CommandRule

/-- A switch, which takes no value. -/
def switchRule (name : String) : OptionRule :=
  { name }

/-- An option whose value is read by `read?`. -/
def valueRule {α : Type} (name : String) (read? : String → Option α) : OptionRule :=
  { name, accepts := some fun word => (read? word).isSome }

/-- An argument that is read by `read?`. -/
def argumentRule {α : Type} (read? : String → Option α) : ArgumentRule :=
  { accepts := fun word => (read? word).isSome }

/-- The options that every command takes. -/
def sharedOptions : List OptionRule :=
  [ switchRule "mock",
    valueRule "mock-model" Argument.model?,
    valueRule "serial" some,
    valueRule "config" some,
    switchRule "metrics" ]

def command (name : String) (arguments : List ArgumentRule) (options : List OptionRule) :
    CommandRule :=
  .mk name (options ++ sharedOptions) arguments []

def group (name : String) (commands : List CommandRule) : CommandRule :=
  .mk name sharedOptions [] commands

def settingsCommands : CommandRule :=
  group "settings"
    [ command "read" [] [valueRule "out" some],
      command "apply" [argumentRule some] [switchRule "upload-script"] ]

def scriptCommands : CommandRule :=
  group "script"
    [ command "erase" [] [],
      command "upload" [argumentRule some] [switchRule "checksum"],
      command "restart" []
        [ valueRule "subroutine" Argument.uint8?,
          { valueRule "parameter" Argument.int16? with hyphens := true } ],
      command "run" [] [],
      command "stop" [] [],
      command "step" [] [] ]

def channelCommands : List CommandRule :=
  [ command "target" [argumentRule Argument.uint8?, argumentRule Argument.double?] [switchRule "us"],
    command "speed" [argumentRule Argument.uint8?, argumentRule Argument.uint16?] [],
    command "accel" [argumentRule Argument.uint8?, argumentRule Argument.uint16?] [] ]

/-- The whole command line. -/
def program : CommandRule :=
  group "maestro" <|
    [ command "list" [] [],
      command "info" [] [],
      settingsCommands,
      command "status" [{ argumentRule Argument.statusKind? with required := false }] [] ] ++
    channelCommands ++
    [ scriptCommands,
      command "pwm" [argumentRule Argument.uint16?, argumentRule Argument.uint16?] [],
      command "pwm-off" [] [],
      command "reinit" [] [],
      command "restore-defaults" [] [],
      command "clear-errors" [] [],
      command "bootloader" [] [] ]

end CommandRule

/-! ## Invocations -/

/-- What the command line asks for.  A `control` task writes nothing. -/
inductive Task where
  | list
  | info
  | readSettings (out : Option String)
  | applySettings (path : String) (upload : Bool)
  | status (kind : StatusKind)
  | uploadScript (path : String) (withChecksum : Bool)
  | control (command : Command)
  deriving DecidableEq, Repr

/-- The nearest position to a number, a half away from zero, limited to a word. -/
def nearestPosition (value : Float) : UInt16 :=
  value.round.toUInt16

namespace Task

/-- The restart of the script, where a parameter needs a subroutine to go with it. -/
def restart? (subroutine : Option UInt8) (parameter : Option Int16) : Option Task :=
  match subroutine, parameter with
  | none, none => some (.control .restartScript)
  | none, some _ => none
  | some subroutine, parameter => some (.control (.restartScriptAt subroutine parameter))

/-- The task of a parsed command line. -/
def ofLine? (line : ParsedLine) : Option Task :=
  match line.path, line.arguments with
  | ["list"], [] => some .list
  | ["info"], [] => some .info
  | ["settings", "read"], [] => some (.readSettings (line.option? "out"))
  | ["settings", "apply"], [path] => some (.applySettings path (line.switch "upload-script"))
  | ["status"], [] => some (.status .deviceVariables)
  | ["status"], [kind] => (Argument.statusKind? kind).map .status
  | ["target"], [channel, target] => do
      let channel ← Argument.uint8? channel
      let target ← Argument.double? target
      let position :=
        if line.switch "us" then positionOfMicroseconds target else nearestPosition target
      return .control (.setTarget channel position)
  | ["speed"], [channel, speed] => do
      return .control (.setSpeed (← Argument.uint8? channel) (← Argument.uint16? speed))
  | ["accel"], [channel, acceleration] => do
      return .control (.setAcceleration (← Argument.uint8? channel) (← Argument.uint16? acceleration))
  | ["script", "erase"], [] => some (.control .eraseScript)
  | ["script", "upload"], [path] => some (.uploadScript path (line.switch "checksum"))
  | ["script", "restart"], [] =>
      restart? ((line.option? "subroutine").bind Argument.uint8?)
        ((line.option? "parameter").bind Argument.int16?)
  | ["script", state], [] =>
      (Controller.ScriptState.ofName? state).map fun state => .control (.setScriptState state)
  | ["pwm"], [dutyCycle, period] => do
      return .control (.setPwm (← Argument.uint16? dutyCycle) (← Argument.uint16? period))
  | ["pwm-off"], [] => some (.control .disablePwm)
  | ["reinit"], [] => some (.control .reload)
  | ["restore-defaults"], [] => some (.control .restoreDefaults)
  | ["clear-errors"], [] => some (.control .clearErrors)
  | ["bootloader"], [] => some (.control .startBootloader)
  | _, _ => none

end Task

/-- A command line with its options. -/
structure Invocation where
  task : Task
  mock : Bool := false
  mockModel : Model := .mini12
  serial : Option String := none
  config : Option String := none
  metrics : Bool := false
  deriving DecidableEq, Repr

/-- The invocation that the words after the program's name stand for. -/
def Invocation.parse (words : List String) : Except Refusal Invocation := do
  let line ← CommandRule.program.parse true {} none false words
  match Task.ofLine? line with
  | none => throw .invalid
  | some task =>
      return {
        task
        mock := line.switch "mock"
        mockModel := ((line.option? "mock-model").bind Argument.model?).getD .mini12
        serial := line.option? "serial"
        config := line.option? "config"
        metrics := line.switch "metrics" }

end ServoLink
