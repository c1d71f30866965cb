import ServoLink.Session.Config
import ServoLink.Settings.Basic

namespace ServoLink

/-! ## Documents

The two document formats differ in what they accept where a record wants a number, a
text or another record.  `Document` says what a format's values can be taken for; the
records are read through it once for both. -/

/-- What the values of a document format can be taken for. -/
class Document (δ : Type) where
  /-- The value that a value refers to, or the value itself, with the number of
  references followed. -/
  follow : δ → δ × Nat := fun value => (value, 0)
  /-- The number of references that may be followed while a document is read. -/
  allowance : δ → Nat := fun _ => 0
  /-- An unsigned number. -/
  natural? : δ → Option Nat
  boolean? : δ → Option Bool
  text? : δ → Option String
  /-- The items of a list. -/
  items? : δ → Option (List δ)
  /-- The names and values of a record whose fields have the given names, in this
  order. -/
  fields? : (names : List String) → δ → Option (List (δ × δ))
  /-- The entries of a map from names. -/
  entries? : δ → Option (List (δ × δ))
  /-- An optional value: `some none` where the format says that there is none. -/
  optional? : δ → Option (Option δ)
  /-- A variant's name, with the payload if one is written. -/
  variant? : δ → Option (String × Option δ)
  /-- Whether a payload says that there is none. -/
  isUnit : δ → Bool

/-- A step of reading a document, which counts the references that it follows. -/
abbrev Reading (α : Type) := StateT Nat Option α

namespace Document

variable {δ α : Type} [Document δ]

/-- Takes a value for something, once its reference has been followed. -/
def take (view? : δ → Option α) (value : δ) : Reading α := fun followed =>
  (view? (follow value).1).map (·, followed + (follow value).2)

/-- Reads a whole document, unless more references are followed than it allows. -/
def decode? (reading : δ → Reading α) (document : δ) : Option α := do
  let (value, followed) ← reading document 0
  if followed ≤ allowance document then some value else none

/-! ## Numbers -/

/-- An unsigned number below a limit. -/
def below (limit : Nat) : δ → Reading Nat :=
  take fun value => (natural? value).filter (· < limit)

def uint8 (value : δ) : Reading UInt8 :=
  UInt8.ofNat <$> below UInt8.size value

def uint16 (value : δ) : Reading UInt16 :=
  UInt16.ofNat <$> below UInt16.size value

def uint32 (value : δ) : Reading UInt32 :=
  UInt32.ofNat <$> below UInt32.size value

def uint64 (value : δ) : Reading UInt64 :=
  UInt64.ofNat <$> below UInt64.size value

def boolean (value : δ) : Reading Bool :=
  take boolean? value

def text (value : δ) : Reading String :=
  take text? value

/-! ## Records -/

/-- Entries with their keys read as names. -/
def named (entries : List (δ × δ)) : Reading (List (String × δ)) :=
  entries.mapM fun entry => (·, entry.2) <$> text entry.1

/-- Whether no name of `names` occurs twice among the fields. -/
def unrepeated (names : List String) (fields : List (String × δ)) : Bool :=
  names.all fun name => (fields.filter fun field => field.1 == name).length ≤ 1

/-- The fields of a record: unknown ones are left alone, known ones must not repeat. -/
def record (names : List String) (value : δ) : Reading (List (String × δ)) := do
  let fields ← named (← take (fields? names) value)
  if unrepeated names fields then return fields else failure

/-- A field of a record, or its default where the record does not mention it. -/
def field (fields : List (String × δ)) (name : String) (fallback : α)
    (reading : δ → Reading α) : Reading α :=
  match fields.lookup name with
  | none => return fallback
  | some value => reading value

/-- A list of values that are all read in the same way. -/
def list (reading : δ → Reading α) (value : δ) : Reading (List α) := do
  (← take items? value).mapM reading

/-- A variant without a payload, looked up by its name. -/
def unitVariant (ofName? : String → Option α) : δ → Reading α :=
  take fun value => do
    let (name, payload) ← variant? value
    if payload.all isUnit then ofName? name else none

/-- A map from names; a later entry of a name wins. -/
def nameMap (reading : δ → Reading α) (value : δ) : Reading (NameMap α) := do
  let entries ← take entries? value
  let decoded ← entries.mapM fun entry => do
    let name ← text entry.1
    return (name, ← reading entry.2)
  return NameMap.ofList decoded

/-- A value that may be missing. -/
def optional (reading : δ → Reading α) (value : δ) : Reading (Option α) := do
  match ← take optional? value with
  | none => return none
  | some present => some <$> reading present

end Document

/-! ## Settings -/

variable {δ : Type} [Document δ]

open Document

def SubroutineCommand.reading (value : δ) : Reading SubroutineCommand := do
  match ← take variant? value with
  | ("opcode", some payload) => opcode <$> uint8 payload
  | ("call_only", payload) => if payload.all isUnit then return callOnly else failure
  | _ => failure

def Program.fieldNames : List String :=
  ["byte_code", "subroutine_addresses", "subroutine_commands", "checksum"]

def Program.reading (value : δ) : Reading Program := do
  let fields ← record Program.fieldNames value
  return {
    byteCode := ← field fields "byte_code" [] (list uint8)
    subroutineAddresses := ← field fields "subroutine_addresses" .empty (nameMap uint16)
    subroutineCommands :=
      ← field fields "subroutine_commands" .empty (nameMap SubroutineCommand.reading)
    checksum := ← field fields "checksum" 0 uint16 }

def ChannelSetting.fieldNames : List String :=
  ["name", "mode", "home_mode", "home", "minimum", "maximum", "neutral", "range", "speed",
    "acceleration"]

def ChannelSetting.reading (value : δ) : Reading ChannelSetting := do
  let fields ← record ChannelSetting.fieldNames value
  let base : ChannelSetting := {}
  return {
    name := ← field fields "name" base.name text
    mode := ← field fields "mode" base.mode (unitVariant ChannelMode.ofName?)
    homeMode := ← field fields "home_mode" base.homeMode (unitVariant HomeMode.ofName?)
    home := ← field fields "home" base.home uint16
    minimum := ← field fields "minimum" base.minimum uint16
    maximum := ← field fields "maximum" base.maximum uint16
    neutral := ← field fields "neutral" base.neutral uint16
    range := ← field fields "range" base.range uint16
    speed := ← field fields "speed" base.speed uint16
    acceleration := ← field fields "acceleration" base.acceleration uint8 }

def Settings.fieldNames : List String :=
  ["servos_available", "servo_period", "mini_servo_period", "servo_multiplier",
    "serial_mode", "fixed_baud_rate", "enable_crc", "never_suspend",
    "serial_device_number", "mini_ssc_offset", "serial_timeout", "script_done",
    "enable_pullups", "channels", "script_inconsistent", "program"]

def Settings.reading (value : δ) : Reading Settings := do
  let fields ← record Settings.fieldNames value
  let base : Settings := {}
  return {
    servosAvailable := ← field fields "servos_available" base.servosAvailable uint8
    servoPeriod := ← field fields "servo_period" base.servoPeriod uint8
    miniServoPeriod := ← field fields "mini_servo_period" base.miniServoPeriod uint32
    servoMultiplier := ← field fields "servo_multiplier" base.servoMultiplier uint16
    serialMode := ← field fields "serial_mode" base.serialMode (unitVariant SerialMode.ofName?)
    fixedBaudRate := ← field fields "fixed_baud_rate" base.fixedBaudRate uint32
    enableCrc := ← field fields "enable_crc" base.enableCrc boolean
    neverSuspend := ← field fields "never_suspend" base.neverSuspend boolean
    serialDeviceNumber :=
      ← field fields "serial_device_number" base.serialDeviceNumber uint8
    miniSscOffset := ← field fields "mini_ssc_offset" base.miniSscOffset uint8
    serialTimeout := ← field fields "serial_timeout" base.serialTimeout uint16
    scriptDone := ← field fields "script_done" base.scriptDone boolean
    enablePullups := ← field fields "enable_pullups" base.enablePullups boolean
    channels := ← field fields "channels" base.channels (list ChannelSetting.reading)
    scriptInconsistent :=
      ← field fields "script_inconsistent" base.scriptInconsistent boolean
    program := ← field fields "program" base.program (optional Program.reading) }

/-! ## Session configuration -/

def SettleDelays.fieldNames : List String :=
  ["reinitialize_ms", "script_upload_ms", "restore_defaults_ms"]

def SettleDelays.reading (value : δ) : Reading SettleDelays := do
  let fields ← record SettleDelays.fieldNames value
  let base : SettleDelays := {}
  return {
    reload := ← field fields "reinitialize_ms" base.reload uint64
    scriptUpload := ← field fields "script_upload_ms" base.scriptUpload uint64
    restoreDefaults := ← field fields "restore_defaults_ms" base.restoreDefaults uint64 }

def SessionConfig.fieldNames : List String := ["timeout_ms", "settle"]

def SessionConfig.reading (value : δ) : Reading SessionConfig := do
  let fields ← record SessionConfig.fieldNames value
  let base : SessionConfig := {}
  return {
    timeout := ← field fields "timeout_ms" base.timeout uint64
    settle := ← field fields "settle" base.settle SettleDelays.reading }

/-! ## Whole documents -/

def Program.ofDocument? : δ → Option Program :=
  decode? Program.reading

def ChannelSetting.ofDocument? : δ → Option ChannelSetting :=
  decode? ChannelSetting.reading

def Settings.ofDocument? : δ → Option Settings :=
  decode? Settings.reading

def SessionConfig.ofDocument? : δ → Option SessionConfig :=
  decode? SessionConfig.reading

end ServoLink
