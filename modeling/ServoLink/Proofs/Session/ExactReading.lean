import ServoLink.Proofs.Session.Collecting
import ServoLink.Proofs.Settings.Exact

/-!
# Settings are read without an overflow

The settings are read here once more, with every step of arithmetic exact and right after
the read that it needs.  An overflow would stop the exchange with a fault; the exchange is
the same whatever the fault, so no reply of any device causes one.
-/

namespace ServoLink

/-- The setting of a channel whose mode is known. -/
def ChannelSetting.ofRegisters
    (mode : ChannelMode) (register : Parameter → UInt16) (channel : Nat) : ChannelSetting :=
  let value (field : ServoField) := register (.servo field channel)
  let home := homeOfRegister (value .home)
  { mode
    homeMode := home.1
    home := home.2
    minimum := 64 * value .minimum
    maximum := 64 * value .maximum
    neutral := value .neutral
    range := 127 * value .range
    speed := speedOfRegister (value .speed).toUInt8
    acceleration := (value .acceleration).toUInt8 }

theorem ChannelSetting.ofRegisters_congr
    {mode : ChannelMode} {first second : Parameter → UInt16} {channel : Nat}
    (same : ∀ field, first (.servo field channel) = second (.servo field channel)) :
    ofRegisters mode first channel = ofRegisters mode second channel := by
  unfold ofRegisters
  simp only [same]

namespace Controller

variable {α : Type}

/-! ## Reading exactly -/

section Exact

variable (fault : Error)

/-- A step of exact arithmetic; an overflow stops the exchange with the fault. -/
def exactly : Option α → Exchange α
  | some result => .done result
  | none => .stop fault

def readSerialExactly : Exchange Settings := do
  let mode ← getRawParameter .serialMode
  let fixedBaudRate ← exactly fault (baudOfRegister? (← getRawParameter .fixedBaudRate))
  let enableCrc ← getRawParameter .enableCrc
  let neverSuspend ← getRawParameter .neverSuspend
  let serialDeviceNumber ← getRawParameter .serialDeviceNumber
  let miniSscOffset ← getRawParameter .miniSscOffset
  let serialTimeout ← getRawParameter .serialTimeout
  let scriptDone ← getRawParameter .scriptDone
  return {
    serialMode := (SerialMode.ofRegister? mode).getD .uartDetectBaudRate
    fixedBaudRate
    enableCrc := enableCrc != 0
    neverSuspend := neverSuspend != 0
    serialDeviceNumber := serialDeviceNumber.toUInt8
    miniSscOffset := miniSscOffset.toUInt8
    serialTimeout
    scriptDone := scriptDone != 0 }

def readPeriodExactly (base : Settings) : Family → Exchange Settings
  | .compact => do
      let servosAvailable ← getRawParameter .servosAvailable
      let servoPeriod ← getRawParameter .servoPeriod
      return { base with
        servosAvailable := servosAvailable.toUInt8
        servoPeriod := servoPeriod.toUInt8 }
  | .extended => do
      let upper ← exactly fault (upperPeriod? (← getRawParameter .miniServoPeriodHigh))
      let low ← getRawParameter .miniServoPeriodLow
      let servoMultiplier ←
        exactly fault (multiplierOfRegister? (← getRawParameter .servoMultiplier))
      return { base with
        miniServoPeriod := upper ||| low.toUInt32
        servoMultiplier }

def readPullups (model : Model) (base : Settings) : Exchange Settings :=
  if model.hasPullups then do
    let enablePullups ← getRawParameter .enablePullups
    return { base with enablePullups := enablePullups != 0 }
  else
    return base

/-- The modes in the values of the mode parameters, channel by channel. -/
def unpackModesExactly (raw : List UInt16) (count : Nat) : Family → Exchange (List ChannelMode)
  | .compact =>
      match raw with
      | [io, output] =>
          (List.range count).mapM fun channel => do
            let pin ← pinOfChannel (UInt8.ofNat channel)
            let bit ← exactly fault (bitOfPin? pin)
            return modeOfMasks io output bit
      | _ => .stop (.protocol (.shortRead .channelModeMasks 2 raw.length))
  | .extended =>
      (List.range count).mapM fun channel =>
        match raw[channel / 4]? with
        | some byte => exactly fault (modeOfByte? byte channel)
        | none => .stop (.protocol (.invalidChannel (UInt8.ofNat channel)))

def readModesExactly (model : Model) : Exchange (List ChannelMode) := do
  let raw ← model.modeParameters.mapM getRawParameter
  unpackModesExactly fault raw model.channelCount model.family

def readServoExactly (field : ServoField) (channel : Nat) : Exchange UInt16 :=
  if channel < maxChannels then do
    getRawParameter (← exactly fault (Parameter.servoExactly? field channel))
  else
    .stop (.protocol (.invalidChannel (UInt8.ofNat channel)))

def readChannelExactly (mode : ChannelMode) (channel : Nat) : Exchange ChannelSetting := do
  let home ← readServoExactly fault .home channel
  let minimum ← exactly fault (scale? 64 (← readServoExactly fault .minimum channel))
  let maximum ← exactly fault (scale? 64 (← readServoExactly fault .maximum channel))
  let neutral ← readServoExactly fault .neutral channel
  let range ← exactly fault (scale? 127 (← readServoExactly fault .range channel))
  let speed ←
    exactly fault (speedOfRegister? (← readServoExactly fault .speed channel).toUInt8)
  let acceleration ← readServoExactly fault .acceleration channel
  return {
    mode
    homeMode := (homeOfRegister home).1
    home := (homeOfRegister home).2
    minimum, maximum, neutral, range, speed
    acceleration := acceleration.toUInt8 }

/-- Reads the settings part by part, each number as soon as the word for it is there. -/
def readSettingsExactly (model : Model) : Exchange Settings := do
  let serial ← readSerialExactly fault
  let timed ← readPeriodExactly fault serial model.family
  let whole ← readPullups model timed
  let modes ← readModesExactly fault model
  let channels ← modes.zipIdx.mapM fun entry =>
    readChannelExactly fault entry.1 entry.2
  return { whole with channels }

/-! ## Nothing overflows -/

def serialOrder : List Parameter :=
  [.serialMode, .fixedBaudRate, .enableCrc, .neverSuspend, .serialDeviceNumber,
    .miniSscOffset, .serialTimeout, .scriptDone]

def serialOfRegisters (register : Parameter → UInt16) : Settings :=
  { serialMode := (SerialMode.ofRegister? (register .serialMode)).getD .uartDetectBaudRate
    fixedBaudRate := baudOfRegister (register .fixedBaudRate)
    enableCrc := register .enableCrc != 0
    neverSuspend := register .neverSuspend != 0
    serialDeviceNumber := (register .serialDeviceNumber).toUInt8
    miniSscOffset := (register .miniSscOffset).toUInt8
    serialTimeout := register .serialTimeout
    scriptDone := register .scriptDone != 0 }

theorem reads_serial : Reads (readSerialExactly fault) serialOrder serialOfRegisters := by
  unfold readSerialExactly
  refine .cons rfl fun mode _ => .cons rfl fun rate _ => ?_
  rw [baudOfRegister?_eq]
  exact .cons rfl fun crc _ => .cons rfl fun suspend _ => .cons rfl fun number _ =>
    .cons rfl fun offset _ => .cons rfl fun timeout _ => .cons rfl fun done _ => .done rfl

def periodOrder : Family → List Parameter
  | .compact => [.servosAvailable, .servoPeriod]
  | .extended => [.miniServoPeriodHigh, .miniServoPeriodLow, .servoMultiplier]

def periodOfRegisters (base : Settings) (register : Parameter → UInt16) : Family → Settings
  | .compact =>
      { base with
        servosAvailable := (register .servosAvailable).toUInt8
        servoPeriod := (register .servoPeriod).toUInt8 }
  | .extended =>
      { base with
        miniServoPeriod :=
          ((register .miniServoPeriodHigh).toUInt32 <<< 8) |||
            (register .miniServoPeriodLow).toUInt32
        servoMultiplier := register .servoMultiplier + 1 }

theorem reads_period (base : Settings) (family : Family) :
    Reads (readPeriodExactly fault base family) (periodOrder family) fun register =>
      periodOfRegisters base register family := by
  cases family with
  | compact =>
      exact .cons rfl fun available _ => .cons rfl fun period _ => .done rfl
  | extended =>
      unfold readPeriodExactly
      refine .cons rfl fun high _ => ?_
      rw [upperPeriod?_eq]
      refine .cons rfl fun low _ => .cons rfl fun multiplier byte => ?_
      rw [multiplierOfRegister?_of_byte byte]
      exact .done rfl

def pullupOrder (model : Model) : List Parameter :=
  if model.hasPullups then [.enablePullups] else []

def pullupsOfRegisters (model : Model) (base : Settings) (register : Parameter → UInt16) :
    Settings :=
  if model.hasPullups then
    { base with enablePullups := register .enablePullups != 0 }
  else
    base

theorem reads_pullups (model : Model) (base : Settings) :
    Reads (readPullups model base) (pullupOrder model) (pullupsOfRegisters model base) := by
  unfold readPullups pullupOrder pullupsOfRegisters
  by_cases has : model.hasPullups
  · simp only [has, if_true]
    exact .cons rfl fun pullups _ => .done rfl
  · simp only [has, if_false, Bool.false_eq_true]
    exact .done rfl

/-! ### Modes -/

theorem bitOfPin?_of_channel {channel : Nat} (bound : channel < 6) :
    ∃ pin, pinOfChannel (UInt8.ofNat channel) = .ok pin ∧
      bitOfPin? pin = some (pinBit channel) := by
  match channel, bound with
  | 0, _ => exact ⟨0, rfl, rfl⟩
  | 1, _ => exact ⟨1, rfl, rfl⟩
  | 2, _ => exact ⟨2, rfl, rfl⟩
  | 3, _ => exact ⟨3, rfl, rfl⟩
  | 4, _ => exact ⟨6, rfl, rfl⟩
  | 5, _ => exact ⟨7, rfl, rfl⟩

/-- Every channel has its pin, or its bits in one of the bytes. -/
theorem unpackModesExactly_eq (model : Model) (register : Parameter → UInt16) :
    unpackModesExactly fault (model.modeParameters.map register) model.channelCount
        model.family =
      .done ((List.range model.channelCount).map (model.modeOfRegisters register)) := by
  have small := model.channelCount_le
  cases family : model.family with
  | compact =>
      have masks : model.modeParameters = [.ioMask, .outputMask] := by
        unfold Model.modeParameters
        rw [family]
        rfl
      have six : model.channelCount = 6 := by
        cases model with
        | micro6 => rfl
        | mini12 | mini18 | mini24 => cases family
      rw [masks, six]
      refine mapM_of_pure fun channel member => ?_
      obtain ⟨pin, wired, bit⟩ := bitOfPin?_of_channel (List.mem_range.mp member)
      rw [wired, Exchange.liftM_protocol_ok, Exchange.done_bind, bit]
      unfold Model.modeOfRegisters
      rw [family]
      rfl
  | extended =>
      have bytes : model.modeParameters.length = 6 := by
        unfold Model.modeParameters
        rw [family]
        rfl
      refine mapM_of_pure fun channel member => ?_
      have inside : channel / 4 < model.modeParameters.length := by
        have bound := List.mem_range.mp member
        unfold maxChannels at small
        omega
      unfold Model.modeOfRegisters
      rw [family, List.getElem?_map, List.getD_eq_getElem?_getD,
        List.getElem?_eq_getElem inside]
      simp only [Option.map_some, Option.getD_some, modeOfByte?_eq]
      rfl

theorem reads_words
    {order : List Parameter} (nodup : order.Nodup)
    (known : ∀ parameter ∈ order, ∃ range, parameter.range? = some range) :
    Reads (order.mapM getRawParameter) order fun register => order.map register := by
  induction order with
  | nil =>
      exact .done rfl
  | cons first rest inductionHypothesis =>
      obtain ⟨absent, restNodup⟩ := List.nodup_cons.mp nodup
      obtain ⟨⟨range, firstKnown⟩, restKnown⟩ := List.forall_mem_cons.mp known
      rw [List.mapM_cons]
      refine .cons firstKnown fun word _ => ?_
      have others (register : Parameter → UInt16) :
          (first :: rest).map (Function.update register first word) =
            word :: rest.map register := by
        rw [List.map_cons, Function.update_self]
        refine congrArg (word :: ·) (List.map_congr_left fun parameter member => ?_)
        refine Function.update_of_ne (fun same => absent ?_) _ _
        rw [← same]
        exact member
      simp only [others]
      exact (inductionHypothesis restNodup restKnown).bind_done fun _ => rfl

theorem reads_modes (model : Model) :
    Reads (readModesExactly fault model) model.modeParameters fun register =>
      (List.range model.channelCount).map (model.modeOfRegisters register) := by
  have nodup := model.sharedParameters_nodup.of_append_right
  refine (reads_words nodup fun parameter member => ?_).bind_done fun register =>
    unpackModesExactly_eq fault model register
  exact ⟨_, Model.range?_of_mem_modeParameters parameter member⟩

/-! ### Channels -/

/-- The parameters of a channel, in the order of their addresses. -/
def fieldOrder (channel : Nat) : List Parameter :=
  ServoField.all.map fun field => .servo field channel

theorem readServoExactly_eq
    (field : ServoField) {channel : Nat} (bound : channel < maxChannels) :
    readServoExactly fault field channel = getRawParameter (.servo field channel) := by
  unfold readServoExactly
  rw [if_pos bound, Parameter.servoExactly?_eq field bound]
  rfl

theorem reads_channel (mode : ChannelMode) {channel : Nat} (bound : channel < maxChannels) :
    Reads (readChannelExactly fault mode channel) (fieldOrder channel) fun register =>
      ChannelSetting.ofRegisters mode register channel := by
  have known (field : ServoField) := Parameter.range?_servo field bound
  have same (first second : ServoField) :
      Parameter.servo first channel = .servo second channel ↔ first = second :=
    ⟨fun equal => (Parameter.servo_injective bound bound equal).1, fun equal => by rw [equal]⟩
  unfold readChannelExactly
  simp only [readServoExactly_eq fault _ bound]
  refine .cons (known .home) fun home _ => .cons (known .minimum) fun minimum low => ?_
  rw [scale?_of_byte (by decide) low]
  refine .cons (known .maximum) fun maximum high => ?_
  rw [scale?_of_byte (by decide) high]
  refine .cons (known .neutral) fun neutral _ => .cons (known .range) fun range narrow => ?_
  rw [scale?_of_byte (by decide) narrow]
  refine .cons (known .speed) fun speed _ => ?_
  rw [speedOfRegister?_eq]
  refine .cons (known .acceleration) fun acceleration _ => .done ?_
  simp only [ChannelSetting.ofRegisters, Function.update_apply, same, reduceCtorEq, if_true,
    if_false]

theorem mem_fieldOrder_iff
    {field : ServoField} {channel other : Nat}
    (bound : channel < maxChannels) (otherBound : other < maxChannels) :
    Parameter.servo field channel ∈ fieldOrder other ↔ channel = other := by
  unfold fieldOrder
  rw [List.mem_map]
  constructor
  · rintro ⟨found, _, equal⟩
    exact (Parameter.servo_injective otherBound bound equal).2.symm
  · rintro rfl
    exact ⟨field, field.mem_all, rfl⟩

theorem reads_channels
    (mode : Nat → ChannelMode) {channels : List Nat} (nodup : channels.Nodup)
    (few : ∀ channel ∈ channels, channel < maxChannels) :
    Reads (channels.mapM fun channel => readChannelExactly fault (mode channel) channel)
      (channels.flatMap fieldOrder) fun register => channels.map fun channel =>
        ChannelSetting.ofRegisters (mode channel) register channel := by
  induction channels with
  | nil =>
      exact .done rfl
  | cons first rest inductionHypothesis =>
      obtain ⟨absent, restNodup⟩ := List.nodup_cons.mp nodup
      obtain ⟨bound, restFew⟩ := List.forall_mem_cons.mp few
      rw [List.mapM_cons, List.flatMap_cons]
      refine (reads_channel fault (mode first) bound).bind fun inside => ?_
      refine (inductionHypothesis restNodup restFew).bind_done fun outside => ?_
      have head : ChannelSetting.ofRegisters (mode first)
          (overlay (fieldOrder first) inside outside) first =
            ChannelSetting.ofRegisters (mode first) inside first :=
        ChannelSetting.ofRegisters_congr fun field =>
          if_pos ((mem_fieldOrder_iff bound bound).mpr rfl)
      have tail : ∀ channel ∈ rest,
          ChannelSetting.ofRegisters (mode channel)
            (overlay (fieldOrder first) inside outside) channel =
              ChannelSetting.ofRegisters (mode channel) outside channel := by
        intro channel member
        refine ChannelSetting.ofRegisters_congr fun field => if_neg fun inField => absent ?_
        rw [← (mem_fieldOrder_iff (restFew channel member) bound).mp inField]
        exact member
      rw [List.map_cons, head, List.map_congr_left tail]
      rfl

/-! ### Settings -/

theorem readOrder_eq (model : Model) :
    model.readOrder = serialOrder ++ (periodOrder model.family ++ (pullupOrder model ++
      (model.modeParameters ++ (List.range model.channelCount).flatMap fieldOrder))) := by
  unfold Model.readOrder
  cases family : model.family <;> simp only [List.append_assoc] <;> rfl

theorem servo_not_mem_of_small
    {order : List Parameter} (small : ∀ parameter ∈ order, parameter.id.toNat < 30)
    (field : ServoField) {channel : Nat} (bound : channel < maxChannels) :
    Parameter.servo field channel ∉ order := by
  intro member
  have below := small _ member
  rw [Parameter.id_servo_toNat field bound] at below
  omega

/-- Settings in the parts in which they are read. -/
theorem ofRegisters_of_parts
    (model : Model) (serial period pullups modes fields : Parameter → UInt16) :
    Settings.ofRegisters model (overlay serialOrder serial
        (overlay (periodOrder model.family) period (overlay (pullupOrder model) pullups
          (overlay model.modeParameters modes fields)))) =
      { pullupsOfRegisters model (periodOfRegisters (serialOfRegisters serial) period
          model.family) pullups with
        channels := (List.range model.channelCount).map fun channel =>
          ChannelSetting.ofRegisters (model.modeOfRegisters modes channel) fields channel } := by
  generalize words : overlay serialOrder serial _ = register
  have count := model.channelCount_le
  have channels : (List.range model.channelCount).map (model.channelOfRegisters register) =
      (List.range model.channelCount).map fun channel =>
        ChannelSetting.ofRegisters (model.modeOfRegisters modes channel) fields channel := by
    refine List.map_congr_left fun channel member => ?_
    have bound := List.mem_range.mp member
    have mode : model.modeOfRegisters register channel =
        model.modeOfRegisters modes channel := by
      refine modeOfRegisters_of_modes (fun parameter inside => ?_) bound
      have apart : ∀ parameter ∈ model.modeParameters, parameter ∉ serialOrder ∧
          parameter ∉ periodOrder model.family ∧ parameter ∉ pullupOrder model := by
        cases model <;> decide
      obtain ⟨serialApart, periodApart, pullupApart⟩ := apart parameter inside
      simp only [← words, overlay, serialApart, periodApart, pullupApart, inside, if_true,
        if_false]
    have field (field : ServoField) :
        register (.servo field channel) = fields (.servo field channel) := by
      have above (order : List Parameter)
          (small : ∀ parameter ∈ order, parameter.id.toNat < 30) :
          Parameter.servo field channel ∉ order :=
        servo_not_mem_of_small small field (Nat.lt_of_lt_of_le bound count)
      have serialApart := above serialOrder (by decide)
      have periodApart := above (periodOrder model.family) (by cases model <;> decide)
      have pullupApart := above (pullupOrder model) (by cases model <;> decide)
      have modeApart := above model.modeParameters (by cases model <;> decide)
      simp only [← words, overlay, serialApart, periodApart, pullupApart, modeApart, if_false]
    change ChannelSetting.ofRegisters (model.modeOfRegisters register channel) register
      channel = _
    rw [mode, ChannelSetting.ofRegisters_congr field]
  unfold Settings.ofRegisters
  rw [channels, ← words]
  cases model <;> rfl

theorem zipIdx_map_range {β : Type} (count : Nat) (value : Nat → β) :
    ((List.range count).map value).zipIdx =
      (List.range count).map fun place => (value place, place) := by
  refine List.ext_getElem (by simp) fun place _ _ => ?_
  simp

/-- Whatever the fault, the settings are read as if there were none. -/
theorem readSettingsExactly_eq (controller : Controller) :
    readSettingsExactly fault controller.model = controller.readSettings := by
  rw [readSettings_eq_collect]
  change Reads _ controller.model.readOrder (Settings.ofRegisters controller.model)
  rw [readOrder_eq]
  generalize controller.model = model
  have few : ∀ channel ∈ List.range model.channelCount, channel < maxChannels :=
    fun channel member => Nat.lt_of_lt_of_le (List.mem_range.mp member) model.channelCount_le
  refine (reads_serial fault).bind fun serial => ?_
  refine (reads_period fault _ model.family).bind fun period => ?_
  refine (reads_pullups model _).bind fun pullups => ?_
  refine (reads_modes fault model).bind fun modes => ?_
  simp only [ofRegisters_of_parts]
  rw [zipIdx_map_range, List.mapM_map]
  exact (reads_channels fault _ List.nodup_range few).bind_done fun _ => rfl

end Exact

end Controller

end ServoLink
