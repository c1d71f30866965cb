import ServoLink.Proofs.Settings.Scale
import ServoLink.Proofs.Settings.Writes

/-!
# What registers remember of settings

Settings that are read from registers holding the values of some settings are those
settings in canonical form: what a register rounds is rounded, and what has no
register has its default.
-/

namespace ServoLink

/-! ## Canonical forms -/

/-- What the registers of a channel remember of its setting. -/
def ChannelSetting.canonical (setting : ChannelSetting) (family : Family) :
    ChannelSetting where
  name := ""
  mode := family.storedMode setting.mode
  homeMode := setting.storedHomeMode
  home := if setting.storedHomeMode = .goto then setting.home else 0
  minimum := 64 * (setting.minimum / 64)
  maximum := 64 * (setting.maximum / 64)
  neutral := setting.neutral
  range := 127 * (setting.range / 127)
  speed := speedOfRegister (speedRegister setting.speed)
  acceleration := setting.acceleration

/-- What the registers of a model remember of settings. -/
def Settings.canonical (settings : Settings) (model : Model) : Settings where
  servosAvailable :=
    if model.isCompact then settings.servosAvailable else ({} : Settings).servosAvailable
  servoPeriod :=
    if model.isCompact then settings.servoPeriod else ({} : Settings).servoPeriod
  miniServoPeriod :=
    if model.isCompact then ({} : Settings).miniServoPeriod else settings.miniServoPeriod
  servoMultiplier :=
    if model.isCompact then ({} : Settings).servoMultiplier
    else UInt16.ofNat (min (max settings.servoMultiplier.toNat 1) 256)
  serialMode := settings.serialMode
  fixedBaudRate := baudOfRegister (UInt16.ofNat (baudRegister settings.fixedBaudRate).toNat)
  enableCrc := settings.enableCrc
  neverSuspend := settings.neverSuspend
  serialDeviceNumber := settings.serialDeviceNumber
  miniSscOffset := settings.miniSscOffset
  serialTimeout := settings.serialTimeout
  scriptDone := settings.scriptDone
  enablePullups :=
    if model = .mini24 then settings.enablePullups else ({} : Settings).enablePullups
  channels := settings.channels.map fun setting => setting.canonical model.family
  scriptInconsistent := false
  program := none

theorem Model.hasPullups_iff (model : Model) : model.hasPullups = true ↔ model = .mini24 := by
  cases model <;> decide

/-! ## Registers that are read -/

section Read

variable {model : Model} {first second : Parameter → UInt16}

theorem mem_readOrder_channel
    {channel : Nat} (bound : channel < model.channelCount) (field : ServoField) :
    Parameter.servo field channel ∈ model.readOrder := by
  refine List.mem_append_right _ (List.mem_flatMap.mpr ⟨channel, ?_, ?_⟩)
  · exact List.mem_range.mpr bound
  · exact List.mem_map_of_mem field.mem_all

theorem mem_readOrder_mode {parameter : Parameter}
    (member : parameter ∈ model.modeParameters) : parameter ∈ model.readOrder :=
  List.mem_append_left _ (List.mem_append_right _ member)

theorem modeOfRegisters_of_modes
    (same : ∀ parameter ∈ model.modeParameters, first parameter = second parameter)
    {channel : Nat} (bound : channel < model.channelCount) :
    model.modeOfRegisters first channel = model.modeOfRegisters second channel := by
  have modes (place : Nat) (inside : place < model.modeParameters.length) :
      first model.modeParameters[place] = second model.modeParameters[place] :=
    same _ (List.getElem_mem inside)
  have extended (large : 6 = model.modeParameters.length) :
      modeOfByte (first (model.modeParameters.getD (channel / 4) .channelModes0To3)) channel =
        modeOfByte (second (model.modeParameters.getD (channel / 4) .channelModes0To3))
          channel := by
    have small := model.channelCount_le
    unfold maxChannels at small
    have inside : channel / 4 < model.modeParameters.length := by
      omega
    rw [List.getD_eq_getElem?_getD, List.getElem?_eq_getElem inside, Option.getD_some,
      modes _ inside]
  cases model with
  | micro6 =>
      have io := modes 0 (by decide)
      have output := modes 1 (by decide)
      change modeOfMasks (first .ioMask) (first .outputMask) _ =
        modeOfMasks (second .ioMask) (second .outputMask) _
      rw [show first .ioMask = second .ioMask from io,
        show first .outputMask = second .outputMask from output]
  | _ => exact extended rfl

theorem modeOfRegisters_congr
    (same : ∀ parameter ∈ model.readOrder, first parameter = second parameter)
    {channel : Nat} (bound : channel < model.channelCount) :
    model.modeOfRegisters first channel = model.modeOfRegisters second channel :=
  modeOfRegisters_of_modes (fun parameter member => same parameter (mem_readOrder_mode member))
    bound

theorem channelOfRegisters_congr
    (same : ∀ parameter ∈ model.readOrder, first parameter = second parameter)
    {channel : Nat} (bound : channel < model.channelCount) :
    model.channelOfRegisters first channel = model.channelOfRegisters second channel := by
  have fields (field : ServoField) :
      first (.servo field channel) = second (.servo field channel) :=
    same _ (mem_readOrder_channel bound field)
  unfold Model.channelOfRegisters
  simp only [fields, modeOfRegisters_congr same bound]

/-- Settings depend on no other registers than those that are read. -/
theorem ofRegisters_congr
    (same : ∀ parameter ∈ model.readOrder, first parameter = second parameter) :
    Settings.ofRegisters model first = Settings.ofRegisters model second := by
  have channels : (List.range model.channelCount).map (model.channelOfRegisters first) =
      (List.range model.channelCount).map (model.channelOfRegisters second) :=
    List.map_congr_left fun channel member =>
      channelOfRegisters_congr same (List.mem_range.mp member)
  have pullups (has : model.hasPullups) :
      first .enablePullups = second .enablePullups :=
    same _ (by simp [Model.readOrder, has])
  unfold Settings.ofRegisters
  rw [channels]
  simp only [Model.readOrder, List.append_assoc, List.cons_append, List.nil_append,
    List.forall_mem_cons] at same
  obtain ⟨mode, baud, crc, suspend, number, offset, timeout, done, others⟩ := same
  simp only [mode, baud, crc, suspend, number, offset, timeout, done]
  cases family : model.family with
  | compact =>
      simp only [family, List.cons_append, List.nil_append, List.forall_mem_cons] at others
      obtain ⟨available, period, _⟩ := others
      by_cases has : model.hasPullups
      · simp only [available, period, has, if_true, pullups has]
      · simp only [available, period, has, if_false, Bool.false_eq_true]
  | extended =>
      simp only [family, List.cons_append, List.nil_append, List.forall_mem_cons] at others
      obtain ⟨high, low, multiplier, _⟩ := others
      by_cases has : model.hasPullups
      · simp only [high, low, multiplier, has, if_true, pullups has]
      · simp only [high, low, multiplier, has, if_false, Bool.false_eq_true]

end Read

/-! ## Registers that hold assignments -/

/-- Every register holds what is assigned to it. -/
def Holds (register : Parameter → UInt16) (assignments : List Assignment) : Prop :=
  ∀ assignment ∈ assignments, ((register assignment.parameter).toNat : Int) = assignment.value

theorem eq_of_holds {raw word : UInt16} (holds : (raw.toNat : Int) = (word.toNat : Nat)) :
    raw = word :=
  UInt16.toNat_inj.mp (Int.ofNat_inj.mp holds)

theorem eq_div_of_holds {raw word divisor : UInt16}
    (holds : (raw.toNat : Int) = (word.toNat / divisor.toNat : Nat)) : raw = word / divisor := by
  rw [← UInt16.toNat_div] at holds
  exact eq_of_holds holds

theorem register_ne_zero {raw : UInt16} {flag : Bool} (holds : (raw.toNat : Int) = flag.toNat) :
    (raw != 0) = flag := by
  cases flag with
  | false =>
      have zero : raw = 0 := eq_of_holds holds
      rw [zero]
      rfl
  | true =>
      have one : raw = 1 := eq_of_holds holds
      rw [one]
      rfl

theorem toUInt8_of_holds {raw : UInt16} {byte : UInt8}
    (holds : (raw.toNat : Int) = (byte.toNat : Nat)) : raw.toUInt8 = byte := by
  have bound := byte.toNat_lt
  apply UInt8.toNat_inj.mp
  rw [UInt16.toNat_toUInt8]
  omega

theorem ofRegister?_of_holds {raw : UInt16} {mode : SerialMode}
    (holds : (raw.toNat : Int) = (mode.register.toNat : Nat)) :
    SerialMode.ofRegister? raw = some mode := by
  have same : raw = mode.register := eq_of_holds holds
  rw [same]
  cases mode <;> rfl

/-- The two registers of a period hold all of it. -/
theorem period_of_holds {period : UInt32} {high low : UInt16}
    (highHolds : (high.toNat : Int) = ((period >>> 8).toNat : Nat))
    (lowHolds : (low.toNat : Int) = ((period &&& 0xFF).toNat : Nat)) :
    (high.toUInt32 <<< 8) ||| low.toUInt32 = period := by
  have bound := period.toNat_lt
  have highValue : high.toNat = period.toNat / 2 ^ 8 := by
    rw [UInt32.toNat_shiftRight, show UInt32.toNat 8 % 32 = 8 from rfl,
      Nat.shiftRight_eq_div_pow] at highHolds
    omega
  have lowValue : low.toNat = period.toNat % 2 ^ 8 := by
    rw [UInt32.toNat_and, show UInt32.toNat 0xFF = 2 ^ 8 - 1 from rfl,
      Nat.and_two_pow_sub_one_eq_mod] at lowHolds
    omega
  have shifted : high.toNat <<< 8 % 2 ^ 32 = high.toNat <<< 8 := by
    apply Nat.mod_eq_of_lt
    rw [Nat.shiftLeft_eq]
    omega
  apply UInt32.toNat_inj.mp
  rw [UInt32.toNat_or, UInt32.toNat_shiftLeft, show UInt32.toNat 8 % 32 = 8 from rfl,
    UInt16.toNat_toUInt32, UInt16.toNat_toUInt32, shifted,
    ← Nat.shiftLeft_add_eq_or_of_lt (show low.toNat < 2 ^ 8 by omega), Nat.shiftLeft_eq]
  omega

theorem multiplier_of_holds {raw multiplier : UInt16}
    (holds : (raw.toNat : Int) = ((multiplierRegister multiplier).toNat : Nat)) :
    raw + 1 = UInt16.ofNat (min (max multiplier.toNat 1) 256) := by
  have value := multiplierRegister_toNat multiplier
  apply UInt16.toNat_inj.mp
  rw [UInt16.toNat_add, UInt16.toNat_ofNat', show UInt16.toNat 1 = 1 from rfl]
  omega

/-! ## Channels -/

section Channels

variable {model : Model} {register : Parameter → UInt16} {setting : ChannelSetting}
  {channel : Nat}

theorem home_of_holds
    (fits : setting.HomeFits)
    (holds : ((register (.servo .home channel)).toNat : Int) = setting.stored .home) :
    homeOfRegister (register (.servo .home channel)) =
      (setting.storedHomeMode, if setting.storedHomeMode = .goto then setting.home else 0) := by
  unfold ChannelSetting.HomeFits at fits
  unfold ChannelSetting.stored at holds
  generalize register (.servo .home channel) = raw at holds ⊢
  cases mode : setting.storedHomeMode with
  | off =>
      simp only [mode] at holds
      have zero : raw = 0 := eq_of_holds holds
      rw [zero]
      rfl
  | ignore =>
      simp only [mode] at holds
      have one : raw = 1 := eq_of_holds holds
      rw [one]
      rfl
  | goto =>
      simp only [mode] at holds
      have same : raw = setting.home := eq_of_holds holds
      have above : 2 ≤ setting.home.toNat := UInt16.le_iff_toNat_le.mp (fits mode)
      subst same
      unfold homeOfRegister
      rw [if_neg, if_neg]
      · rfl
      · intro one
        rw [one] at above
        exact absurd above (by decide)
      · intro zero
        rw [zero] at above
        exact absurd above (by decide)

/-- The registers of one channel give back its canonical setting. -/
theorem channelOfRegisters_eq
    (storable : setting.Storable)
    (holds : ∀ field,
      ((register (.servo field channel)).toNat : Int) = setting.stored field)
    (mode : model.modeOfRegisters register channel = model.family.storedMode setting.mode) :
    model.channelOfRegisters register channel = setting.canonical model.family := by
  have minimum : register (.servo .minimum channel) = setting.minimum / 64 :=
    eq_div_of_holds (holds .minimum)
  have maximum : register (.servo .maximum channel) = setting.maximum / 64 :=
    eq_div_of_holds (holds .maximum)
  have range : register (.servo .range channel) = setting.range / 127 :=
    eq_div_of_holds (holds .range)
  have neutral : register (.servo .neutral channel) = setting.neutral :=
    eq_of_holds (holds .neutral)
  have speed : (register (.servo .speed channel)).toUInt8 = speedRegister setting.speed :=
    toUInt8_of_holds (holds .speed)
  have acceleration : (register (.servo .acceleration channel)).toUInt8 =
      setting.acceleration :=
    toUInt8_of_holds (holds .acceleration)
  unfold Model.channelOfRegisters ChannelSetting.canonical
  simp only [home_of_holds storable.home (holds .home), minimum, maximum, range, neutral,
    speed, acceleration, mode]

end Channels

/-! ## Modes -/

section Modes

variable {settings : Settings} {model : Model} {register : Parameter → UInt16}
  {channel : Nat}

/-- Each mode parameter is assigned the mode value in its place. -/
theorem mem_modeAssignments
    {place : Nat} {parameter : Parameter} {value : UInt16}
    (parameterFound : model.modeParameters[place]? = some parameter)
    (valueFound :
      (model.family.modeValues (settings.channels.map (·.mode)))[place]? = some value) :
    (⟨parameter, value.toNat⟩ : Assignment) ∈ settings.modeAssignments model := by
  refine List.mem_map.mpr ⟨(parameter, value), ?_, rfl⟩
  refine List.mem_of_getElem? (i := place) ?_
  rw [List.getElem?_zip_eq_some]
  exact ⟨parameterFound, valueFound⟩

theorem modeRegister_of_holds
    (holds : Holds register (settings.modeAssignments model))
    (place : Nat) {parameter : Parameter} {value : UInt16}
    (parameterFound : model.modeParameters[place]? = some parameter)
    (valueFound :
      (model.family.modeValues (settings.channels.map (·.mode)))[place]? = some value) :
    register parameter = value :=
  eq_of_holds (holds _ (mem_modeAssignments parameterFound valueFound))

/-- The mode registers give back the stored mode of every channel. -/
theorem modeOfRegisters_eq
    (count : settings.channels.length = model.channelCount)
    (holds : Holds register (settings.modeAssignments model))
    (inside : channel < settings.channels.length) :
    model.modeOfRegisters register channel =
      model.family.storedMode settings.channels[channel].mode := by
  have packed : channel < (settings.channels.map (·.mode)).length := by
    rw [List.length_map]
    exact inside
  have modeFound : (settings.channels.map (·.mode))[channel] =
      settings.channels[channel].mode :=
    List.getElem_map _
  cases family : model.family with
  | compact =>
      have six : model = .micro6 := by
        cases model <;> first | rfl | cases family
      subst six
      have io := modeRegister_of_holds holds 0 rfl rfl
      have output := modeRegister_of_holds holds 1 rfl rfl
      change modeOfMasks (register .ioMask) (register .outputMask) (pinBit channel) = _
      rw [io, output, modeOfMasks_maskOf (by rw [count] at inside; exact inside) packed,
        modeFound]
  | extended =>
      have small := model.channelCount_le
      have six : channel / 4 < 6 := by
        unfold maxChannels at small
        omega
      have parameters : model.modeParameters = Family.extended.modeParameters := by
        unfold Model.modeParameters
        rw [family]
      have parameterFound : model.modeParameters[channel / 4]? =
          some (model.modeParameters.getD (channel / 4) .channelModes0To3) := by
        rw [List.getD_eq_getElem?_getD, parameters,
          List.getElem?_eq_getElem (show channel / 4 < 6 from six)]
        rfl
      have valueFound :
          (model.family.modeValues (settings.channels.map (·.mode)))[channel / 4]? =
            some (modeByte (settings.channels.map (·.mode)) (channel / 4)) := by
        rw [family, Family.modeValues, List.getElem?_map, List.getElem?_range six]
        rfl
      unfold Model.modeOfRegisters
      simp only [family]
      rw [modeRegister_of_holds holds (channel / 4) parameterFound valueFound,
        modeOfByte_modeByte, Family.storedMode_extended, ← modeFound,
        List.getD_eq_getElem?_getD, List.getElem?_eq_getElem packed, Option.getD_some]

end Modes

/-! ## Whole settings -/

section Whole

variable {settings : Settings} {model : Model} {register : Parameter → UInt16}

theorem mem_channelAssignments
    {channel : Nat} (inside : channel < settings.channels.length) (field : ServoField) :
    settings.channels[channel].assignment channel field ∈ settings.channelAssignments := by
  refine List.mem_flatMap.mpr ⟨(settings.channels[channel], channel), ?_, ?_⟩
  · exact List.mk_mem_zipIdx_iff_getElem?.mpr (List.getElem?_eq_getElem inside)
  · exact List.mem_map_of_mem field.mem_all

theorem channels_of_holds
    (count : settings.channels.length = model.channelCount)
    (storable : settings.Storable model)
    (channelsHold : Holds register settings.channelAssignments)
    (modesHold : Holds register (settings.modeAssignments model)) :
    (List.range model.channelCount).map (model.channelOfRegisters register) =
      settings.channels.map fun setting => setting.canonical model.family := by
  apply List.ext_getElem
  · simp [count]
  · intro channel _ inside
    have present : channel < settings.channels.length := by simpa using inside
    rw [List.getElem_map, List.getElem_map, List.getElem_range]
    exact channelOfRegisters_eq
      (storable.channels _ (List.getElem_mem present))
      (fun field => channelsHold _ (mem_channelAssignments present field))
      (modeOfRegisters_eq count modesHold present)

/-- Registers that hold the values of settings read back as their canonical form. -/
theorem ofRegisters_eq_canonical
    (count : settings.channels.length = model.channelCount)
    (storable : settings.Storable model)
    (holds : Holds register (settings.assignments model)) :
    Settings.ofRegisters model register = settings.canonical model := by
  have serialHolds : Holds register settings.serialValues := fun assignment member =>
    holds assignment (by simp [Settings.assignments, Settings.controllerValues, member])
  have periodHolds : Holds register (settings.periodValues model.family) :=
    fun assignment member =>
      holds assignment (by simp [Settings.assignments, Settings.controllerValues, member])
  have channelsEqual := channels_of_holds count storable
    (fun assignment member => holds assignment (by simp [Settings.assignments, member]))
    (fun assignment member => holds assignment (by simp [Settings.assignments, member]))
  simp only [Holds, Settings.serialValues, List.forall_mem_cons] at serialHolds
  obtain ⟨mode, baud, crc, suspend, number, offset, timeout, done, _⟩ := serialHolds
  have baudEqual : register .fixedBaudRate =
      UInt16.ofNat (baudRegister settings.fixedBaudRate).toNat := by
    rw [← baud, Int.toNat_natCast, UInt16.ofNat_toNat]
  have timeoutEqual : register .serialTimeout = settings.serialTimeout :=
    eq_of_holds timeout
  unfold Settings.ofRegisters Settings.canonical
  simp only [channelsEqual, ofRegister?_of_holds mode, Option.getD_some, baudEqual,
    register_ne_zero crc, register_ne_zero suspend, toUInt8_of_holds number,
    toUInt8_of_holds offset, timeoutEqual, register_ne_zero done]
  have pullups (largest : model = .mini24) :
      (register .enablePullups != 0) = settings.enablePullups := by
    have has := model.hasPullups_iff.mpr largest
    exact register_ne_zero (holds ⟨.enablePullups, settings.enablePullups.toNat⟩
      (by simp [Settings.assignments, Settings.controllerValues, has]))
  cases family : model.family with
  | compact =>
      have compact : model.isCompact = true := by
        unfold Model.isCompact
        rw [family]
        rfl
      simp only [family, Settings.periodValues, Holds, List.forall_mem_cons] at periodHolds
      obtain ⟨available, period, _⟩ := periodHolds
      simp only [compact, if_true, toUInt8_of_holds available, toUInt8_of_holds period,
        model.hasPullups_iff]
      by_cases largest : model = .mini24
      · simp only [if_pos largest, pullups largest]
      · simp only [if_neg largest]
  | extended =>
      have extended : model.isCompact = false := by
        unfold Model.isCompact
        rw [family]
        rfl
      simp only [family, Settings.periodValues, Holds, List.forall_mem_cons] at periodHolds
      obtain ⟨low, high, multiplier, _⟩ := periodHolds
      simp only [extended, Bool.false_eq_true, if_false, period_of_holds high low,
        multiplier_of_holds multiplier, model.hasPullups_iff]
      by_cases largest : model = .mini24
      · simp only [if_pos largest, pullups largest]
      · simp only [if_neg largest]

end Whole

end ServoLink
