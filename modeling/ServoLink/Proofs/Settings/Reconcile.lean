import ServoLink.Proofs.Settings.Canonical
import ServoLink.Settings.Reconcile

/-!
# Reconciled settings

Reconciling changes the channel list and the serial device number and nothing else.
What a device remembers of reconciled settings gives the same register values once
more: rounding, fixed limits and packed modes are all stable under a second pass.
-/

namespace ServoLink

namespace Settings

variable {settings : Settings} {model : Model}

/-! ## What reconciling changes -/

/-- The loop adds the channels whose numbers are missing. -/
theorem padChannels_eq (settings : Settings) (model : Model) (channels : List ChannelSetting) :
    settings.padChannels model channels =
      channels ++ (List.range' channels.length (model.channelCount - channels.length)).map
        (settings.paddingChannel model) := by
  induction channels using Settings.padChannels.induct settings model with
  | case1 channels missing inductionHypothesis =>
      have rest : model.channelCount - channels.length =
          model.channelCount - (channels.length + 1) + 1 := by
        omega
      rw [padChannels, if_pos missing, inductionHypothesis, List.length_append,
        List.length_singleton, List.append_assoc, List.singleton_append, rest, List.range'_succ,
        List.map_cons]
  | case2 channels full =>
      have none : model.channelCount - channels.length = 0 :=
        Nat.sub_eq_zero_of_le (Nat.le_of_not_lt full)
      rw [padChannels, if_neg full, none, List.range'_zero, List.map_nil, List.append_nil]

/-- The fitted channels are those that the model has room for, and one for each channel
that was not provided. -/
theorem fittedChannels_eq (settings : Settings) (model : Model) :
    settings.fittedChannels model =
      settings.channels.take model.channelCount ++
        (List.range' settings.channels.length
          (model.channelCount - settings.channels.length)).map
          (settings.paddingChannel model) := by
  unfold fittedChannels
  rcases Nat.lt_trichotomy settings.channels.length model.channelCount with few | fit | many
  · rw [if_neg (Nat.lt_asymm few), if_pos few, padChannels_eq,
      List.take_of_length_le (Nat.le_of_lt few)]
  · rw [if_neg (by omega), if_neg (by omega), fit, Nat.sub_self, List.range'_zero, List.map_nil,
      List.append_nil, ← fit, List.take_length]
  · rw [if_pos many, Nat.sub_eq_zero_of_le (Nat.le_of_lt many), List.range'_zero, List.map_nil,
      List.append_nil]

theorem fittedChannels_length (settings : Settings) (model : Model) :
    (settings.fittedChannels model).length = model.channelCount := by
  rw [fittedChannels_eq]
  simp only [List.length_append, List.length_take, List.length_map, List.length_range']
  omega

theorem reconcile_settings (settings : Settings) (model : Model) :
    (settings.reconcile model).1 =
      { settings with
        channels := (settings.fittedChannels model).map ChannelSetting.withFixedLimits
        serialDeviceNumber :=
          if 128 ≤ settings.serialDeviceNumber then defaultSerialDeviceNumber
          else settings.serialDeviceNumber } := by
  unfold reconcile
  by_cases large : 128 ≤ settings.serialDeviceNumber
  · simp only [large, if_true]
  · simp only [large, if_false]

theorem reconcile_channels_length (settings : Settings) (model : Model) :
    (settings.reconcile model).1.channels.length = model.channelCount := by
  rw [reconcile_settings, List.length_map, fittedChannels_length]

theorem reconcile_serialDeviceNumber_lt (settings : Settings) (model : Model) :
    (settings.reconcile model).1.serialDeviceNumber < 128 := by
  rw [reconcile_settings]
  simp only
  split
  next => decide
  next small => exact UInt8.not_le.mp small

theorem fittedChannels_eq_of_length
    (count : settings.channels.length = model.channelCount) :
    settings.fittedChannels model = settings.channels := by
  unfold fittedChannels
  rw [if_neg (by omega), if_neg (by omega)]

/-- Settings that fit the model need nothing but the fixed limits of their channels. -/
theorem reconcile_eq_of_fitting
    (count : settings.channels.length = model.channelCount)
    (number : settings.serialDeviceNumber < 128) :
    settings.reconcile model =
      ({ settings with
          channels := settings.channels.map ChannelSetting.withFixedLimits }, []) := by
  have none : settings.channelDiagnostics model = [] := by
    unfold channelDiagnostics
    simp only [count, Nat.lt_irrefl, if_false]
  unfold reconcile
  rw [if_neg (UInt8.not_le.mpr number), none, fittedChannels_eq_of_length count]

end Settings

/-! ## A second pass over stored channels -/

namespace ChannelSetting

variable {setting : ChannelSetting} {family : Family}

theorem withFixedLimits_mode (setting : ChannelSetting) :
    setting.withFixedLimits.mode = setting.mode := by
  unfold withFixedLimits
  split <;> rfl

theorem storedHomeMode_withFixedLimits (setting : ChannelSetting) :
    setting.withFixedLimits.storedHomeMode = setting.storedHomeMode := by
  unfold storedHomeMode
  rw [withFixedLimits_mode]
  cases mode : setting.mode <;> simp [withFixedLimits, mode]

/-- Storing a mode keeps what fixed limits depend on. -/
theorem storedMode_eq_iff (family : Family) (mode : ChannelMode) :
    (family.storedMode mode = .input ↔ mode = .input) ∧
      (family.storedMode mode = .output ↔ mode = .output) := by
  cases family <;> cases mode <;> decide

theorem storedHomeMode_canonical (setting : ChannelSetting) (family : Family) :
    (setting.canonical family).storedHomeMode = setting.storedHomeMode := by
  have same : (setting.canonical family).mode = .input ↔ setting.mode = .input :=
    (storedMode_eq_iff family setting.mode).1
  by_cases input : setting.mode = .input
  · unfold storedHomeMode
    rw [if_pos (same.mpr input), if_pos input]
  · have canonicalHome : (setting.canonical family).homeMode = setting.homeMode := by
      change setting.storedHomeMode = setting.homeMode
      unfold storedHomeMode
      rw [if_neg input]
    unfold storedHomeMode
    rw [if_neg (mt same.mp input), if_neg input, canonicalHome]

theorem home_canonical
    (family : Family) (goto : setting.storedHomeMode = .goto) :
    (setting.canonical family).home = setting.home :=
  if_pos goto

theorem toNat_scaled_div (word step : UInt16) (positive : 0 < step.toNat) :
    (step * (word / step)).toNat / step.toNat = word.toNat / step.toNat := by
  have bound := word.toNat_lt
  have below := Nat.mul_div_le word.toNat step.toNat
  rw [UInt16.toNat_mul, UInt16.toNat_div, Nat.mod_eq_of_lt (by omega),
    Nat.mul_div_cancel_left _ positive]

/-- The registers of a canonical setting are those of the setting itself. -/
theorem stored_canonical (setting : ChannelSetting) (family : Family) (field : ServoField) :
    (setting.canonical family).stored field = setting.stored field := by
  cases field with
  | home =>
      unfold stored
      simp only [storedHomeMode_canonical]
      split
      next => rfl
      next => rfl
      next goto => rw [home_canonical family goto]
  | minimum => exact toNat_scaled_div setting.minimum 64 (by decide)
  | maximum => exact toNat_scaled_div setting.maximum 64 (by decide)
  | neutral => rfl
  | range => exact toNat_scaled_div setting.range 127 (by decide)
  | speed => exact congrArg UInt8.toNat (speedRegister_speedOfRegister setting.speed)
  | acceleration => rfl

/-! Fixed limits leave nothing of an input's own registers and only the home register of
an output. -/

theorem stored_withFixedLimits_of_input
    (mode : setting.mode = .input) (field : ServoField) :
    setting.withFixedLimits.stored field =
      ({ mode := .input } : ChannelSetting).withFixedLimits.stored field := by
  have home : setting.withFixedLimits.storedHomeMode = .ignore := by
    rw [storedHomeMode_withFixedLimits]
    exact if_pos mode
  cases field with
  | home =>
      unfold stored
      simp only [home]
      rfl
  | _ =>
      simp only [withFixedLimits, mode]
      rfl

theorem stored_withFixedLimits_of_output
    (mode : setting.mode = .output) {field : ServoField} (other : field ≠ .home) :
    setting.withFixedLimits.stored field =
      ({ mode := .output } : ChannelSetting).withFixedLimits.stored field := by
  cases field with
  | home =>
      exact absurd rfl other
  | _ =>
      simp only [withFixedLimits, mode]
      rfl

theorem stored_home_withFixedLimits (setting : ChannelSetting) :
    setting.withFixedLimits.stored .home = setting.stored .home := by
  have home : setting.withFixedLimits.home = setting.home := by
    unfold withFixedLimits
    split <;> rfl
  unfold stored
  simp only [storedHomeMode_withFixedLimits, home]

theorem withFixedLimits_of_servo
    (notInput : setting.mode ≠ .input) (notOutput : setting.mode ≠ .output) :
    setting.withFixedLimits = setting := by
  unfold withFixedLimits
  split
  next input => exact absurd input notInput
  next output => exact absurd output notOutput
  all_goals rfl

/-- Fixed limits replace the same registers in settings of the same kind. -/
theorem stored_withFixedLimits_congr
    {first second : ChannelSetting}
    (input : first.mode = .input ↔ second.mode = .input)
    (output : first.mode = .output ↔ second.mode = .output)
    (same : ∀ field, first.stored field = second.stored field) (field : ServoField) :
    first.withFixedLimits.stored field = second.withFixedLimits.stored field := by
  by_cases firstInput : first.mode = .input
  · rw [stored_withFixedLimits_of_input firstInput,
      stored_withFixedLimits_of_input (input.mp firstInput)]
  · by_cases firstOutput : first.mode = .output
    · by_cases home : field = .home
      · rw [home, stored_home_withFixedLimits, stored_home_withFixedLimits, same]
      · rw [stored_withFixedLimits_of_output firstOutput home,
          stored_withFixedLimits_of_output (output.mp firstOutput) home]
    · rw [withFixedLimits_of_servo firstInput firstOutput,
        withFixedLimits_of_servo (mt input.mpr firstInput) (mt output.mpr firstOutput), same]

/-- Fixed limits put on once more change no register. -/
theorem stored_withFixedLimits_canonical
    (fixed : setting.withFixedLimits = setting) (family : Family) (field : ServoField) :
    (setting.canonical family).withFixedLimits.stored field = setting.stored field := by
  have kept := storedMode_eq_iff family setting.mode
  rw [stored_withFixedLimits_congr kept.1 kept.2 (setting.stored_canonical family), fixed]

theorem withFixedLimits_withFixedLimits (setting : ChannelSetting) :
    setting.withFixedLimits.withFixedLimits = setting.withFixedLimits := by
  cases mode : setting.mode <;> simp only [withFixedLimits, mode]

/-- What a second pass makes of a stored channel: an output gets the lower limit that its
register has rounded down, and nothing else changes. -/
def withOutputMinimum (setting : ChannelSetting) : ChannelSetting :=
  if setting.mode = .output then { setting with minimum := 3986 } else setting

theorem withFixedLimits_canonical
    (fixed : setting.withFixedLimits = setting) (family : Family) :
    (setting.canonical family).withFixedLimits =
      (setting.canonical family).withOutputMinimum := by
  obtain ⟨name, mode, homeMode, home, minimum, maximum, neutral, range, speed, acceleration⟩ :=
    setting
  have still : speedOfRegister (speedRegister 0) = 0 := by decide
  cases mode with
  | servo | servoMultiplied =>
      cases family <;> rfl
  | input =>
      -- The limits of an input are multiples of what their registers count in.
      cases fixed
      cases family <;>
        simp [canonical, withFixedLimits, withOutputMinimum, Family.storedMode, storedHomeMode,
          still]
  | output =>
      cases fixed
      cases family <;>
        simp [canonical, withFixedLimits, withOutputMinimum, Family.storedMode, still]

theorem minimum_canonical_of_output
    (fixed : setting.withFixedLimits = setting) {family : Family}
    (output : (setting.canonical family).mode = .output) :
    (setting.canonical family).minimum = 3968 := by
  have mode : setting.mode = .output := (storedMode_eq_iff family setting.mode).2.mp output
  have minimum : setting.minimum = 3986 := by
    rw [← fixed]
    simp only [withFixedLimits, mode]
  unfold canonical
  rw [minimum]
  rfl

/-- What a device can store, it can store again after it has been read. -/
theorem Storable.again
    (storable : setting.Storable) (fixed : setting.withFixedLimits = setting)
    (family : Family) : (setting.canonical family).withFixedLimits.Storable where
  home := by
    intro goto
    rw [storedHomeMode_withFixedLimits, storedHomeMode_canonical] at goto
    have home : (setting.canonical family).withFixedLimits.home = setting.home := by
      rw [← home_canonical family goto]
      unfold withFixedLimits
      split <;> rfl
    rw [home]
    exact storable.home goto
  fields := fun field parameter => by
    rw [stored_withFixedLimits_canonical fixed]
    exact storable.fields field parameter

end ChannelSetting

/-! ## A second pass over stored settings -/

namespace Settings

variable {settings : Settings} {model : Model}

theorem reconcile_fixed (settings : Settings) (model : Model) :
    ∀ setting ∈ (settings.reconcile model).1.channels, setting.withFixedLimits = setting := by
  rw [reconcile_settings]
  intro setting member
  obtain ⟨provided, _, rfl⟩ := List.mem_map.mp member
  exact provided.withFixedLimits_withFixedLimits

/-- The canonical form of settings with the fixed limits of their channels once more. -/
def again (settings : Settings) (model : Model) : Settings :=
  { settings.canonical model with
    channels := (settings.canonical model).channels.map ChannelSetting.withFixedLimits }

def withOutputMinimum (settings : Settings) : Settings :=
  { settings with channels := settings.channels.map ChannelSetting.withOutputMinimum }

theorem again_eq
    (fixed : ∀ setting ∈ settings.channels, setting.withFixedLimits = setting) :
    settings.again model = (settings.canonical model).withOutputMinimum := by
  have channels : (settings.canonical model).channels.map ChannelSetting.withFixedLimits =
      (settings.canonical model).channels.map ChannelSetting.withOutputMinimum := by
    refine List.map_congr_left fun stored member => ?_
    obtain ⟨setting, inside, rfl⟩ := List.mem_map.mp member
    exact ChannelSetting.withFixedLimits_canonical (fixed setting inside) model.family
  unfold again withOutputMinimum
  rw [channels]

theorem again_channels (settings : Settings) (model : Model) :
    (settings.again model).channels =
      settings.channels.map fun setting =>
        (setting.canonical model.family).withFixedLimits :=
  List.map_map

theorem baudRegister_toNat (storable : settings.Storable model) :
    ((UInt16.ofNat (baudRegister settings.fixedBaudRate).toNat).toNat : Int) =
      baudRegister settings.fixedBaudRate := by
  have member : (⟨.fixedBaudRate, baudRegister settings.fixedBaudRate⟩ : Assignment) ∈
      settings.controllerValues model := by
    simp [controllerValues, serialValues]
  obtain ⟨range, found, admits⟩ := storable.controller _ member
  exact ParameterWrite.value_admitted_toNat admits

theorem baudRegister_again (storable : settings.Storable model) :
    baudRegister (settings.again model).fixedBaudRate =
      baudRegister settings.fixedBaudRate := by
  have holds := baudRegister_toNat storable
  change baudRegister (baudOfRegister _) = _
  rw [baudRegister_baudOfRegister holds, holds]

theorem multiplierRegister_again (multiplier : UInt16) :
    multiplierRegister (UInt16.ofNat (min (max multiplier.toNat 1) 256)) =
      multiplierRegister multiplier := by
  apply UInt16.toNat_inj.mp
  rw [multiplierRegister_toNat, multiplierRegister_toNat, UInt16.toNat_ofNat']
  omega

theorem controllerValues_again (storable : settings.Storable model) :
    (settings.again model).controllerValues model = settings.controllerValues model := by
  have serial : (settings.again model).serialValues = settings.serialValues := by
    unfold serialValues
    rw [baudRegister_again storable]
    rfl
  have period : (settings.again model).periodValues model.family =
      settings.periodValues model.family := by
    cases model with
    | micro6 => rfl
    | _ =>
        change [_, _, Assignment.mk _ ((multiplierRegister (UInt16.ofNat _)).toNat : Int)] = _
        rw [multiplierRegister_again]
        rfl
  have pullups (has : model.hasPullups) :
      (settings.again model).enablePullups = settings.enablePullups :=
    if_pos (model.hasPullups_iff.mp has)
  unfold controllerValues
  rw [serial, period]
  split
  next has => rw [pullups has]
  next => rfl

theorem channelAssignments_again
    (fixed : ∀ setting ∈ settings.channels, setting.withFixedLimits = setting) :
    (settings.again model).channelAssignments = settings.channelAssignments := by
  unfold channelAssignments
  rw [again_channels, List.zipIdx_map, List.flatMap_map]
  refine List.flatMap_congr fun entry member => ?_
  have own := fixed entry.1 (List.fst_mem_of_mem_zipIdx member)
  refine List.map_congr_left fun field _ => ?_
  simp only [ChannelSetting.assignment, Prod.map]
  rw [ChannelSetting.stored_withFixedLimits_canonical own]
  rfl

theorem modeAssignments_again (settings : Settings) (model : Model) :
    (settings.again model).modeAssignments model = settings.modeAssignments model := by
  have modes : (settings.again model).channels.map (·.mode) =
      (settings.channels.map (·.mode)).map model.family.storedMode := by
    rw [again_channels, List.map_map, List.map_map]
    refine List.map_congr_left fun setting _ => ?_
    exact ChannelSetting.withFixedLimits_mode _
  unfold modeAssignments
  rw [modes, Family.modeValues_map_storedMode]

/-- Reading settings back and reconciling them again assigns the same values. -/
theorem assignments_again
    (storable : settings.Storable model)
    (fixed : ∀ setting ∈ settings.channels, setting.withFixedLimits = setting) :
    (settings.again model).assignments model = settings.assignments model := by
  unfold assignments
  rw [controllerValues_again storable, channelAssignments_again fixed, modeAssignments_again]

theorem storable_again
    (storable : settings.Storable model)
    (fixed : ∀ setting ∈ settings.channels, setting.withFixedLimits = setting) :
    (settings.again model).Storable model where
  controller := by
    rw [controllerValues_again storable]
    exact storable.controller
  channels := by
    rw [again_channels]
    intro setting member
    obtain ⟨stored, inside, rfl⟩ := List.mem_map.mp member
    exact (storable.channels stored inside).again (fixed stored inside) model.family

end Settings

end ServoLink
