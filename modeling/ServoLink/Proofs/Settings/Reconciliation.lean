import ServoLink.Proofs.Settings.Reconcile

/-!
# What reconciling gives

The result of reconciling settings with a model is said here field by field and channel by
channel, without the steps that lead to it.  Only one result fits this description, and
reconciling it once more changes nothing.
-/

namespace ServoLink

/-! ## Channels -/

/-- What becomes of the setting of a channel.  Inputs and outputs keep their name, mode and
home and get limits of their own; an input also ignores its home. -/
structure ChannelSetting.FixedAs (given fixed : ChannelSetting) : Prop where
  servo : given.mode ≠ .input → given.mode ≠ .output → fixed = given
  input : given.mode = .input → fixed =
    { name := given.name, mode := .input, homeMode := .ignore, home := given.home,
      minimum := 0, maximum := 1024, neutral := 1024, range := 1905,
      speed := 0, acceleration := 0 }
  output : given.mode = .output → fixed =
    { name := given.name, mode := .output, homeMode := given.homeMode, home := given.home,
      minimum := 3986, maximum := 8000, neutral := 6000, range := 1905,
      speed := 0, acceleration := 0 }

theorem ChannelSetting.fixedAs_iff {given fixed : ChannelSetting} :
    given.FixedAs fixed ↔ fixed = given.withFixedLimits := by
  constructor
  · intro described
    cases mode : given.mode with
    | input =>
        rw [described.input mode]
        simp only [withFixedLimits, mode]
    | output =>
        rw [described.output mode]
        simp only [withFixedLimits, mode]
    | servo | servoMultiplied =>
        rw [described.servo (by simp [mode]) (by simp [mode])]
        simp only [withFixedLimits, mode]
  · rintro rfl
    refine ⟨withFixedLimits_of_servo, fun mode => ?_, fun mode => ?_⟩
    · simp only [withFixedLimits, mode]
    · simp only [withFixedLimits, mode]

/-- The channel that is added in place of a servo that is not available. -/
def unavailableChannel : ChannelSetting where
  mode := .input
  homeMode := .ignore
  minimum := 0
  maximum := 1024
  neutral := 1024
  range := 1905
  speed := 0
  acceleration := 0

theorem Settings.withFixedLimits_paddingChannel
    (settings : Settings) (model : Model) (channel : Nat) :
    (settings.paddingChannel model channel).withFixedLimits =
      if model.family = .compact ∧ settings.servosAvailable.toNat ≤ channel then
        unavailableChannel
      else {} := by
  have compact : model.isCompact = true ↔ model.family = .compact := beq_iff_eq
  unfold paddingChannel
  simp only [Bool.and_eq_true, decide_eq_true_eq, compact]
  split <;> rfl

namespace Settings

variable {settings : Settings} {model : Model}

theorem getElem?_fittedChannels_of_lt
    {channel : Nat} (provided : channel < settings.channels.length)
    (bound : channel < model.channelCount) :
    (settings.fittedChannels model)[channel]? = settings.channels[channel]? := by
  rw [fittedChannels_eq, List.getElem?_append_left (by rw [List.length_take]; omega), List.getElem?_take,
    if_pos bound]

theorem getElem?_fittedChannels_of_le
    {channel : Nat} (absent : settings.channels.length ≤ channel)
    (bound : channel < model.channelCount) :
    (settings.fittedChannels model)[channel]? =
      some (settings.paddingChannel model channel) := by
  have taken : (settings.channels.take model.channelCount).length =
      settings.channels.length := by
    rw [List.length_take]
    omega
  have place : settings.channels.length + (channel - settings.channels.length) = channel := by
    omega
  rw [fittedChannels_eq, List.getElem?_append_right (by omega), taken, List.getElem?_map,
    List.getElem?_range' (by omega), Nat.one_mul, place]
  rfl

/-! ## Whole settings -/

/-- The settings and diagnostics that reconciling has to give. -/
structure ReconciledAs
    (settings : Settings) (model : Model) (fixed : Settings) (diagnostics : List Diagnostic) :
    Prop where
  count : fixed.channels.length = model.channelCount
  kept : ∀ channel given, settings.channels[channel]? = some given →
    channel < model.channelCount →
    ∃ result, fixed.channels[channel]? = some result ∧ given.FixedAs result
  padded : ∀ channel, settings.channels.length ≤ channel → channel < model.channelCount →
    fixed.channels[channel]? = some
      (if model.family = .compact ∧ settings.servosAvailable.toNat ≤ channel then
        unavailableChannel
      else {})
  serialDeviceNumber : fixed.serialDeviceNumber =
    if 128 ≤ settings.serialDeviceNumber then 12 else settings.serialDeviceNumber
  others :
    { fixed with
      channels := settings.channels
      serialDeviceNumber := settings.serialDeviceNumber } = settings
  diagnostics : diagnostics =
    (if model.channelCount < settings.channels.length then
      [.channelsTruncated settings.channels.length model.channelCount] else []) ++
    (if settings.channels.length < model.channelCount then
      [.channelsPadded settings.channels.length model.channelCount] else []) ++
    (if 128 ≤ settings.serialDeviceNumber then
      [.serialDeviceNumberClamped settings.serialDeviceNumber] else [])

theorem channelDiagnostics_eq (settings : Settings) (model : Model) :
    settings.channelDiagnostics model =
      (if model.channelCount < settings.channels.length then
        [.channelsTruncated settings.channels.length model.channelCount] else []) ++
      (if settings.channels.length < model.channelCount then
        [.channelsPadded settings.channels.length model.channelCount] else []) := by
  unfold channelDiagnostics
  by_cases many : model.channelCount < settings.channels.length
  · have notFew : ¬ settings.channels.length < model.channelCount := by omega
    simp only [many, notFew, if_true, if_false, List.append_nil]
  · simp only [many, if_false, List.nil_append]

theorem reconcile_diagnostics (settings : Settings) (model : Model) :
    (settings.reconcile model).2 =
      settings.channelDiagnostics model ++
        if 128 ≤ settings.serialDeviceNumber then
          [.serialDeviceNumberClamped settings.serialDeviceNumber] else [] := by
  unfold reconcile
  by_cases large : 128 ≤ settings.serialDeviceNumber
  · simp only [large, if_true]
  · simp only [large, if_false, List.append_nil]

theorem reconciledAs_reconcile (settings : Settings) (model : Model) :
    settings.ReconciledAs model (settings.reconcile model).1 (settings.reconcile model).2 := by
  rw [reconcile_settings]
  constructor
  case count =>
    rw [List.length_map, fittedChannels_length]
  case kept =>
    intro channel given found bound
    have provided : channel < settings.channels.length :=
      (List.getElem?_eq_some_iff.mp found).1
    refine ⟨given.withFixedLimits, ?_, ChannelSetting.fixedAs_iff.mpr rfl⟩
    rw [List.getElem?_map, getElem?_fittedChannels_of_lt provided bound, found]
    rfl
  case padded =>
    intro channel absent bound
    rw [List.getElem?_map, getElem?_fittedChannels_of_le absent bound, Option.map_some,
      withFixedLimits_paddingChannel]
  case serialDeviceNumber => rfl
  case others => rfl
  case diagnostics =>
    rw [reconcile_diagnostics, channelDiagnostics_eq]

/-- The description leaves nothing open. -/
theorem ReconciledAs.unique
    {first second : Settings} {firstDiagnostics secondDiagnostics : List Diagnostic}
    (one : settings.ReconciledAs model first firstDiagnostics)
    (other : settings.ReconciledAs model second secondDiagnostics) :
    first = second ∧ firstDiagnostics = secondDiagnostics := by
  have channels : first.channels = second.channels := by
    refine List.ext_getElem? fun channel => ?_
    by_cases bound : channel < model.channelCount
    · by_cases provided : channel < settings.channels.length
      · have found := List.getElem?_eq_getElem provided
        obtain ⟨result, here, fixed⟩ := one.kept channel _ found bound
        obtain ⟨otherResult, there, otherFixed⟩ := other.kept channel _ found bound
        rw [here, there, ChannelSetting.fixedAs_iff.mp fixed,
          ChannelSetting.fixedAs_iff.mp otherFixed]
      · rw [one.padded channel (by omega) bound, other.padded channel (by omega) bound]
    · have short := one.count
      have otherShort := other.count
      rw [List.getElem?_eq_none (by omega), List.getElem?_eq_none (by omega)]
  have number : first.serialDeviceNumber = second.serialDeviceNumber := by
    rw [one.serialDeviceNumber, other.serialDeviceNumber]
  have rest := one.others.trans other.others.symm
  refine ⟨?_, by rw [one.diagnostics, other.diagnostics]⟩
  cases first
  cases second
  simp only [Settings.mk.injEq] at rest channels number ⊢
  simp only [rest, channels, number, and_self]

theorem reconcile_reconcile (settings : Settings) (model : Model) :
    (settings.reconcile model).1.reconcile model = ((settings.reconcile model).1, []) := by
  have channels : (settings.reconcile model).1.channels.map ChannelSetting.withFixedLimits =
      (settings.reconcile model).1.channels.map id :=
    List.map_congr_left (settings.reconcile_fixed model)
  rw [reconcile_eq_of_fitting (settings.reconcile_channels_length model)
    (settings.reconcile_serialDeviceNumber_lt model), channels, List.map_id]

/-- Reconciling gives the one result that is described, and leaves that result alone when it
is reconciled again. -/
theorem reconcile_eq_iff_and_again (settings : Settings) (model : Model) :
    (∀ fixed diagnostics,
      settings.reconcile model = (fixed, diagnostics) ↔
        settings.ReconciledAs model fixed diagnostics) ∧
    (settings.reconcile model).1.reconcile model = ((settings.reconcile model).1, []) := by
  have described := settings.reconciledAs_reconcile model
  refine ⟨fun fixed diagnostics => ⟨fun given => ?_, fun other => ?_⟩,
    settings.reconcile_reconcile model⟩
  · rw [given] at described
    exact described
  · obtain ⟨sameSettings, sameDiagnostics⟩ := described.unique other
    exact Prod.ext sameSettings sameDiagnostics

end Settings

end ServoLink
