import ServoLink.Proofs.Session.Apply

/-!
# Which settings are accepted

An application of settings is rejected for one of five reasons: a baud rate below the
slowest one, an offset or a period that does not fit its register, a channel that does
not fit its registers, or a script that does not fit script memory.  Each reason is said
in the units of the settings and not in those of the registers.
-/

namespace ServoLink

/-! ## The reasons -/

/-- Some register of the channel can not hold what the setting asks for. -/
inductive ChannelSetting.Unstorable (setting : ChannelSetting) : Prop where
  | home
      (notInput : setting.mode ≠ .input) (goto : setting.homeMode = .goto)
      (outside : setting.home < 2 ∨ 32440 < setting.home)
  | limits
      (servo : setting.mode = .servo ∨ setting.mode = .servoMultiplied)
      (outside : 16383 < setting.minimum ∨ 16383 < setting.maximum ∨
        32440 < setting.neutral ∨ setting.range < 127 ∨ 6476 < setting.range)

/-- A model's script memory can not hold the program. -/
inductive Program.Unfit (program : Program) (model : Model) : Prop where
  | long (exceeds : model.maxScriptLength < program.byteCode.length)
  | misplaced
      (name : String) (address : UInt16)
      (addressed : (name, address) ∈ program.subroutineAddresses.entries)
      (fault : program.subroutineCommands.get? name = none ∨
        ∃ code, program.subroutineCommands.get? name = some (.opcode code) ∧ code < 128)

/-- Why a model does not take settings. -/
inductive Settings.Rejected (settings : Settings) (model : Model) (upload : Bool) : Prop where
  | baudRate (fixed : 0 < settings.fixedBaudRate) (slow : settings.fixedBaudRate < 184)
  | offset (greatest : settings.miniSscOffset = 255)
  | period
      (extended : model.family = .extended) (large : 0x1000000 ≤ settings.miniServoPeriod)
  | channel
      (setting : ChannelSetting)
      (used : setting ∈ settings.channels.take model.channelCount)
      (unstorable : setting.Unstorable)
  | script
      (asked : upload = true) (consistent : settings.scriptInconsistent = false)
      (program : Program) (present : settings.program = some program)
      (unfit : program.Unfit model)

/-! ## Values of the controller -/

namespace Settings

variable {settings : Settings} {model : Model}

theorem fixedBaudRate_fits_iff (settings : Settings) :
    (Assignment.mk .fixedBaudRate (baudRegister settings.fixedBaudRate)).Fits ↔
      ¬ (0 < settings.fixedBaudRate ∧ settings.fixedBaudRate < 184) := by
  have verdict : baudRegister settings.fixedBaudRate ≤ 0xFFFF ↔
      ¬ (0 < settings.fixedBaudRate ∧ settings.fixedBaudRate < 184) := by
    rw [baudRegister_le_iff, UInt32.lt_iff_toNat_lt, UInt32.lt_iff_toNat_lt,
      ← UInt32.toNat_inj]
    change settings.fixedBaudRate.toNat = 0 ∨ 184 ≤ settings.fixedBaudRate.toNat ↔
      ¬ (0 < settings.fixedBaudRate.toNat ∧ settings.fixedBaudRate.toNat < 184)
    omega
  rw [← verdict, baudRegister_eq, Assignment.fits_iff_le 2 0xFFFF rfl]
  exact Int.ofNat_le.symm

theorem miniSscOffset_fits_iff (settings : Settings) :
    (Assignment.mk .miniSscOffset settings.miniSscOffset.toNat).Fits ↔
      settings.miniSscOffset ≠ 255 := by
  have bound := settings.miniSscOffset.toNat_lt
  rw [Assignment.fits_iff_le 1 254 rfl, ne_eq, ← UInt8.toNat_inj]
  change settings.miniSscOffset.toNat ≤ 254 ↔ ¬ settings.miniSscOffset.toNat = 255
  omega

theorem miniServoPeriodHigh_fits_iff (settings : Settings) :
    (Assignment.mk .miniServoPeriodHigh (settings.miniServoPeriod >>> 8).toNat).Fits ↔
      ¬ 0x1000000 ≤ settings.miniServoPeriod := by
  rw [Assignment.fits_iff_le 2 0xFFFF rfl, UInt32.le_iff_toNat_le,
    UInt32.toNat_shiftRight, Nat.shiftRight_eq_div_pow]
  change settings.miniServoPeriod.toNat / 256 ≤ 65535 ↔
    ¬ 16777216 ≤ settings.miniServoPeriod.toNat
  omega

theorem flag_fits
    (parameter : Parameter) {greatest : UInt16}
    (known : parameter.range? = some ⟨parameter, 1, 0, greatest⟩)
    (positive : 1 ≤ greatest.toNat) (flag : Bool) :
    (Assignment.mk parameter flag.toNat).Fits := by
  rw [Assignment.fits_iff_le 1 _ known]
  exact Nat.le_trans (Bool.toNat_le flag) positive

theorem byte_fits
    (parameter : Parameter) (known : parameter.range? = some ⟨parameter, 1, 0, 0xFF⟩)
    (byte : UInt8) : (Assignment.mk parameter byte.toNat).Fits := by
  have bound := byte.toNat_lt
  rw [Assignment.fits_iff_le 1 _ known]
  change byte.toNat ≤ 255
  omega

theorem serialValues_fit_iff (number : settings.serialDeviceNumber < 128) :
    (∀ assignment ∈ settings.serialValues, assignment.Fits) ↔
      ¬ (0 < settings.fixedBaudRate ∧ settings.fixedBaudRate < 184) ∧
        settings.miniSscOffset ≠ 255 := by
  have mode : (Assignment.mk .serialMode settings.serialMode.register.toNat).Fits := by
    rw [Assignment.fits_iff_le 1 3 rfl]
    cases settings.serialMode <;> decide
  have device :
      (Assignment.mk .serialDeviceNumber settings.serialDeviceNumber.toNat).Fits := by
    rw [Assignment.fits_iff_le 1 0x7F rfl]
    exact Nat.le_of_lt_succ (UInt8.lt_iff_toNat_lt.mp number)
  have timeout : (Assignment.mk .serialTimeout settings.serialTimeout.toNat).Fits := by
    rw [Assignment.fits_iff_le 2 0xFFFF rfl]
    exact Nat.le_of_lt_succ settings.serialTimeout.toNat_lt
  have crc := flag_fits .enableCrc rfl (by decide) settings.enableCrc
  have suspend := flag_fits .neverSuspend rfl (by decide) settings.neverSuspend
  have done := flag_fits .scriptDone rfl (by decide) settings.scriptDone
  rw [← fixedBaudRate_fits_iff, ← miniSscOffset_fits_iff]
  simp only [serialValues, List.forall_mem_cons, mode, device, timeout, crc, suspend, done,
    true_and]
  simp

theorem periodValues_fit_iff (settings : Settings) (family : Family) :
    (∀ assignment ∈ settings.periodValues family, assignment.Fits) ↔
      ¬ (family = .extended ∧ 0x1000000 ≤ settings.miniServoPeriod) := by
  cases family with
  | compact =>
      have available := byte_fits .servosAvailable rfl settings.servosAvailable
      have period := byte_fits .servoPeriod rfl settings.servoPeriod
      simp [periodValues, available, period]
  | extended =>
      have low : (Assignment.mk .miniServoPeriodLow
          (settings.miniServoPeriod &&& 0xFF).toNat).Fits := by
        rw [Assignment.fits_iff_le 1 0xFF rfl, UInt32.toNat_and]
        exact Nat.and_le_right
      have multiplier : (Assignment.mk .servoMultiplier
          (multiplierRegister settings.servoMultiplier).toNat).Fits := by
        rw [Assignment.fits_iff_le 1 0xFF rfl,
          multiplierRegister_toNat]
        change _ ≤ 255
        omega
      simp only [periodValues, List.forall_mem_cons, low, multiplier, true_and,
        miniServoPeriodHigh_fits_iff]
      simp

theorem controllerValues_fit_iff
    (number : settings.serialDeviceNumber < 128) (model : Model) :
    (∀ assignment ∈ settings.controllerValues model, assignment.Fits) ↔
      ¬ (0 < settings.fixedBaudRate ∧ settings.fixedBaudRate < 184) ∧
        settings.miniSscOffset ≠ 255 ∧
        ¬ (model.family = .extended ∧ 0x1000000 ≤ settings.miniServoPeriod) := by
  have pullups := flag_fits .enablePullups rfl (by decide)
    settings.enablePullups
  have last : ∀ assignment ∈ (if model.hasPullups then
      [(⟨.enablePullups, settings.enablePullups.toNat⟩ : Assignment)] else []),
      assignment.Fits := by
    split <;> simp [pullups]
  unfold controllerValues
  simp only [List.forall_mem_append, serialValues_fit_iff number, periodValues_fit_iff]
  constructor
  · rintro ⟨⟨⟨baud, offset⟩, period⟩, _⟩
    exact ⟨baud, offset, period⟩
  · rintro ⟨baud, offset, period⟩
    exact ⟨⟨⟨baud, offset⟩, period⟩, last⟩

end Settings

/-! ## Channels -/

namespace ChannelSetting

theorem stored_home_of_goto
    {setting : ChannelSetting} (goto : setting.storedHomeMode = .goto) :
    setting.stored .home = setting.home.toNat := by
  unfold stored
  rw [goto]

theorem stored_home_le
    {setting : ChannelSetting}
    (home : setting.storedHomeMode = .goto → setting.home.toNat ≤ 32440) :
    setting.stored .home ≤ 32440 := by
  cases mode : setting.storedHomeMode with
  | goto =>
      rw [stored_home_of_goto mode]
      exact home mode
  | _ => simp [stored, mode]

/-- The bounds on the registers of a channel, in the units of its setting. -/
theorem storable_iff_bounds (setting : ChannelSetting) :
    setting.Storable ↔
      (setting.storedHomeMode = .goto → 2 ≤ setting.home ∧ setting.home ≤ 32440) ∧
        setting.minimum ≤ 16383 ∧ setting.maximum ≤ 16383 ∧ setting.neutral ≤ 32440 ∧
        127 ≤ setting.range ∧ setting.range ≤ 6476 := by
  have admits (field : ServoField) (parameter : Parameter) :
      (field.limits parameter).Admits (setting.stored field) ↔
        (field.limits parameter).least.toNat ≤ setting.stored field ∧
          setting.stored field ≤ (field.limits parameter).greatest.toNat := by
    unfold ParameterRange.Admits
    omega
  simp only [UInt16.le_iff_toNat_le]
  constructor
  · intro storable
    have fields (field : ServoField) := (admits field .initialized).mp
      (storable.fields field .initialized)
    have minimum : setting.minimum.toNat / 64 ≤ 255 := (fields .minimum).2
    have maximum : setting.maximum.toNat / 64 ≤ 255 := (fields .maximum).2
    have least : 1 ≤ setting.range.toNat / 127 := (fields .range).1
    have greatest : setting.range.toNat / 127 ≤ 50 := (fields .range).2
    refine ⟨fun goto => ⟨UInt16.le_iff_toNat_le.mp (storable.home goto), ?_⟩, ?_⟩
    · rw [← stored_home_of_goto goto]
      exact (fields .home).2
    · change setting.minimum.toNat ≤ 16383 ∧ setting.maximum.toNat ≤ 16383 ∧ _ ∧
        127 ≤ setting.range.toNat ∧ setting.range.toNat ≤ 6476
      refine ⟨by omega, by omega, (fields .neutral).2, by omega, by omega⟩
  · rintro ⟨home, minimum, maximum, neutral, least, greatest⟩
    change setting.minimum.toNat ≤ 16383 at minimum
    change setting.maximum.toNat ≤ 16383 at maximum
    change 127 ≤ setting.range.toNat at least
    change setting.range.toNat ≤ 6476 at greatest
    refine ⟨fun goto => UInt16.le_iff_toNat_le.mpr (home goto).1, fun field parameter => ?_⟩
    rw [admits]
    cases field with
    | home => exact ⟨Nat.zero_le _, stored_home_le fun goto => (home goto).2⟩
    | minimum =>
        refine ⟨Nat.zero_le _, ?_⟩
        change setting.minimum.toNat / 64 ≤ 255
        omega
    | maximum =>
        refine ⟨Nat.zero_le _, ?_⟩
        change setting.maximum.toNat / 64 ≤ 255
        omega
    | neutral => exact ⟨Nat.zero_le _, neutral⟩
    | range =>
        change 1 ≤ setting.range.toNat / 127 ∧ setting.range.toNat / 127 ≤ 50
        omega
    | speed => exact ⟨Nat.zero_le _, Nat.le_of_lt_succ (speedRegister setting.speed).toNat_lt⟩
    | acceleration => exact ⟨Nat.zero_le _, Nat.le_of_lt_succ setting.acceleration.toNat_lt⟩

theorem not_unstorable_iff (setting : ChannelSetting) :
    ¬ setting.Unstorable ↔
      (setting.mode ≠ .input → setting.homeMode = .goto →
        2 ≤ setting.home ∧ setting.home ≤ 32440) ∧
      (setting.mode = .servo ∨ setting.mode = .servoMultiplied →
        setting.minimum ≤ 16383 ∧ setting.maximum ≤ 16383 ∧ setting.neutral ≤ 32440 ∧
          127 ≤ setting.range ∧ setting.range ≤ 6476) := by
  constructor
  · intro kept
    refine ⟨fun notInput goto => ?_, fun servo => ?_⟩
    · have inside := mt (Unstorable.home notInput goto) kept
      simpa only [not_or, UInt16.not_lt] using inside
    · have inside := mt (Unstorable.limits servo) kept
      simpa only [not_or, UInt16.not_lt] using inside
  · rintro ⟨home, limits⟩ (⟨notInput, goto, outside⟩ | ⟨servo, outside⟩)
    · have inside := home notInput goto
      simp only [← UInt16.not_lt] at inside
      exact outside.elim inside.1 inside.2
    · have inside := limits servo
      simp only [← UInt16.not_lt] at inside
      tauto

/-- With the fixed limits of inputs and outputs, a channel is storable unless one of its
own values is out of bounds. -/
theorem storable_withFixedLimits_iff (setting : ChannelSetting) :
    setting.withFixedLimits.Storable ↔ ¬ setting.Unstorable := by
  rw [storable_iff_bounds, storedHomeMode_withFixedLimits, not_unstorable_iff]
  unfold storedHomeMode
  cases mode : setting.mode with
  | input => simp [withFixedLimits, mode]
  | output =>
      simp [withFixedLimits, mode]
  | servo => simp [withFixedLimits, mode]
  | servoMultiplied => simp [withFixedLimits, mode]

end ChannelSetting

/-! ## Whole settings -/

namespace Program

theorem not_fits_iff (program : Program) (model : Model) :
    ¬ program.Fits model ↔ program.Unfit model := by
  constructor
  · intro refused
    by_contra kept
    refine refused ⟨?_, fun entry member misplaced => kept ?_⟩
    · by_contra long
      exact kept (.long (Nat.not_le.mp long))
    · exact .misplaced entry.1 entry.2 member misplaced
  · rintro (long | ⟨name, address, addressed, fault⟩) fits
    · exact absurd fits.length (Nat.not_le.mpr long)
    · exact fits.placed (name, address) addressed fault

end Program

namespace Settings

variable {settings : Settings} {model : Model}

theorem not_unstorable_paddingChannel (settings : Settings) (model : Model) (channel : Nat) :
    ¬ (settings.paddingChannel model channel).Unstorable := by
  rw [ChannelSetting.not_unstorable_iff]
  unfold paddingChannel
  split <;> decide

theorem channels_storable_iff (settings : Settings) (model : Model) :
    (∀ setting ∈ (settings.reconcile model).1.channels, setting.Storable) ↔
      ∀ setting ∈ settings.channels.take model.channelCount, ¬ setting.Unstorable := by
  rw [reconcile_settings]
  simp only [List.forall_mem_map, ChannelSetting.storable_withFixedLimits_iff, fittedChannels_eq,
    List.forall_mem_append]
  refine and_iff_left fun channel _ => ?_
  exact settings.not_unstorable_paddingChannel model channel

theorem storable_reconcile_iff (settings : Settings) (model : Model) :
    (settings.reconcile model).1.Storable model ↔
      ¬ (0 < settings.fixedBaudRate ∧ settings.fixedBaudRate < 184) ∧
        settings.miniSscOffset ≠ 255 ∧
        ¬ (model.family = .extended ∧ 0x1000000 ≤ settings.miniServoPeriod) ∧
        ∀ setting ∈ settings.channels.take model.channelCount, ¬ setting.Unstorable := by
  have number := settings.reconcile_serialDeviceNumber_lt model
  have controller := controllerValues_fit_iff number model
  have split : (settings.reconcile model).1.Storable model ↔
      (∀ assignment ∈ (settings.reconcile model).1.controllerValues model,
        assignment.Fits) ∧
      ∀ setting ∈ (settings.reconcile model).1.channels, setting.Storable :=
    ⟨fun both => ⟨both.controller, both.channels⟩, fun both => ⟨both.1, both.2⟩⟩
  have same : (settings.reconcile model).1.fixedBaudRate = settings.fixedBaudRate ∧
      (settings.reconcile model).1.miniSscOffset = settings.miniSscOffset ∧
      (settings.reconcile model).1.miniServoPeriod = settings.miniServoPeriod := by
    rw [reconcile_settings]
    exact ⟨rfl, rfl, rfl⟩
  rw [split, controller, channels_storable_iff, same.1, same.2.1, same.2.2, and_assoc,
    and_assoc]

end Settings

namespace Controller

theorem accepts_iff (controller : Controller) (settings : Settings) (upload : Bool) :
    controller.Accepts settings upload ↔ ¬ settings.Rejected controller.model upload := by
  constructor
  · intro accepts rejected
    obtain ⟨baud, offset, period, channels⟩ :=
      (settings.storable_reconcile_iff controller.model).mp accepts.storable
    cases rejected with
    | baudRate fixed slow => exact baud ⟨fixed, slow⟩
    | offset greatest => exact offset greatest
    | period extended large => exact period ⟨extended, large⟩
    | channel setting used unstorable => exact channels setting used unstorable
    | script asked consistent program present unfit =>
        refine (program.not_fits_iff controller.model).mpr unfit (accepts.script program ?_)
        simp [Settings.scriptFor, asked, consistent, present]
  · intro kept
    refine ⟨(settings.storable_reconcile_iff controller.model).mpr ⟨?_, ?_, ?_, ?_⟩, ?_⟩
    · exact fun slow => kept (.baudRate slow.1 slow.2)
    · exact fun greatest => kept (.offset greatest)
    · exact fun large => kept (.period large.1 large.2)
    · exact fun setting used unstorable => kept (.channel setting used unstorable)
    · intro program uploaded
      by_contra refused
      have unfit := (program.not_fits_iff controller.model).mp refused
      unfold Settings.scriptFor at uploaded
      split at uploaded
      next asked =>
        simp only [Bool.and_eq_true, Bool.not_eq_true'] at asked
        exact kept (.script asked.1 asked.2 program uploaded unfit)
      next => cases uploaded

end Controller

namespace Session

/-- Whatever the device does, an application fails with a validation error exactly for
the reasons above. -/
theorem applySettings_rejected_iff
    {δ : Type} [Transport δ] (session : Session δ) (settings : Settings) (upload : Bool) :
    (∃ cause, (session.perform (.applySettings settings upload)).1 =
      .error (.validation cause)) ↔
      settings.Rejected session.controller.model upload := by
  have accepts := session.controller.accepts_iff settings upload
  constructor
  · rintro ⟨cause, failed⟩
    by_contra kept
    have stored := accepts.mpr kept
    have within : (session.controller.perform (.applySettings settings upload)).Within
        (fun _ => True) Error.IsShortRead := by
      rw [Controller.perform_applySettings, Controller.applySettings_of_accepts _ _ _ stored]
      exact Exchange.within_map _ (Controller.carryOut_within stored)
    rcases Exchange.run_error within failed with ⟨_, _, same⟩ | ⟨_, same⟩
    · cases same
    · cases same
  · intro rejected
    have refused := fun stored => accepts.mp stored rejected
    obtain ⟨cause, stopped⟩ :=
      session.controller.applySettings_of_not_accepts settings upload refused
    have performed : session.controller.perform (.applySettings settings upload) =
        .stop (.validation cause) := by
      rw [Controller.perform_applySettings, stopped]
      rfl
    exact ⟨cause, by rw [perform_of_stop performed]⟩

end Session

end ServoLink
