import ServoLink.Proofs.Session.RoundTrip

/-!
# What comes back changed

Settings that are read back need no more reconciling but for their output channels: the
lower limit that these are given is no multiple of what its register counts in, so it is
read as 3968 and replaced by 3986 once more.

A rate above two thirds of the clock comes back as zero, which asks for detection.
-/

namespace ServoLink

/-! ## Stored settings -/

theorem ChannelSetting.withOutputMinimum_eq_self_iff
    {setting : ChannelSetting} (rounded : setting.mode = .output → setting.minimum = 3968) :
    setting.withOutputMinimum = setting ↔ setting.mode ≠ .output := by
  unfold withOutputMinimum
  constructor
  · intro unchanged output
    rw [if_pos output] at unchanged
    have minimum : 3986 = setting.minimum := congrArg ChannelSetting.minimum unchanged
    rw [rounded output] at minimum
    cases minimum
  · intro other
    exact if_neg other

namespace Settings

variable {settings : Settings} {model : Model}

theorem withOutputMinimum_eq_self_iff
    (rounded : ∀ setting ∈ settings.channels,
      setting.mode = .output → setting.minimum = 3968) :
    settings.withOutputMinimum = settings ↔
      ∀ setting ∈ settings.channels, setting.mode ≠ .output := by
  have channel (setting : ChannelSetting) (member : setting ∈ settings.channels) :=
    ChannelSetting.withOutputMinimum_eq_self_iff (rounded setting member)
  constructor
  · intro unchanged setting member
    have channels : settings.channels.map ChannelSetting.withOutputMinimum =
        settings.channels.map id :=
      (congrArg Settings.channels unchanged).trans (List.map_id _).symm
    exact (channel setting member).mp (List.map_inj_left.mp channels setting member)
  · intro others
    have channels : settings.channels.map ChannelSetting.withOutputMinimum =
        settings.channels.map id :=
      List.map_congr_left fun setting member =>
        (channel setting member).mpr (others setting member)
    unfold withOutputMinimum
    rw [channels, List.map_id]

theorem minimum_of_mem_canonical
    (settings : Settings) (model : Model) :
    ∀ setting ∈ ((settings.reconcile model).1.canonical model).channels,
      setting.mode = .output → setting.minimum = 3968 := by
  intro setting member output
  obtain ⟨stored, inside, rfl⟩ := List.mem_map.mp member
  exact ChannelSetting.minimum_canonical_of_output
    (settings.reconcile_fixed model stored inside) output

/-- A register that fits its two bytes is read as zero only if it is zero. -/
theorem fixedBaudRate_canonical_eq_zero_iff (storable : settings.Storable model) :
    (settings.canonical model).fixedBaudRate = 0 ↔
      baudRegister settings.fixedBaudRate = 0 := by
  have register := baudRegister_toNat storable
  change baudOfRegister (UInt16.ofNat (baudRegister settings.fixedBaudRate).toNat) = 0 ↔ _
  generalize UInt16.ofNat (baudRegister settings.fixedBaudRate).toNat = stored at register ⊢
  rw [baudOfRegister_eq_zero_iff, ← register, Int.natCast_eq_zero, ← UInt16.toNat_inj]
  rfl

end Settings

namespace Session

variable {session : Session Simulator} {settings read : Settings} {upload : Bool}
  {answer : Answer}

/-! ## Reconciling once more -/

/-- Settings that are read after an application are reconciled without a diagnostic.  This
sets the lower limits of output channels, all of them 3968, back to 3986 and changes
nothing else; so the settings stay as they are if no channel is an output. -/
theorem reconcile_of_readSettings
    (answered : (session.perform (.applySettings settings upload)).1 = .ok answer)
    (reread : ((session.perform (.applySettings settings upload)).2.perform
      .readSettings).1 = .ok (.settings read)) :
    let model := session.controller.model
    read.reconcile model = (read.withOutputMinimum, []) ∧
      (∀ setting ∈ read.channels, setting.mode = .output → setting.minimum = 3968) ∧
      (read.reconcile model = (read, []) ↔
        ∀ setting ∈ read.channels, setting.mode ≠ .output) := by
  intro model
  obtain ⟨_, rfl⟩ := canonical_of_read answered reread
  have rounded := settings.minimum_of_mem_canonical model
  have once : ((settings.reconcile model).1.canonical model).reconcile model =
      (((settings.reconcile model).1.canonical model).withOutputMinimum, []) := by
    rw [Settings.reconcile_canonical, Settings.again_eq (settings.reconcile_fixed model)]
  refine ⟨once, rounded, ?_⟩
  rw [once, Prod.mk.injEq, and_iff_left rfl, Settings.withOutputMinimum_eq_self_iff rounded]

/-- Inputs, an output and servos on the smallest controller. -/
theorem reconcile_of_readSettings_micro6 :
    let session := simulated .micro6
    let settings : Settings :=
      { servosAvailable := 3, channels := [{ mode := .input, speed := 7 }, { speed := 1001 }] }
    let applied := session.perform (.applySettings settings false)
    let read := (settings.reconcile .micro6).1.canonical .micro6
    applied.1 = .ok (.diagnostics [.channelsPadded 2 6]) ∧
      (applied.2.perform .readSettings).1 = .ok (.settings read) ∧
      (∀ setting ∈ read.channels, setting.mode ≠ .output) ∧
      read.reconcile .micro6 = (read, []) := by
  intro session settings applied read
  have answered : applied.1 = .ok (.diagnostics [.channelsPadded 2 6]) := by
    decide +kernel
  have reread : (applied.2.perform .readSettings).1 = .ok (.settings read) :=
    readSettings_of_applied answered (by decide)
  have others : ∀ setting ∈ read.channels, setting.mode ≠ .output := by
    decide +kernel
  exact ⟨answered, reread, others, (reconcile_of_readSettings answered reread).2.2.mpr others⟩

/-- One output, whose lower limit does not survive. -/
theorem reconcile_of_readSettings_output :
    let settings : Settings := { channels := [{ mode := .output }] }
    let applied := (simulated .micro6).perform (.applySettings settings false)
    applied.1 = .ok (.diagnostics [.channelsPadded 1 6]) ∧
      ∃ read, (applied.2.perform .readSettings).1 = .ok (.settings read) ∧
        read.reconcile .micro6 ≠ (read, []) := by
  intro settings applied
  have answered : applied.1 = .ok (.diagnostics [.channelsPadded 1 6]) := by
    decide +kernel
  have reread := readSettings_of_applied answered (by decide)
  refine ⟨answered, _, reread, ?_⟩
  decide +kernel

/-! ## Rates that are read as zero -/

/-- The register of a rate is zero for detection and for rates above 8000000, and these
are the rates that are read back as zero from a controller that has taken them. -/
theorem fixedBaudRate_read_as_zero_iff (rate : UInt32) :
    (baudRegister rate = 0 ↔ rate = 0 ∨ 8000000 < rate) ∧
      ∀ {session : Session Simulator} {settings read : Settings} {upload : Bool}
        {answer : Answer},
        settings.fixedBaudRate = rate →
        (session.perform (.applySettings settings upload)).1 = .ok answer →
        ((session.perform (.applySettings settings upload)).2.perform
          .readSettings).1 = .ok (.settings read) →
        (read.fixedBaudRate = 0 ↔ rate = 0 ∨ 8000000 < rate) := by
  refine ⟨baudRegister_eq_zero_iff rate, ?_⟩
  intro session settings read upload answer given answered reread
  obtain ⟨accepts, rfl⟩ := canonical_of_read answered reread
  have kept : (settings.reconcile session.controller.model).1.fixedBaudRate = rate := by
    rw [Settings.reconcile_settings]
    exact given
  rw [Settings.fixedBaudRate_canonical_eq_zero_iff accepts.storable, kept,
    baudRegister_eq_zero_iff]

/-- The greatest rate that does not turn into zero. -/
theorem fixedBaudRate_read_as_zero_iff_micro6 :
    let settings : Settings := { fixedBaudRate := 8000000 }
    let applied := (simulated .micro6).perform (.applySettings settings false)
    applied.1 = .ok (.diagnostics [.channelsPadded 0 6]) ∧
      ∃ read, (applied.2.perform .readSettings).1 = .ok (.settings read) ∧
        read.fixedBaudRate ≠ 0 := by
  intro settings applied
  have answered : applied.1 = .ok (.diagnostics [.channelsPadded 0 6]) := by
    decide +kernel
  have reread := readSettings_of_applied answered (by decide)
  have zero := (fixedBaudRate_read_as_zero_iff 8000000).2 rfl answered reread
  exact ⟨answered, _, reread, mt zero.mp (by decide)⟩

/-- The next rate is taken for detection. -/
theorem fixedBaudRate_read_as_zero :
    let settings : Settings := { fixedBaudRate := 8000001 }
    let applied := (simulated .micro6).perform (.applySettings settings false)
    baudRegister settings.fixedBaudRate = 0 ∧
      applied.1 = .ok (.diagnostics [.channelsPadded 0 6]) ∧
      ∃ read, (applied.2.perform .readSettings).1 = .ok (.settings read) ∧
        read.fixedBaudRate = 0 := by
  intro settings applied
  have answered : applied.1 = .ok (.diagnostics [.channelsPadded 0 6]) := by
    decide +kernel
  have reread := readSettings_of_applied answered (by decide)
  obtain ⟨accepts, _⟩ := canonical_of_read answered reread
  have register : baudRegister settings.fixedBaudRate = 0 := by decide
  have zero := Settings.fixedBaudRate_canonical_eq_zero_iff accepts.storable
  exact ⟨register, answered, _, reread, zero.mpr register⟩

end Session

end ServoLink
