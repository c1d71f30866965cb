import ServoLink.Proofs.Session.ExactReading
import ServoLink.Proofs.Session.RoundTrip

/-!
# Reading settings from any device

Whatever a device answers, its settings are read without an overflow.  The reading
succeeds exactly if every read is answered in the width of its parameter, and what it
gives lies within bounds that the widths imply.
-/

namespace ServoLink

/-! ## Bounds -/

/-- Settings with one entry per channel, whose multiplier and period a controller could
have stored. -/
structure Settings.Readable (settings : Settings) (model : Model) : Prop where
  channels : settings.channels.length = model.channelCount
  multiplier : settings.servoMultiplier.toNat ≤ 256
  period : settings.miniServoPeriod.toNat < 2 ^ 24

theorem Settings.ofRegisters_readable
    (model : Model) {register : Parameter → UInt16} (fitting : Controller.Fitting register) :
    (ofRegisters model register).Readable model := by
  have multiplier : (register .servoMultiplier + 1).toNat ≤ 256 := by
    have byte : (register .servoMultiplier).toNat < 256 := fitting .servoMultiplier _ rfl
    rw [UInt16.toNat_add]
    exact Nat.le_trans (Nat.mod_le _ _) byte
  have period : (((register .miniServoPeriodHigh).toUInt32 <<< 8) |||
      (register .miniServoPeriodLow).toUInt32).toNat < 2 ^ 24 :=
    period_toNat_lt _ (fitting .miniServoPeriodLow _ rfl)
  have channels : ((List.range model.channelCount).map
      (model.channelOfRegisters register)).length = model.channelCount := by
    rw [List.length_map, List.length_range]
  -- Compact controllers keep the default multiplier and period.
  cases model with
  | micro6 =>
      have one : (1 : UInt16).toNat ≤ 256 := by decide
      have default : (80000 : UInt32).toNat < 2 ^ 24 := by decide
      exact ⟨channels, one, default⟩
  | mini12 | mini18 | mini24 => exact ⟨channels, multiplier, period⟩

namespace Session

variable {δ : Type} [Transport δ]

/-- Reading the settings never overflows, and succeeds exactly if the device answers each
read with a reply of the parameter's width.  There is then one setting per channel, and
the multiplier and the servo period are bounded. -/
theorem readSettings_safe (session : Session δ) :
    let model := session.controller.model
    let outcome := (session.perform .readSettings).1
    (∀ fault, Controller.readSettingsExactly fault model =
      session.controller.readSettings) ∧
    ((∃ answer, outcome = .ok answer) ↔
      Controller.Answers model.readOrder session.line.device) ∧
    ∀ answer, outcome = .ok answer → ∃ settings, answer = .settings settings ∧
      settings.channels.length = model.channelCount ∧
      settings.servoMultiplier.toNat ≤ 256 ∧ settings.miniServoPeriod.toNat < 2 ^ 24 := by
  intro model outcome
  have collected : outcome =
      ((Controller.collect model.readOrder).run session.line).1.map fun register =>
        Answer.settings (Settings.ofRegisters model register) := by
    change (session.perform .readSettings).1 = _
    rw [perform_readSettings, Controller.readSettings_eq_collect, Exchange.run_map]
    cases ((Controller.collect model.readOrder).run session.line).1 <;> rfl
  refine ⟨fun fault => Controller.readSettingsExactly_eq fault session.controller, ?_, ?_⟩
  · rw [← Controller.collect_ok_iff, collected]
    cases ((Controller.collect model.readOrder).run session.line).1 <;> simp [Except.map]
  · intro answer answered
    rw [collected] at answered
    cases read : ((Controller.collect model.readOrder).run session.line).1 with
    | error cause =>
        rw [read] at answered
        cases answered
    | ok register =>
        rw [read] at answered
        cases answered
        have fitting : Controller.Fitting register :=
          (Controller.collect_gives fun parameter member =>
            Model.known_of_mem_writeOrder (Model.mem_readOrder_iff.mp member)).of_run read
        obtain ⟨channels, multiplier, period⟩ := Settings.ofRegisters_readable model fitting
        exact ⟨_, rfl, channels, multiplier, period⟩

/-- A controller with all bits of its parameters set reaches the bounds. -/
theorem readSettings_safe_mini24 :
    let session : Session Simulator :=
      { simulated .mini24 with
        line := { device := {
          product := Model.mini24.product
          parameters := fun _ => 0xFFFF } } }
    Controller.Answers Model.mini24.readOrder session.line.device ∧
      ∃ settings, (session.perform .readSettings).1 = .ok (.settings settings) ∧
        settings.channels.length = 24 ∧ settings.servoMultiplier.toNat = 256 ∧
        settings.miniServoPeriod.toNat = 2 ^ 24 - 1 ∧
        settings.servoMultiplier.toNat ≤ 256 ∧ settings.miniServoPeriod.toNat < 2 ^ 24 := by
  intro session
  obtain ⟨_, answers, bounds⟩ := readSettings_safe session
  obtain ⟨left, performed, _⟩ := readSettings_of_working session (by decide)
  have answered := congrArg Prod.fst performed
  obtain ⟨settings, same, channels, multiplier, period⟩ := bounds _ answered
  cases same
  exact ⟨answers.mp ⟨_, answered⟩, _, answered, channels, by decide +kernel,
    by decide +kernel, multiplier, period⟩

end Session

end ServoLink
