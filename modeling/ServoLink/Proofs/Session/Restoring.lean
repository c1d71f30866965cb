import ServoLink.Proofs.Parameter.Memory
import ServoLink.Proofs.Session.Acceptance
import ServoLink.Proofs.Session.Refusal
import ServoLink.Proofs.Session.RoundTrip
import ServoLink.Proofs.Settings.Exact

/-!
# Taking back what was read

A controller whose parameters are all in range gives settings that it takes again, but for
the slowest baud rates.  A register above 65394 stands for a rate between 183 and 184 bits
per second and is read as 183, whose own register would need more than two bytes.
-/

namespace ServoLink

/-- Every known parameter holds a value that its range admits. -/
def Admissible (register : Parameter → UInt16) : Prop :=
  ∀ (parameter : Parameter) range, parameter.range? = some range →
    range.Admits (register parameter).toNat

/-- The parameter store of the device holds values in range only. -/
def Simulator.InRange (device : Simulator) : Prop :=
  Admissible fun parameter => device.parameters parameter.id

theorem Simulator.InRange.register
    {device : Simulator} (inRange : device.InRange) {parameter : Parameter}
    {range : ParameterRange} (known : parameter.range? = some range) :
    device.register parameter = device.parameters parameter.id := by
  have fits := (Parameter.wellFormed_of_range? known).fits
  have below : ((device.parameters parameter.id).toNat : Int) ≤ range.greatest.toNat :=
    (inRange parameter range known).2
  unfold Simulator.register
  rw [known]
  exact narrowed_of_lt (by omega)

theorem Simulator.InRange.admissible {device : Simulator} (inRange : device.InRange) :
    Admissible device.register := by
  intro parameter range known
  rw [inRange.register known]
  exact inRange parameter range known

/-- Values in range can be checked row by row and field by field. -/
theorem admissible_iff (register : Parameter → UInt16) :
    Admissible register ↔
      (∀ row ∈ Parameter.table,
        row.least ≤ register row.parameter ∧ register row.parameter ≤ row.greatest) ∧
      ∀ field ∈ ServoField.all, ∀ channel < maxChannels,
        let parameter := Parameter.servo field channel
        (field.limits parameter).least ≤ register parameter ∧
          register parameter ≤ (field.limits parameter).greatest := by
  constructor
  · intro admissible
    constructor
    · intro row member
      obtain ⟨least, greatest⟩ := admissible _ _ (Parameter.range?_of_mem_table member)
      exact ⟨Int.ofNat_le.mp least, Int.ofNat_le.mp greatest⟩
    · intro field _ channel bound
      obtain ⟨least, greatest⟩ := admissible _ _ (Parameter.range?_servo field bound)
      exact ⟨Int.ofNat_le.mp least, Int.ofNat_le.mp greatest⟩
  · rintro ⟨rows, fields⟩ parameter range known
    unfold Parameter.range? at known
    cases found : parameter.row? with
    | some row =>
        rw [found] at known
        cases known
        have names : row.parameter = parameter := by simpa using List.find?_some found
        obtain ⟨least, greatest⟩ := rows row (List.mem_of_find?_eq_some found)
        rw [names] at least greatest
        exact ⟨Int.ofNat_le.mpr least, Int.ofNat_le.mpr greatest⟩
    | none =>
        rw [found] at known
        obtain ⟨⟨field, channel⟩, servo, rfl⟩ := Option.map_eq_some_iff.mp known
        obtain ⟨bound, rfl⟩ := Parameter.eq_servo_of_servo? servo
        obtain ⟨least, greatest⟩ := fields field field.mem_all channel bound
        exact ⟨Int.ofNat_le.mpr least, Int.ofNat_le.mpr greatest⟩

instance (register : Parameter → UInt16) : Decidable (Admissible register) :=
  decidable_of_iff _ (admissible_iff register).symm

instance (device : Simulator) : Decidable device.InRange :=
  inferInstanceAs (Decidable (Admissible _))

/-! ## Slow rates -/

theorem baudOfRegister_slow_iff (register : UInt16) :
    0 < baudOfRegister register ∧ baudOfRegister register < 184 ↔
      65394 < register.toNat := by
  have bound := register.toNat_lt
  by_cases zero : register = 0
  · subst zero
    decide
  · have rate := baudOfRegister_toNat zero
    have positive : 0 < register.toNat + 1 := Nat.succ_pos _
    have slow := Nat.div_lt_iff_lt_mul
      (x := instructionFrequency + (register.toNat + 1) / 2) (y := 184) positive
    have some := Nat.div_pos_iff
      (a := instructionFrequency + (register.toNat + 1) / 2) (b := register.toNat + 1)
    rw [UInt32.lt_iff_toNat_lt, UInt32.lt_iff_toNat_lt, rate]
    unfold instructionFrequency at slow some ⊢
    change 0 < _ ∧ _ < 184 ↔ _
    omega

/-- The rate of every register that is too slow. -/
theorem baudOfRegister_of_slow {register : UInt16} (slow : 65394 < register.toNat) :
    baudOfRegister register = 183 := by
  have bound := register.toNat_lt
  have nonzero : register ≠ 0 := by
    rintro rfl
    cases slow
  refine UInt32.toNat_inj.mp ?_
  rw [baudOfRegister_toNat nonzero]
  refine Nat.div_eq_of_lt_le ?_ ?_
  · unfold instructionFrequency
    change 183 * _ ≤ _
    omega
  · unfold instructionFrequency
    change _ < 184 * _
    omega

/-! ## Settings in range -/

theorem homeOfRegister_of_goto
    {raw : UInt16} (goto : (homeOfRegister raw).1 = .goto) :
    (homeOfRegister raw).2 = raw ∧ 2 ≤ raw.toNat := by
  unfold homeOfRegister at goto ⊢
  split at goto
  next => cases goto
  next nonzero =>
    split at goto
    next => cases goto
    next several =>
      have notZero : raw.toNat ≠ 0 := fun same => nonzero (UInt16.toNat_inj.mp same)
      have notOne : raw.toNat ≠ 1 := fun same => several (UInt16.toNat_inj.mp same)
      rw [if_neg nonzero, if_neg several]
      exact ⟨rfl, by omega⟩

section Readable

variable {register : Parameter → UInt16}

theorem channelOfRegisters_storable
    (model : Model) (admissible : Admissible register)
    {channel : Nat} (bound : channel < maxChannels) :
    ¬ (model.channelOfRegisters register channel).Unstorable := by
  have field (field : ServoField) :
      (field.limits (.servo field channel)).least.toNat ≤
          (register (.servo field channel)).toNat ∧
        (register (.servo field channel)).toNat ≤
          (field.limits (.servo field channel)).greatest.toNat := by
    have inside := admissible _ _ (Parameter.range?_servo field bound)
    exact ⟨Int.ofNat_le.mp inside.1, Int.ofNat_le.mp inside.2⟩
  rw [ChannelSetting.not_unstorable_iff]
  constructor
  · intro _ goto
    obtain ⟨same, least⟩ := homeOfRegister_of_goto goto
    have home : (model.channelOfRegisters register channel).home =
        register (.servo .home channel) :=
      same
    rw [home]
    exact ⟨least, (field .home).2⟩
  · intro _
    have minimum : (register (.servo .minimum channel)).toNat ≤ 255 := (field .minimum).2
    have maximum : (register (.servo .maximum channel)).toNat ≤ 255 := (field .maximum).2
    have neutral : register (.servo .neutral channel) ≤ 32440 := (field .neutral).2
    have least : 1 ≤ (register (.servo .range channel)).toNat := (field .range).1
    have greatest : (register (.servo .range channel)).toNat ≤ 50 := (field .range).2
    have scaled : (127 * register (.servo .range channel)).toNat =
        127 * (register (.servo .range channel)).toNat := by
      rw [UInt16.toNat_mul]
      exact Nat.mod_eq_of_lt (by change 127 * _ < 65536; omega)
    change 64 * register (.servo .minimum channel) ≤ 16383 ∧
      64 * register (.servo .maximum channel) ≤ 16383 ∧
      register (.servo .neutral channel) ≤ 32440 ∧
      127 ≤ 127 * register (.servo .range channel) ∧
      127 * register (.servo .range channel) ≤ 6476
    simp only [UInt16.le_iff_toNat_le, UInt16.toNat_mul 64, scaled, UInt16.reduceToNat]
      at neutral ⊢
    omega

theorem Settings.ofRegisters_fixedBaudRate
    (model : Model) (register : Parameter → UInt16) :
    (ofRegisters model register).fixedBaudRate = baudOfRegister (register .fixedBaudRate) := by
  cases model <;> rfl

theorem ofRegisters_rejected_iff (model : Model) (admissible : Admissible register) :
    (Settings.ofRegisters model register).Rejected model false ↔
      65394 < (register .fixedBaudRate).toNat := by
  have baudRate := Settings.ofRegisters_fixedBaudRate model register
  constructor
  · rintro (⟨fixed, slow⟩ | ⟨greatest⟩ | ⟨extended, large⟩ | ⟨setting, used, unstorable⟩ |
      ⟨asked, _⟩)
    · rw [baudRate] at fixed slow
      exact (baudOfRegister_slow_iff _).mp ⟨fixed, slow⟩
    · have offset : (Settings.ofRegisters model register).miniSscOffset =
          (register .miniSscOffset).toUInt8 := by
        cases model <;> rfl
      have below : ((register .miniSscOffset).toNat : Int) ≤ 254 :=
        (admissible .miniSscOffset _ rfl).2
      rw [offset] at greatest
      have same := congrArg UInt8.toNat greatest
      rw [UInt16.toNat_toUInt8] at same
      change _ = 255 at same
      omega
    · have period : (Settings.ofRegisters model register).miniServoPeriod =
          ((register .miniServoPeriodHigh).toUInt32 <<< 8) |||
            (register .miniServoPeriodLow).toUInt32 := by
        cases model with
        | micro6 => cases extended
        | mini12 | mini18 | mini24 => rfl
      have low : ((register .miniServoPeriodLow).toNat : Int) ≤ 255 :=
        (admissible .miniServoPeriodLow _ rfl).2
      have byte : (register .miniServoPeriodLow).toNat < 256 := by omega
      have short := period_toNat_lt (register .miniServoPeriodHigh) byte
      rw [period, UInt32.le_iff_toNat_le] at large
      exact absurd short (Nat.not_lt.mpr large)
    · have channels : (Settings.ofRegisters model register).channels =
          (List.range model.channelCount).map (model.channelOfRegisters register) := by
        cases model <;> rfl
      rw [channels] at used
      obtain ⟨channel, member, rfl⟩ := List.mem_map.mp (List.mem_of_mem_take used)
      have bound := Nat.lt_of_lt_of_le (List.mem_range.mp member) model.channelCount_le
      exact absurd unstorable (channelOfRegisters_storable model admissible bound)
    · cases asked
  · intro slow
    obtain ⟨fixed, below⟩ := (baudOfRegister_slow_iff _).mpr slow
    rw [← baudRate] at fixed below
    exact .baudRate fixed below

end Readable

/-! ## A rate that is refused -/

/-- The serial mode is in range, and the rate after it is not. -/
theorem Settings.writes_of_slow
    {settings : Settings} {model : Model}
    (count : settings.channels.length = model.channelCount)
    (slow : settings.fixedBaudRate = 183) :
    settings.writes model =
      .error (.validation (.outOfRange .fixedBaudRate 65573 0 0xFFFF)) := by
  have mode : ∃ write,
      Assignment.write ⟨.serialMode, settings.serialMode.register.toNat⟩ = .ok write := by
    cases settings.serialMode <;> exact ⟨_, rfl⟩
  obtain ⟨write, mode⟩ := mode
  have rate : Assignment.write ⟨.fixedBaudRate, baudRegister settings.fixedBaudRate⟩ =
      .error (.validation (.outOfRange .fixedBaudRate 65573 0 0xFFFF)) := by
    rw [slow]
    rfl
  have values : ∃ rest, settings.controllerValues model =
      ⟨.serialMode, settings.serialMode.register.toNat⟩ ::
        ⟨.fixedBaudRate, baudRegister settings.fixedBaudRate⟩ :: rest :=
    ⟨_, rfl⟩
  obtain ⟨rest, values⟩ := values
  unfold writes
  rw [if_neg (not_not_intro count), values, List.mapM_cons, mode, List.mapM_cons, rate]
  rfl

theorem Controller.applySettings_of_slow
    (controller : Controller) {settings : Settings} (slow : settings.fixedBaudRate = 183)
    (upload : Bool) :
    controller.applySettings settings upload =
      .stop (.validation (.outOfRange .fixedBaudRate 65573 0 0xFFFF)) := by
  refine applySettings_of_writes_error upload ?_
  refine Settings.writes_of_slow (settings.reconcile_channels_length controller.model) ?_
  rw [Settings.reconcile_settings]
  exact slow

namespace Session

variable (session : Session Simulator)

theorem applySettings_of_slow
    {settings : Settings} (slow : settings.fixedBaudRate = 183) (upload : Bool) :
    (session.perform (.applySettings settings upload)).1 =
      .error (.validation (.outOfRange .fixedBaudRate 65573 0 0xFFFF)) := by
  rw [perform_applySettings, session.controller.applySettings_of_slow slow]
  rfl

/-- Settings that are read from a device in range are taken again, if the register of its
baud rate is not above 65394.  The others are read as a rate that is refused. -/
theorem applySettings_of_readSettings
    (working : session.line.device.failOn = none) (inRange : session.line.device.InRange) :
    ∃ read, (session.perform .readSettings).1 = .ok (.settings read) ∧
      let register := session.line.device.parameters Parameter.fixedBaudRate.id
      let restored :=
        ((session.perform .readSettings).2.perform (.applySettings read false)).1
      (register ≤ 65394 → ∃ found, restored = .ok (.diagnostics found)) ∧
      (65394 < register → read.fixedBaudRate = 183 ∧ restored =
        .error (.validation (.outOfRange .fixedBaudRate 65573 0 0xFFFF))) := by
  obtain ⟨left, performed, same⟩ := readSettings_of_working session (by simp [working])
  have baud : session.line.device.register .fixedBaudRate =
      session.line.device.parameters Parameter.fixedBaudRate.id :=
    inRange.register rfl
  rw [performed]
  refine ⟨_, rfl, fun fast => ?_, fun slow => ?_⟩
  · have kept : ¬ (Settings.ofRegisters session.controller.model
        session.line.device.register).Rejected session.controller.model false := by
      rw [ofRegisters_rejected_iff _ inRange.admissible, baud, Nat.not_lt]
      exact UInt16.le_iff_toNat_le.mp fast
    have accepts := (session.controller.accepts_iff _ false).mpr kept
    have writes : left.device.failOn ≠ some 0x82 := by
      simp [same.failOn, working]
    obtain ⟨counters, applied⟩ := Controller.run_applySettings_without_upload accepts writes
    rw [perform_applySettings]
    exact ⟨_, congrArg (fun outcome => Except.map Answer.diagnostics outcome.1) applied⟩
  · have rate : (Settings.ofRegisters session.controller.model
        session.line.device.register).fixedBaudRate = 183 := by
      rw [Settings.ofRegisters_fixedBaudRate, baud]
      exact baudOfRegister_of_slow (UInt16.lt_iff_toNat_lt.mp slow)
    exact ⟨rate, applySettings_of_slow _ rate false⟩

/-- A controller with ones in its registers. -/
theorem applySettings_of_readSettings_micro6 :
    let ones : Session Simulator :=
      { simulated .micro6 with
        line := { device := { product := Model.micro6.product, parameters := fun _ => 1 } } }
    ones.line.device.failOn = none ∧ ones.line.device.InRange ∧
      ∃ read found, (ones.perform .readSettings).1 = .ok (.settings read) ∧
        ((ones.perform .readSettings).2.perform (.applySettings read false)).1 =
          .ok (.diagnostics found) := by
  intro ones
  have inRange : ones.line.device.InRange := by decide +kernel
  obtain ⟨read, given, taken, _⟩ := applySettings_of_readSettings ones rfl inRange
  obtain ⟨found, restored⟩ := taken (by decide)
  exact ⟨rfl, inRange, read, found, given, restored⟩

/-- A controller with 15 in the range of every servo, the last of the baud rate registers and
zeros elsewhere gives settings that it does not take again. -/
theorem readSettings_not_restorable :
    let session : Session Simulator :=
      { simulated .micro6 with
        line := { device := {
          product := Model.micro6.product
          parameters := fun address =>
            if address = 4 then 65535
            else if 36 ≤ address ∧ address ≤ 243 ∧ address % 9 = 0 then 15
            else 0 } } }
    session.line.device.failOn = none ∧ session.line.device.InRange ∧
      ∃ read, (session.perform .readSettings).1 = .ok (.settings read) ∧
        ¬ ∃ answer, ((session.perform .readSettings).2.perform
          (.applySettings read false)).1 = .ok answer := by
  intro session
  have inRange : session.line.device.InRange := by decide +kernel
  obtain ⟨left, performed, _⟩ := readSettings_of_working session (by decide)
  have rate : (Settings.ofRegisters session.controller.model
      session.line.device.register).fixedBaudRate = 183 := by
    rw [Settings.ofRegisters_fixedBaudRate, inRange.register rfl]
    exact baudOfRegister_of_slow (by decide)
  rw [performed]
  refine ⟨rfl, inRange, _, rfl, ?_⟩
  rintro ⟨answer, restored⟩
  have refused := applySettings_of_slow { session with line := left } rate false
  cases refused.symm.trans restored

end Session

end ServoLink
