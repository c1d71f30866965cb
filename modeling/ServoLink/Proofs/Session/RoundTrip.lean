import ServoLink.Proofs.Session.Apply
import ServoLink.Proofs.Session.Reading

/-!
# Reading back what was applied

An application that succeeds leaves the value of every assignment in its register: the
writes put it there, and the upload of a script spares all parameters but its checksum.
Settings that are read afterwards are the canonical form of the reconciled ones, and
applying those once more makes the same writes.
-/

namespace ServoLink

namespace Simulator

/-! ## Calls that spare the settings -/

theorem send_spares
    {setup : Setup} {payload : List UInt8}
    (spares : Call.SparesSettings (.send setup payload))
    {address : UInt8} (other : address ≠ Parameter.scriptCrc.id) (device : Simulator) :
    (send setup payload device).2.parameters address = device.parameters address := by
  unfold send
  split
  next => rfl
  next taken =>
    change (device.accept setup payload).parameters address = _
    unfold accept
    split
    next writes =>
      have elsewhere : address ≠ setup.index.toUInt8 := by
        rw [spares writes]
        exact other
      exact if_neg elsewhere
    next =>
      split
      next => rfl
      next => split <;> rfl

theorem receive_parameters (setup : Setup) (length : Nat) (device : Simulator) :
    (receive setup length device).2.parameters = device.parameters := by
  unfold receive
  split <;> rfl

theorem accept_failOn (setup : Setup) (payload : List UInt8) (device : Simulator) :
    (device.accept setup payload).failOn = device.failOn := by
  unfold accept
  split
  next => rfl
  next =>
    split
    next => rfl
    next => split <;> rfl

/-- No transfer changes which transfers fail. -/
theorem run_failOn {α : Type} (exchange : Exchange α) (line : Exchange.Line Simulator) :
    (exchange.run line).2.device.failOn = line.device.failOn := by
  refine Exchange.run_keeps
    (fun device : Simulator => device.failOn = line.device.failOn)
    exchange.within_anything ?_ ?_ rfl
  · intro setup payload device _ kept
    change (send setup payload device).2.failOn = _
    unfold send
    split
    next => exact kept
    next => exact (device.accept_failOn setup payload).trans kept
  · intro setup length device _ kept
    change (receive setup length device).2.failOn = _
    unfold receive
    split <;> exact kept

/-- The device with no transfer that fails. -/
def repaired (device : Simulator) : Simulator :=
  { device with failOn := none }

/-- A run that spares the settings leaves every parameter but the checksum. -/
theorem run_spares
    {α : Type} {stopped : Error → Prop} {exchange : Exchange α}
    (within : exchange.Within Call.SparesSettings stopped)
    {address : UInt8} (other : address ≠ Parameter.scriptCrc.id)
    (line : Exchange.Line Simulator) :
    (exchange.run line).2.device.parameters address = line.device.parameters address := by
  refine Exchange.run_keeps
    (fun device : Simulator => device.parameters address = line.device.parameters address)
    within ?_ ?_ rfl
  · intro setup payload device spares kept
    exact (send_spares spares other device).trans kept
  · intro setup length device _ kept
    exact (congrFun (receive_parameters setup length device) address).trans kept

end Simulator

/-! ## What an application leaves -/

theorem Model.scriptCrc_not_mem_writeOrder (model : Model) :
    ∀ parameter ∈ model.writeOrder, parameter.id ≠ Parameter.scriptCrc.id := by
  have small := model.channelCount_le
  have shared : ∀ parameter ∈ model.controllerParameters ++ model.modeParameters,
      parameter.id ≠ Parameter.scriptCrc.id := by
    cases model <;> decide
  intro parameter member
  rcases List.mem_append.mp member with front | mode
  · rcases List.mem_append.mp front with controller | channel
    · exact shared parameter (List.mem_append_left _ controller)
    · obtain ⟨place, field, bound, rfl⟩ := Model.mem_channelParameters_iff.mp channel
      intro same
      have address := Parameter.id_servo_toNat field (Nat.lt_of_lt_of_le bound small)
      have checksum : Parameter.scriptCrc.id.toNat = 22 := rfl
      rw [same, checksum] at address
      omega
  · exact shared parameter (List.mem_append_right _ mode)

namespace Controller

variable {controller : Controller} {settings : Settings} {upload : Bool}
  {line : Exchange.Line Simulator} {found : List Diagnostic}

theorem accepts_of_applied
    (applied : ((controller.applySettings settings upload).run line).1 = .ok found) :
    controller.Accepts settings upload := by
  by_contra refused
  obtain ⟨cause, stopped⟩ :=
    controller.applySettings_of_not_accepts settings upload refused
  rw [stopped] at applied
  cases applied

theorem planned_checked (accepts : controller.Accepts settings upload) :
    ∀ write ∈ (controller.planned settings upload).writes, write.Checked :=
  Settings.assignments_checked (settings.reconcile_channels_length controller.model)
    accepts.storable

theorem working_of_applied
    (applied : ((controller.applySettings settings upload).run line).1 = .ok found) :
    line.device.failOn ≠ some 0x82 := by
  have accepts := accepts_of_applied applied
  have some : (controller.planned settings upload).writes ≠ [] :=
    List.cons_ne_nil _ _
  rw [applySettings_of_accepts controller settings upload accepts] at applied
  obtain ⟨_, left, first, _⟩ := Exchange.ok_of_run_bind applied
  exact working_of_run_writeParameters some (congrArg Prod.fst first)

/-- An application writes the settings, and then uploads the script if there is one. -/
theorem run_applySettings
    (accepts : controller.Accepts settings upload)
    (working : line.device.failOn ≠ some 0x82) :
    ∃ counters, (controller.applySettings settings upload).run line =
      (do
        (controller.planned settings upload).uploading controller
        return (controller.planned settings upload).diagnostics).run
        { line with
          device := line.device.takeAll (controller.planned settings upload).writes
          counters } := by
  obtain ⟨counters, written⟩ := run_writeParameters (planned_checked accepts) working
  refine ⟨counters, ?_⟩
  rw [applySettings_of_accepts controller settings upload accepts]
  exact Exchange.run_bind_of_ok written

theorem parameters_of_applied
    (accepts : controller.Accepts settings upload)
    (working : line.device.failOn ≠ some 0x82)
    {address : UInt8} (other : address ≠ Parameter.scriptCrc.id) :
    ((controller.applySettings settings upload).run line).2.device.parameters address =
      (line.device.takeAll (controller.planned settings upload).writes).parameters
        address := by
  obtain ⟨counters, run⟩ := run_applySettings accepts working
  rw [run]
  exact Simulator.run_spares
    (Exchange.within_bind (uploading_within accepts) fun _ => Exchange.within_done _) other _

/-- After an application, every register holds what was assigned to it. -/
theorem holds_of_applied
    (accepts : controller.Accepts settings upload)
    (working : line.device.failOn ≠ some 0x82) :
    Holds ((controller.applySettings settings upload).run line).2.device.register
      ((settings.reconcile controller.model).1.assignments controller.model) := by
  have count := settings.reconcile_channels_length controller.model
  intro assignment member
  have fits := Settings.assignments_fit count accepts.storable assignment member
  have ordered : assignment.parameter ∈ controller.model.writeOrder := by
    rw [← Settings.map_parameter_assignments count]
    exact List.mem_map_of_mem member
  have other := controller.model.scriptCrc_not_mem_writeOrder _ ordered
  have stored := parameters_of_applied accepts working other
  have written : (line.device.takeAll (controller.planned settings upload).writes).parameters
      assignment.checked.parameter.id = assignment.checked.value :=
    Simulator.takeAll_of_mem (planned_checked accepts)
      (Settings.writes_apart count) (List.mem_map_of_mem member)
  rw [Assignment.parameter_checked] at written
  have register := Simulator.register_of_checked fits.checked
    (by rw [Assignment.parameter_checked]; exact stored.trans written)
  rw [← assignment.parameter_checked, register]
  exact fits.value

/-- Without an upload, an application consists of its writes. -/
theorem run_applySettings_without_upload
    (accepts : controller.Accepts settings false)
    (working : line.device.failOn ≠ some 0x82) :
    ∃ counters, (controller.applySettings settings false).run line =
      (.ok (settings.reconcile controller.model).2,
        { line with
          device := line.device.takeAll (controller.planned settings false).writes
          counters }) := by
  obtain ⟨counters, run⟩ := run_applySettings accepts working
  have diagnostics : (controller.planned settings false).diagnostics =
      (settings.reconcile controller.model).2 :=
    List.append_nil _
  refine ⟨counters, ?_⟩
  rw [run, ← diagnostics]
  rfl

end Controller

/-- What is read from registers that hold the values of reconciled settings. -/
theorem Controller.run_readSettings_of_holds
    {controller : Controller} {settings : Settings} {upload : Bool}
    {line : Exchange.Line Simulator} (accepts : controller.Accepts settings upload)
    (holds : Holds line.device.register
      ((settings.reconcile controller.model).1.assignments controller.model))
    (working : line.device.failOn ≠ some 0x81) :
    ∃ left, controller.readSettings.run line =
        (.ok ((settings.reconcile controller.model).1.canonical controller.model), left) ∧
      Simulator.SameStore line.device left.device := by
  obtain ⟨left, run, same⟩ := controller.run_readSettings working
  rw [ofRegisters_eq_canonical (settings.reconcile_channels_length controller.model)
    accepts.storable holds] at run
  exact ⟨left, run, same⟩

/-! ## What is read, applied once more -/

section Again

variable {settings : Settings} {model : Model}

/-- What is read back needs nothing but the fixed limits of its channels. -/
theorem Settings.reconcile_canonical (settings : Settings) (model : Model) :
    ((settings.reconcile model).1.canonical model).reconcile model =
      ((settings.reconcile model).1.again model, []) := by
  refine reconcile_eq_of_fitting ?_ (settings.reconcile_serialDeviceNumber_lt model)
  rw [← settings.reconcile_channels_length model]
  exact List.length_map _

variable {controller : Controller} {upload : Bool}

theorem Controller.accepts_again (accepts : controller.Accepts settings upload) :
    controller.Accepts ((settings.reconcile controller.model).1.canonical controller.model)
      false where
  storable := by
    rw [Settings.reconcile_canonical]
    exact Settings.storable_again accepts.storable
      (settings.reconcile_fixed controller.model)
  script := fun program uploaded => by cases uploaded

theorem Controller.planned_again (accepts : controller.Accepts settings upload) :
    (controller.planned
      ((settings.reconcile controller.model).1.canonical controller.model) false).writes =
      (controller.planned settings upload).writes := by
  have same : (((settings.reconcile controller.model).1.canonical controller.model).reconcile
      controller.model).1.assignments controller.model =
      (settings.reconcile controller.model).1.assignments controller.model := by
    rw [Settings.reconcile_canonical]
    exact Settings.assignments_again accepts.storable
      (settings.reconcile_fixed controller.model)
  exact congrArg (List.map Assignment.checked) same

/-- On a device that holds what the settings assign, applying what was read from it makes
the writes of the settings once more and changes no parameter. -/
theorem Controller.run_again
    {line : Exchange.Line Simulator} (accepts : controller.Accepts settings upload)
    (working : line.device.failOn ≠ some 0x82)
    (stored : ∀ write ∈ (controller.planned settings upload).writes,
      line.device.parameters write.parameter.id = write.value) :
    ∃ left, (controller.applySettings
        ((settings.reconcile controller.model).1.canonical controller.model) false).run line =
          (.ok [], left) ∧
      left.device.log = line.device.log ++
        (controller.planned settings upload).writes.map Simulator.writeTransfer ∧
      left.device.parameters = line.device.parameters := by
  have checked := planned_checked accepts
  obtain ⟨counters, run⟩ := run_applySettings_without_upload (accepts_again accepts) working
  rw [planned_again accepts, Settings.reconcile_canonical] at run
  exact ⟨_, run, Simulator.takeAll_log checked, Simulator.takeAll_of_stored checked stored⟩

end Again

/-! ## Reading back -/

namespace Session

/-- A command that answers with the result of an exchange. -/
theorem perform_of_map
    {δ α : Type} [Transport δ] {session : Session δ} {command : Command}
    {f : α → Answer} {exchange : Exchange α}
    (mapped : session.controller.perform command = f <$> exchange) :
    session.perform command =
      ((exchange.run session.line).1.map f,
        { session with line := (exchange.run session.line).2 }) := by
  unfold perform carryOut
  rw [mapped, Exchange.run_map]

theorem perform_applySettings
    {δ : Type} [Transport δ] (session : Session δ) (settings : Settings) (upload : Bool) :
    session.perform (.applySettings settings upload) =
      (((session.controller.applySettings settings upload).run session.line).1.map
          Answer.diagnostics,
        { session with
          line := ((session.controller.applySettings settings upload).run
            session.line).2 }) :=
  perform_of_map rfl

theorem perform_readSettings
    {δ : Type} [Transport δ] (session : Session δ) :
    session.perform .readSettings =
      ((session.controller.readSettings.run session.line).1.map Answer.settings,
        { session with line := (session.controller.readSettings.run session.line).2 }) :=
  perform_of_map rfl

/-- A device that refuses no read gives the settings of its registers. -/
theorem readSettings_of_working
    (session : Session Simulator) (reads : session.line.device.failOn ≠ some 0x81) :
    ∃ left, session.perform .readSettings =
        (.ok (.settings (Settings.ofRegisters session.controller.model
          session.line.device.register)), { session with line := left }) ∧
      Simulator.SameStore session.line.device left.device := by
  obtain ⟨left, run, same⟩ := Controller.run_readSettings session.controller reads
  refine ⟨left, ?_, same⟩
  rw [perform_readSettings, run]
  rfl

variable {session : Session Simulator} {settings : Settings} {upload : Bool}
  {answer : Answer}

/-- A command that answers has run its exchange to the end. -/
theorem ok_of_answer
    {α : Type} {command : Command} {f : α → Answer} {exchange : Exchange α}
    (mapped : session.controller.perform command = f <$> exchange)
    (answered : (session.perform command).1 = .ok answer) :
    ∃ result, (exchange.run session.line).1 = .ok result ∧ f result = answer := by
  rw [perform_of_map mapped] at answered
  dsimp only at answered
  cases outcome : (exchange.run session.line).1 with
  | ok result =>
      rw [outcome] at answered
      cases answered
      exact ⟨result, rfl, rfl⟩
  | error cause =>
      rw [outcome] at answered
      cases answered

/-- The session with a device that refuses no transfer. -/
def repaired (session : Session Simulator) : Session Simulator :=
  { session with line := { session.line with device := session.line.device.repaired } }

theorem readSettings_of_applied
    (answered : (session.perform (.applySettings settings upload)).1 = .ok answer)
    (reads : session.line.device.failOn ≠ some 0x81) :
    ((session.perform (.applySettings settings upload)).2.perform .readSettings).1 =
      .ok (.settings ((settings.reconcile session.controller.model).1.canonical
        session.controller.model)) := by
  obtain ⟨found, applied, _⟩ := ok_of_answer (Controller.perform_applySettings _ _ _) answered
  have accepts := Controller.accepts_of_applied applied
  have holds := Controller.holds_of_applied accepts (Controller.working_of_applied applied)
  rw [← Simulator.run_failOn (session.controller.applySettings settings upload)] at reads
  obtain ⟨left, run, _⟩ := Controller.run_readSettings_of_holds accepts holds reads
  rw [perform_applySettings, perform_readSettings]
  dsimp only
  rw [run]
  rfl

/-- What is read after an application, if it is read. -/
theorem canonical_of_read
    {read : Settings}
    (answered : (session.perform (.applySettings settings upload)).1 = .ok answer)
    (reread : ((session.perform (.applySettings settings upload)).2.perform
      .readSettings).1 = .ok (.settings read)) :
    session.controller.Accepts settings upload ∧
      read = (settings.reconcile session.controller.model).1.canonical
        session.controller.model := by
  obtain ⟨found, applied, _⟩ := ok_of_answer (Controller.perform_applySettings _ _ _) answered
  have accepts := Controller.accepts_of_applied applied
  obtain ⟨taken, given, _⟩ := ok_of_answer rfl reread
  have reads := Controller.working_of_run_readSettings given
  rw [perform_applySettings] at reads
  dsimp only at reads
  rw [Simulator.run_failOn] at reads
  cases (readSettings_of_applied answered reads).symm.trans reread
  exact ⟨accepts, rfl⟩

/-- Whatever a device held before, settings that it has taken are read back in the
canonical form of the reconciled settings, with one entry per channel. -/
theorem readSettings_after_applySettings
    (answered : (session.perform (.applySettings settings upload)).1 = .ok answer) :
    let model := session.controller.model
    let expected := (settings.reconcile model).1.canonical model
    ((session.perform (.applySettings settings upload)).2.repaired.perform
        .readSettings).1 = .ok (.settings expected) ∧
      expected.channels.length = model.channelCount := by
  intro model expected
  obtain ⟨found, applied, _⟩ := ok_of_answer (Controller.perform_applySettings _ _ _) answered
  have accepts := Controller.accepts_of_applied applied
  have working := Controller.working_of_applied applied
  have holds := Controller.holds_of_applied accepts working
  rw [perform_applySettings, perform_readSettings]
  generalize (session.controller.applySettings settings upload).run session.line = outcome
    at holds
  let line : Exchange.Line Simulator := { outcome.2 with device := outcome.2.device.repaired }
  have register : line.device.register = outcome.2.device.register :=
    Simulator.register_congr rfl
  have repairedWorks : line.device.failOn ≠ some 0x81 := by
    intro same
    cases same
  rw [← register] at holds
  obtain ⟨left, run, _⟩ :=
    Controller.run_readSettings_of_holds accepts holds repairedWorks
  constructor
  · change (session.controller.readSettings.run line).1.map Answer.settings = _
    rw [run]
    rfl
  · rw [← settings.reconcile_channels_length session.controller.model]
    exact List.length_map _

/-- Settings with a rate that is rounded, a number that is replaced, five channels that
are missing and a script. -/
theorem readSettings_after_applySettings_compact :
    let session := simulated .micro6
    let settings : Settings :=
      { fixedBaudRate := 115200
        serialDeviceNumber := 200
        channels := [{ mode := .servoMultiplied, homeMode := .goto, speed := 300 }]
        program := some { byteCode := [1, 2, 3], checksum := 9 } }
    let expected : Settings :=
      { fixedBaudRate := 115385
        serialDeviceNumber := 12
        channels :=
          { mode := .servo, homeMode := .goto, speed := 288 } :: List.replicate 5 { home := 0 }
        program := none }
    (session.perform (.applySettings settings true)).1 =
        .ok (.diagnostics [.channelsPadded 1 6, .serialDeviceNumberClamped 200]) ∧
      ((session.perform (.applySettings settings true)).2.repaired.perform
        .readSettings).1 = .ok (.settings expected) := by
  intro session settings expected
  have answered : (session.perform (.applySettings settings true)).1 =
      .ok (.diagnostics [.channelsPadded 1 6, .serialDeviceNumberClamped 200]) := by
    decide +kernel
  have same : (settings.reconcile .micro6).1.canonical .micro6 = expected := by
    decide +kernel
  refine ⟨answered, ?_⟩
  rw [← same]
  exact (readSettings_after_applySettings answered).1

/-! ## Applying what was read -/

/-- Settings that were read after an application are taken again without a diagnostic.
They make the same writes in the same order, which change no parameter. -/
theorem applySettings_after_readSettings
    {read : Settings}
    (answered : (session.perform (.applySettings settings false)).1 = .ok answer)
    (reread : ((session.perform (.applySettings settings false)).2.perform
      .readSettings).1 = .ok (.settings read)) :
    let first := (session.perform (.applySettings settings false)).2
    let second := (first.perform .readSettings).2
    let third := second.perform (.applySettings read false)
    third.1 = .ok (.diagnostics []) ∧
      (∃ writes : List Transfer,
        (∀ transfer ∈ writes, transfer.setup.request = Request.setParameter.code) ∧
          first.line.device.log = session.line.device.log ++ writes ∧
          third.2.line.device.log = second.line.device.log ++ writes) ∧
      third.2.line.device.parameters = second.line.device.parameters := by
  intro first second third
  obtain ⟨found, applied, _⟩ := ok_of_answer (Controller.perform_applySettings _ _ _) answered
  have accepts := Controller.accepts_of_applied applied
  have working := Controller.working_of_applied applied
  have count := settings.reconcile_channels_length session.controller.model
  have checked := Controller.planned_checked accepts
  have holds := Controller.holds_of_applied accepts working
  obtain ⟨counters, firstRun⟩ :=
    Controller.run_applySettings_without_upload accepts working
  -- The line that the first application leaves; `left` below is that of the read.
  let written : Exchange.Line Simulator := { session.line with
    device := session.line.device.takeAll (session.controller.planned settings false).writes
    counters }
  have firstEqual : first = { session with line := written } := by
    change (session.perform (.applySettings settings false)).2 = _
    rw [perform_applySettings, firstRun]
  rw [firstRun] at holds
  change (first.perform .readSettings).1 = _ at reread
  rw [firstEqual] at reread
  obtain ⟨taken, given, readTaken⟩ := ok_of_answer rfl reread
  obtain ⟨left, readRun, same⟩ := Controller.run_readSettings_of_holds accepts holds
    (Controller.working_of_run_readSettings given)
  have readEqual : read =
      (settings.reconcile session.controller.model).1.canonical session.controller.model := by
    rw [readRun] at given
    cases given
    cases readTaken
    rfl
  have secondEqual : second = { session with line := left } := by
    change (first.perform .readSettings).2 = _
    rw [firstEqual, perform_readSettings, readRun]
  have leftWorks : left.device.failOn ≠ some 0x82 := by
    rw [same.failOn, Simulator.takeAll_failOn checked]
    exact working
  obtain ⟨last, thirdRun, logged, kept⟩ := Controller.run_again accepts leftWorks
    fun write member => by
      rw [same.parameters]
      exact Simulator.takeAll_of_mem checked
        (Settings.writes_apart count) member
  have thirdEqual : third = (.ok (.diagnostics []), { session with line := last }) := by
    change second.perform (.applySettings read false) = _
    rw [secondEqual, readEqual, perform_applySettings, thirdRun]
    rfl
  rw [thirdEqual, secondEqual, firstEqual]
  refine ⟨rfl, ⟨_, ?_, Simulator.takeAll_log checked, logged⟩, kept⟩
  intro transfer member
  obtain ⟨write, _, rfl⟩ := List.mem_map.mp member
  rfl

/-- One output channel with a rate and limits that are rounded. -/
theorem applySettings_after_readSettings_compact :
    let session := simulated .micro6
    let settings : Settings :=
      { fixedBaudRate := 57600
        channels := [{ mode := .output, homeMode := .ignore, speed := 1001 }] }
    let first := (session.perform (.applySettings settings false)).2
    let read : Settings :=
      { fixedBaudRate := 57692
        channels :=
          { mode := .output, homeMode := .ignore, home := 0 } ::
            List.replicate 5 { home := 0 } }
    (session.perform (.applySettings settings false)).1 =
        .ok (.diagnostics [.channelsPadded 1 6]) ∧
      (first.perform .readSettings).1 = .ok (.settings read) ∧
      ((first.perform .readSettings).2.perform (.applySettings read false)).1 =
        .ok (.diagnostics []) := by
  intro session settings first read
  have answered : (session.perform (.applySettings settings false)).1 =
      .ok (.diagnostics [.channelsPadded 1 6]) := by
    decide +kernel
  have reread : (first.perform .readSettings).1 = .ok (.settings read) := by
    decide +kernel
  exact ⟨answered, reread, (applySettings_after_readSettings answered reread).1⟩

end Session

end ServoLink
