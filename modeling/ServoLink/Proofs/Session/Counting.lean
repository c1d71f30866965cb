import ServoLink.Proofs.Exchange.Tally
import ServoLink.Proofs.Session.Steps

/-!
# Counters and logs of a run

Over any run of commands the counters gain exactly what the log of the device gains: the
transfers in each direction, the blocks of scripts and the writes of parameters.  The only
write of a parameter that is not counted as one is the mark that restores the defaults.
Without counters the run is the same.
-/

namespace ServoLink

/-! ## What each command counts -/

namespace Controller

variable (controller : Controller)

theorem request_tallied
    {called : Request} {value index : UInt16}
    (plain : none = (called.setup value index).tally?) :
    (request called value index).Tallied :=
  Exchange.tallied_sending plain []

theorem writeParameter_tallied (write : ParameterWrite) : (writeParameter write).Tallied :=
  Exchange.tallied_sending rfl []

theorem setRawParameter_tallied (parameter : Parameter) (value : Int) :
    (setRawParameter parameter value).Tallied :=
  (Exchange.tallied_liftM _).bind writeParameter_tallied

theorem getRawParameter_tallied (parameter : Parameter) :
    (getRawParameter parameter).Tallied :=
  (Exchange.tallied_liftM_protocol _).bind fun range =>
    (Exchange.tallied_receiving rfl range.width).bind fun _ => Exchange.tallied_liftM _

theorem readStatus_tallied (kind : StatusKind) : (controller.readStatus kind).Tallied := by
  have plain : ((controller.model.statusQuery kind).request.setup 0 0).tally? = none := by
    generalize controller.model = model
    cases model <;> cases kind <;> rfl
  refine (Exchange.tallied_receiving plain _).bind fun reply => ?_
  split
  · exact Exchange.tallied_stop _
  · exact Exchange.tallied_liftM_protocol _

theorem reloadFor_tallied (milliseconds : UInt64) :
    (controller.reloadFor milliseconds).Tallied := by
  refine (request_tallied rfl).bind fun _ => ?_
  split
  · exact ((controller.readStatus_tallied .deviceVariables).map fun _ => ()).bind fun _ =>
      Exchange.tallied_settling milliseconds
  · exact Exchange.tallied_settling milliseconds

/-- The script is stopped and erased and its blocks are written, before what is last. -/
theorem blocksThen_tallied
    (blocks : List ScriptBlock) {last : Exchange Unit} (tallied : last.Tallied) :
    (do
      setScriptState .stop
      eraseScript
      writeBlocks blocks
      last).Tallied :=
  (request_tallied rfl).bind fun _ => (request_tallied rfl).bind fun _ =>
    (Exchange.tallied_forM fun _ => Exchange.tallied_sending rfl _).bind fun _ => tallied

theorem writeScript_tallied (program : Program) (image : ScriptImage) (withChecksum : Bool) :
    (controller.writeScript program image withChecksum).Tallied := by
  have reloaded := controller.reloadFor_tallied controller.delays.scriptUpload
  cases withChecksum with
  | false => exact blocksThen_tallied _ reloaded
  | true =>
      refine ((Exchange.tallied_liftM (checksumWrite program)).map some).bind fun checksum => ?_
      cases checksum with
      | none => exact blocksThen_tallied _ reloaded
      | some write =>
          exact blocksThen_tallied _ ((writeParameter_tallied write).bind fun _ => reloaded)

theorem uploadScript_tallied (program : Program) (withChecksum : Bool) :
    (controller.uploadScript program withChecksum).Tallied :=
  (Exchange.tallied_liftM_validation _).bind fun image =>
    controller.writeScript_tallied program image withChecksum

theorem applySettings_tallied (settings : Settings) (upload : Bool) :
    (controller.applySettings settings upload).Tallied := by
  rw [applySettings_eq]
  refine (Exchange.tallied_liftM _).bind fun plan => ?_
  have uploaded : (plan.uploading controller).Tallied := by
    unfold ApplyPlan.uploading
    split
    · exact controller.writeScript_tallied _ _ _
    · exact Exchange.tallied_done ()
  exact (Exchange.tallied_forM writeParameter_tallied).bind fun _ => uploaded.map _

theorem readSettings_tallied : controller.readSettings.Tallied :=
  (Exchange.tallied_mapM fun parameter => (getRawParameter_tallied parameter).map _).map _

theorem channelRequest_tallied
    (channel : UInt8) {called : Request} {value index : UInt16}
    (plain : none = (called.setup value index).tally?) :
    (do
      controller.model.checkChannel channel
      request called value index : Exchange Unit).Tallied :=
  (Exchange.tallied_liftM_validation _).bind fun _ => request_tallied plain

theorem setPwm_tallied (dutyCycle period : UInt16) :
    (controller.setPwm dutyCycle period).Tallied := by
  unfold setPwm
  split
  · exact Exchange.tallied_stop _
  · exact request_tallied rfl

theorem disablePwm_tallied : controller.disablePwm.Tallied := by
  unfold disablePwm
  split
  · exact Exchange.tallied_stop _
  · exact controller.channelRequest_tallied _ rfl

theorem restartScriptAt_tallied (subroutine : UInt8) (parameter : Option Int16) :
    (restartScriptAt subroutine parameter).Tallied := by
  cases parameter with
  | none => exact request_tallied rfl
  | some value => exact request_tallied rfl

theorem firmwareVersion_tallied : firmwareVersion.Tallied :=
  (Exchange.tallied_receiving rfl _).bind fun _ => Exchange.tallied_liftM_protocol _

/-- Every command but the restoring of defaults counts all that it transfers. -/
theorem perform_tallied {command : Command} (other : command ≠ .restoreDefaults) :
    (controller.perform command).Tallied := by
  cases command with
  | setRawParameter parameter value => exact (setRawParameter_tallied parameter value).map _
  | getRawParameter parameter => exact (getRawParameter_tallied parameter).map _
  | applySettings settings upload =>
      exact (controller.applySettings_tallied settings upload).map _
  | readSettings => exact controller.readSettings_tallied.map _
  | readStatus kind => exact (controller.readStatus_tallied kind).map _
  | setTarget channel target => exact (controller.channelRequest_tallied channel rfl).map _
  | setSpeed channel speed => exact (controller.channelRequest_tallied channel rfl).map _
  | setAcceleration channel acceleration =>
      exact (controller.channelRequest_tallied channel rfl).map _
  | eraseScript => exact (request_tallied rfl).map _
  | uploadScript program withChecksum =>
      exact (controller.uploadScript_tallied program withChecksum).map _
  | restartScriptAt subroutine parameter =>
      exact (restartScriptAt_tallied subroutine parameter).map _
  | restartScript => exact (request_tallied rfl).map _
  | setScriptState state => exact (request_tallied rfl).map _
  | clearErrors => exact (request_tallied rfl).map _
  | startBootloader => exact (request_tallied rfl).map _
  | setPwm dutyCycle period => exact (controller.setPwm_tallied dutyCycle period).map _
  | disablePwm => exact controller.disablePwm_tallied.map _
  | reload => exact (controller.reloadFor_tallied _).map _
  | restoreDefaults => exact absurd rfl other
  | firmwareVersion => exact firmwareVersion_tallied.map _

/-- The write that marks the settings as uninitialized. -/
def defaultsMark : Setup :=
  Request.setParameter.setup 0xFF (0x0100 + Parameter.initialized.id.toUInt16)

theorem restoreDefaults_eq :
    controller.restoreDefaults =
      .send defaultsMark [] none (controller.reloadFor controller.delays.restoreDefaults) :=
  rfl

end Controller

/-! ## Runs -/

namespace Session

variable {δ : Type} [LoggingDevice δ]

/-- The session with other counters, or with none. -/
def withCounters (session : Session δ) (counters : Option Counters) : Session δ :=
  { session with line := { session.line with counters } }

/-- Whether a command restores the defaults and its mark is transferred. -/
def marksDefaults (session : Session δ) (command : Command) : Bool :=
  command == .restoreDefaults &&
    (Transport.send Controller.defaultsMark [] session.line.device).1.isOk

/-- The number of commands in a run that mark the settings as uninitialized. -/
def defaultsMarks (session : Session δ) : List (Step δ) → Nat
  | [] => 0
  | step :: rest =>
      ((session.prepared step.prepare).marksDefaults step.command).toNat +
        (session.advance step).2.defaultsMarks rest

/-- One command. -/
theorem perform_counts
    (session : Session δ) (command : Command) {counters : Counters}
    (counting : session.line.counters = some counters) :
    session.line.Counts (session.perform command).2.line
      (session.marksDefaults command).toNat := by
  rw [perform_eq]
  by_cases other : command = .restoreDefaults
  · subst other
    have marks : session.marksDefaults .restoreDefaults =
        (Transport.send Controller.defaultsMark [] session.line.device).1.isOk := rfl
    change session.line.Counts ((_ <$> session.controller.restoreDefaults).run session.line).2 _
    rw [Exchange.run_map, Controller.restoreDefaults_eq, marks]
    rcases LoggingDevice.send_logged Controller.defaultsMark [] session.line.device with
      ⟨_, completed, logged⟩ | ⟨⟨cause, failed⟩, unlogged⟩
    · rw [Exchange.run_send_of_ok (Prod.ext completed rfl), completed]
      have counted : session.line.counters.map (·.sent none) = some (counters.sent none) := by
        rw [counting]
        rfl
      have mark : session.line.Counts { session.line with
          device := (Transport.send Controller.defaultsMark [] session.line.device).2
          counters := session.line.counters.map (·.sent none) } 1 :=
        ⟨counters, _, _, counting, counted, logged, counters.tracks_exempt rfl []⟩
      exact mark.trans ((session.controller.reloadFor_tallied _).run_counts counted)
    · rw [Exchange.run_send_of_error (Prod.ext failed rfl), failed]
      exact Exchange.Line.counts_of_unlogged counting unlogged
  · have unmarked : session.marksDefaults command = false := by
      unfold marksDefaults
      rw [beq_eq_false_iff_ne.mpr other, Bool.false_and]
    rw [unmarked]
    exact (session.controller.perform_tallied other).run_counts counting

theorem runSteps_counts
    (session : Session δ) (steps : List (Step δ)) {counters : Counters}
    (counting : session.line.counters = some counters) :
    session.line.Counts (session.runSteps steps).2.line (session.defaultsMarks steps) := by
  induction steps generalizing session counters with
  | nil =>
      exact Exchange.Line.counts_of_unlogged counting rfl
  | cons step rest inductionHypothesis =>
      let ready := session.prepared step.prepare
      have prepared : session.line.Counts ready.line 0 :=
        Exchange.Line.counts_of_unlogged counting (step.silent session.line.device)
      have performed : ready.line.Counts (session.advance step).2.line
          (ready.marksDefaults step.command).toNat :=
        ready.perform_counts step.command counting
      obtain ⟨_, counted⟩ := performed.counting
      have first := prepared.trans performed
      rw [Nat.zero_add] at first
      exact first.trans (inductionHypothesis (session.advance step).2 counted)

theorem uncounted_perform (session : Session δ) (command : Command) :
    (session.withCounters none).perform command =
      ((session.perform command).1, (session.perform command).2.withCounters none) := by
  have run := (session.controller.perform command).run_uncounted session.line
  change (((session.controller.perform command).run session.line.uncounted).1,
    { session with
      line := ((session.controller.perform command).run session.line.uncounted).2 }) = _
  rw [run]
  rfl

theorem uncounted_runSteps (session : Session δ) (steps : List (Step δ)) :
    (session.withCounters none).runSteps steps =
      ((session.runSteps steps).1, (session.runSteps steps).2.withCounters none) := by
  induction steps generalizing session with
  | nil =>
      rfl
  | cons step rest inductionHypothesis =>
      have first : (session.withCounters none).advance step =
          ((session.advance step).1, (session.advance step).2.withCounters none) :=
        (session.prepared step.prepare).uncounted_perform step.command
      rw [runSteps_cons, runSteps_cons, first]
      dsimp only
      rw [inductionHypothesis]

/-- On a device that logs its transfers, as both devices in memory do, the counters gain
exactly what the log gains, whatever is asked for and whatever fails.  A run without
counters is the same. -/
theorem counters_track_log (session : Session δ) (start : Counters) (steps : List (Step δ)) :
    let counted := session.withCounters (some start)
    let run := counted.runSteps steps
    (∃ transfers final,
      LoggingDevice.log run.2.line.device =
        LoggingDevice.log session.line.device ++ transfers ∧
      run.2.line.counters = some final ∧
      start.Tracks transfers (counted.defaultsMarks steps) final) ∧
    (session.withCounters none).runSteps steps = (run.1, run.2.withCounters none) := by
  intro counted run
  constructor
  · obtain ⟨before, transfers, final, started, ended, grown, tracks⟩ :=
      counted.runSteps_counts steps rfl
    cases started
    exact ⟨transfers, final, grown, ended, tracks⟩
  · exact counted.uncounted_runSteps steps

/-- A reply that is too short is counted, and the mark of the defaults as a transfer only. -/
example :
    let session : Session ReplayDevice :=
      { controller := { model := .micro6 }
        line := { device := { product := 0x89 }, counters := some {} }
        timeout := 500 }
    let run := session.runSteps
      [.queueing .getParameter [1] (.getRawParameter .fixedBaudRate),
        .failingAfter 2 .restoreDefaults]
    run.1 = [.error (.protocol (.shortRead .parameter 2 1)),
        .error (.transport ReplayDevice.injectedFailure)] ∧
      run.2.line.counters = some { controlOut := 1, controlIn := 1 } := by
  decide +kernel

end Session

end ServoLink
