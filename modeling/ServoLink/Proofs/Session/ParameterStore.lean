import ServoLink.Proofs.Device.LastWrite
import ServoLink.Proofs.Session.Collecting
import ServoLink.Proofs.Session.Interruption
import ServoLink.Proofs.Session.Steps

/-!
# The session as a parameter store

Over a simulated controller a session is a store of parameters in which the last write
wins.  A parameter is read as the value that was last written to it, a checked write
changes this parameter only, and each of the other commands changes the few parameters and
the script memory that belong to it, or nothing.  Failures change none of this: a command
that fails has made the first of its calls.
-/

namespace ServoLink

/-! ## What commands may change -/

namespace Command

/-- The parameters that a command may write. -/
def MayWrite : Command → UInt8 → Prop
  | setRawParameter parameter _, address => address = parameter.id
  | applySettings _ _, _ => True
  | uploadScript _ withChecksum, address =>
      withChecksum = true ∧ address = Parameter.scriptCrc.id
  | restoreDefaults, address => address = Parameter.initialized.id
  | _, _ => False

/-- The commands that may erase or rewrite script memory. -/
def MayRewriteScript : Command → Prop
  | eraseScript => True
  | uploadScript _ _ => True
  | applySettings _ upload => upload = true
  | _ => False

end Command

/-- A call that does not write the parameter at an address. -/
def Call.SparesParameter (address : UInt8) : Call → Prop
  | .send setup _ =>
      setup.request = Request.setParameter.code → setup.index.toUInt8 ≠ address
  | .receive _ _ => True

theorem Call.SparesParameters.sparesParameter
    {call : Call} (spares : call.SparesParameters) (address : UInt8) :
    call.SparesParameter address := by
  cases call with
  | send setup payload => exact fun write => absurd write spares
  | receive setup length => exact True.intro

/-- A call that changes nothing beyond what its command may change. -/
structure Command.Permits (command : Command) (call : Call) : Prop where
  parameters : ∀ address, ¬ command.MayWrite address → call.SparesParameter address
  script : ¬ command.MayRewriteScript → call.SparesScript

theorem Simulator.complete_parameter
    {call : Call} {address : UInt8} (spares : call.SparesParameter address)
    (device : Simulator) :
    (device.complete call).parameters address = device.parameters address := by
  cases call with
  | receive setup length =>
      rfl
  | send setup payload =>
      by_cases write : setup.request = Request.setParameter.code
      · have elsewhere : address ≠ setup.index.toUInt8 := (spares write).symm
        have request : setup.request = 0x82 := write
        change (device.accept setup payload).parameters address = _
        unfold accept
        rw [if_pos request]
        exact if_neg elsewhere
      · have kept : (device.complete (.send setup payload)).parameters = device.parameters :=
          complete_parameters write
        rw [kept]

namespace Command

variable {command : Command}

theorem permits_of_spares
    {call : Call} (parameters : call.SparesParameters) (script : call.SparesScript) :
    command.Permits call :=
  ⟨fun address _ => parameters.sparesParameter address, fun _ => script⟩

theorem permits_request
    {called : Request}
    (plain : called ∉ [Request.setParameter, .eraseScript, .writeScript])
    (value index : UInt16) : command.Permits (.request called value index) := by
  have other {request : Request} (listed : request ∈ [Request.setParameter, .eraseScript,
      .writeScript]) : called.code ≠ request.code := by
    intro same
    rw [Request.code_injective same] at plain
    exact plain listed
  exact permits_of_spares (Call.sparesParameters_request (other (by decide)) value index)
    (Call.sparesScript_request (other (by decide)) (other (by decide)) value index)

theorem permits_write
    {write : ParameterWrite} (checked : write.Checked)
    (may : command.MayWrite write.parameter.id) : command.Permits (.write write) := by
  refine ⟨fun address mayNot _ same => mayNot ?_, fun _ => Call.sparesScript_write write⟩
  rw [← same, checked.address]
  exact may

theorem permits_of_mem_queryCalls (parameter : Parameter) :
    ∀ call ∈ parameter.queryCalls, command.Permits call := by
  have reads : ∀ call ∈ parameter.queryCalls, call.SparesParameters :=
    Controller.forall_mem_queryCalls fun _ _ => True.intro
  exact fun call member => permits_of_spares (reads call member)
    (Controller.sparesScript_of_mem_queryCalls parameter call member)

theorem permits_of_mem_reloadCalls (model : Model) :
    ∀ call ∈ Controller.reloadCalls model, command.Permits call :=
  fun call member =>
    permits_of_spares (Controller.sparesParameters_of_mem_reloadCalls model call member)
      (Controller.sparesScript_of_mem_reloadCalls model call member)

end Command

namespace Controller

theorem permits_of_mem_channelCalls
    {model : Model} {command : Command} {called : Request}
    (plain : called ∉ [Request.setParameter, .eraseScript, .writeScript])
    (channel : UInt8) (value index : UInt16) :
    ∀ call ∈ channelCalls model channel called value index, command.Permits call :=
  forall_mem_channelCalls fun _ => Command.permits_request plain value index

theorem permits_of_mem_uploadCalls
    (model : Model) (program : Program) (image : ScriptImage) (withChecksum : Bool) :
    ∀ call ∈ uploadCalls model program image withChecksum,
      (Command.uploadScript program withChecksum).Permits call := by
  let command := Command.uploadScript program withChecksum
  have scripted {call : Call} (spares : call.SparesParameters) : command.Permits call :=
    ⟨fun address _ => spares.sparesParameter address, fun mayNot => absurd True.intro mayNot⟩
  have closing : ∀ call ∈ closingCalls model program withChecksum, command.Permits call := by
    have fits := checksumAssignment_fits program
    rw [closingCalls, List.forall_mem_append]
    refine ⟨?_, Command.permits_of_mem_reloadCalls model⟩
    cases withChecksum with
    | false => exact List.forall_mem_nil _
    | true =>
        refine List.forall_mem_singleton.mpr (Command.permits_write fits.checked ⟨rfl, ?_⟩)
        rw [Assignment.parameter_checked]
        rfl
  simp only [uploadCalls, List.forall_mem_cons, List.forall_mem_append, List.forall_mem_map]
  exact ⟨scripted (Call.sparesParameters_request (by decide) 1 0),
    scripted (Call.sparesParameters_request (by decide) 0 0),
    fun block _ => scripted (Call.sparesParameters_block block), closing⟩

/-- Every call of a command stays within what the command may change. -/
theorem permits_of_mem_calls (controller : Controller) (command : Command) :
    ∀ call ∈ controller.calls command, command.Permits call := by
  have single {only : Call} (permitted : command.Permits only) :
      ∀ call ∈ [only], command.Permits call :=
    List.forall_mem_singleton.mpr permitted
  have plain {called : Request}
      (plain : called ∉ [Request.setParameter, .eraseScript, .writeScript])
      (value index : UInt16) : ∀ call ∈ [Call.request called value index],
        command.Permits call :=
    single (Command.permits_request plain value index)
  cases command with
  | setRawParameter parameter value =>
      apply forall_mem_callsAfter
      intro write made
      exact single (Command.permits_write (ParameterWrite.checked_of_make made)
        (congrArg Parameter.id (ParameterWrite.parameter_of_make made)))
  | getRawParameter parameter => exact Command.permits_of_mem_queryCalls parameter
  | applySettings settings upload =>
      cases upload with
      | true =>
          exact fun call _ =>
            ⟨fun _ mayNot => absurd True.intro mayNot, fun mayNot => absurd rfl mayNot⟩
      | false =>
          by_cases accepts : controller.Accepts settings false
          · have noScript : settings.scriptFor false = none := rfl
            rw [controller.calls_of_accepts accepts, planned_script, noScript]
            change ∀ call ∈ _ ++ [], Command.Permits _ call
            rw [List.append_nil]
            exact List.forall_mem_map.mpr fun write _ =>
              ⟨fun _ mayNot => absurd True.intro mayNot, fun _ => Call.sparesScript_write write⟩
          · rw [controller.calls_of_not_accepts accepts]
            exact List.forall_mem_nil _
  | readSettings =>
      intro call member
      obtain ⟨parameter, _, inside⟩ := List.mem_flatMap.mp member
      exact Command.permits_of_mem_queryCalls parameter call inside
  | readStatus kind =>
      exact single (Command.permits_of_spares True.intro (Call.sparesScript_status _ kind))
  | setTarget channel target => exact permits_of_mem_channelCalls (by decide) _ _ _
  | setSpeed channel speed => exact permits_of_mem_channelCalls (by decide) _ _ _
  | setAcceleration channel acceleration =>
      exact permits_of_mem_channelCalls (by decide) _ _ _
  | eraseScript =>
      exact single ⟨fun _ _ write => absurd write (by decide),
        fun mayNot => absurd True.intro mayNot⟩
  | uploadScript program withChecksum =>
      apply forall_mem_callsAfter
      intro image _
      exact permits_of_mem_uploadCalls controller.model program image withChecksum
  | restartScriptAt subroutine parameter =>
      cases parameter with
      | none => exact plain (by decide) _ _
      | some value => exact plain (by decide) _ _
  | restartScript => exact plain (by decide) _ _
  | setScriptState state => exact plain (by decide) _ _
  | clearErrors => exact plain (by decide) _ _
  | startBootloader => exact plain (by decide) _ _
  | setPwm dutyCycle period =>
      change ∀ call ∈ if controller.model.isCompact then [] else _, _
      split
      · exact List.forall_mem_nil _
      · exact plain (by decide) _ _
  | disablePwm =>
      change ∀ call ∈ if controller.model.isCompact then [] else _, _
      split
      · exact List.forall_mem_nil _
      · exact permits_of_mem_channelCalls (by decide) _ _ _
  | reload => exact Command.permits_of_mem_reloadCalls _
  | restoreDefaults =>
      refine List.forall_mem_cons.mpr ⟨⟨fun address mayNot _ same => ?_, fun _ => ?_⟩,
        Command.permits_of_mem_reloadCalls _⟩
      · exact mayNot same.symm
      · exact Call.sparesScript_request (by decide) (by decide) _ _
  | firmwareVersion =>
      exact single (Command.permits_of_spares True.intro ⟨by decide, by decide⟩)

end Controller

/-! ## One write -/

namespace Controller

variable {line : Exchange.Line Simulator} {parameter : Parameter} {value : Int}

theorem run_setRawParameter_of_admitted
    {range : ParameterRange} (known : parameter.range? = some range)
    (admits : range.Admits value) (working : line.device.failOn ≠ some 0x82) :
    ∃ counters, (setRawParameter parameter value).run line =
      (.ok (), { line with device := line.device.take (.admitted range value), counters }) := by
  have made := (ParameterWrite.make_settles known value).accept admits
  have sent : Transport.send (ParameterWrite.admitted range value).setup [] line.device =
      (.ok (), line.device.take (.admitted range value)) :=
    Simulator.send_of_working working []
  unfold setRawParameter
  rw [made, Exchange.liftM_ok, Exchange.done_bind]
  exact ⟨_, Exchange.run_send_of_ok sent⟩

theorem admitted_of_run_setRawParameter
    (set : ((setRawParameter parameter value).run line).1 = .ok ()) :
    (∃ range, parameter.range? = some range ∧ range.Admits value) ∧
      line.device.failOn ≠ some 0x82 := by
  unfold setRawParameter at set
  cases made : ParameterWrite.make parameter value with
  | error cause =>
      rw [made] at set
      cases set
  | ok write =>
      obtain ⟨range, known, admits, _⟩ := ParameterWrite.admitted_of_make made
      refine ⟨⟨range, known, admits⟩, fun refused => ?_⟩
      have failed : Transport.send write.setup [] line.device =
          (.error Simulator.simulatedFailure, line.device) :=
        Simulator.send_of_refused refused []
      have run : (writeParameter write).run line = (.error _, line) :=
        Exchange.run_send_of_error failed
      rw [made, Exchange.liftM_ok, Exchange.done_bind, run] at set
      cases set

end Controller

/-! ## One command -/

namespace Session

variable {session : Session Simulator} {command : Command}

/-- What each call of a command keeps, the command keeps, wherever it fails. -/
theorem perform_keeps
    (holds : Simulator → Prop)
    (each : ∀ call ∈ session.controller.calls command, ∀ device,
      holds device → holds (device.complete call))
    (start : holds session.line.device) : holds (session.perform command).2.line.device := by
  obtain ⟨made, inside, state, _⟩ :=
    (session.controller.perform_follows command).run_effects Simulator.effects session.line
  have final : (session.perform command).2.line.device =
      made.foldl Simulator.complete session.line.device := state
  rw [final]
  exact List.foldlRecOn made _ start fun device kept call member =>
    each call (inside.subset member) device kept

theorem storesLog_perform (stores : session.line.device.StoresLog) (command : Command) :
    (session.perform command).2.line.device.StoresLog :=
  perform_keeps Simulator.StoresLog (fun call member _ kept =>
    kept.complete (session.controller.wellFormed_of_mem_calls command call member)) stores

theorem parameter_perform {address : UInt8} (mayNot : ¬ command.MayWrite address) :
    (session.perform command).2.line.device.parameters address =
      session.line.device.parameters address := by
  refine perform_keeps (fun device => device.parameters address =
    session.line.device.parameters address) (fun call member device same => ?_) rfl
  have permitted := session.controller.permits_of_mem_calls command call member
  rw [Simulator.complete_parameter (permitted.parameters address mayNot), same]

theorem blocks_perform (mayNot : ¬ command.MayRewriteScript) :
    (session.perform command).2.line.device.blocks = session.line.device.blocks := by
  refine perform_keeps (fun device => device.blocks = session.line.device.blocks)
    (fun call member device same => ?_) rfl
  have permitted := session.controller.permits_of_mem_calls command call member
  rw [Simulator.complete_blocks (permitted.script mayNot), same]

/-! ## Reading -/

/-- A known parameter is read as what was last written to it, unless the read is refused. -/
theorem getRawParameter_refusing
    (stores : session.line.device.StoresLog) {parameter : Parameter} {range : ParameterRange}
    (known : parameter.range? = some range) (code : Option UInt8) :
    (session.advance (.refusing code (.getRawParameter parameter))).1 =
      if code = some Request.getParameter.code then
        .error (.transport Simulator.simulatedFailure)
      else .ok (.value (lastWritten session.line.device.log parameter.id)) := by
  let ready := session.prepared fun device => { device with failOn := code }
  have read : (session.advance (.refusing code (.getRawParameter parameter))).1 =
      ((Controller.getRawParameter parameter).run ready.line).1.map Answer.value :=
    congrArg Prod.fst (perform_of_map rfl)
  rw [read]
  split
  next refused =>
    have failed : Transport.receive parameter.query range.width ready.line.device =
        (.error Simulator.simulatedFailure, ready.line.device) :=
      Simulator.receive_of_refused refused range.width
    rw [Controller.getRawParameter_of_known known, Exchange.run_receiving_of_error failed]
    rfl
  next working =>
    obtain ⟨left, run, _⟩ : ∃ left, (Controller.getRawParameter parameter).run ready.line =
        (.ok (ready.line.device.register parameter), left) ∧ _ :=
      Controller.run_getRawParameter known working
    have stored : ready.line.device.register parameter =
        session.line.device.parameters parameter.id :=
      stores.register parameter
    rw [run, stored, stores.parameters]
    rfl

/-! ## Writing -/

/-- A value is written exactly if the parameter is known, its range admits the value and
the write is not refused. -/
theorem setRawParameter_refusing
    (session : Session Simulator) (code : Option UInt8) (parameter : Parameter) (value : Int) :
    let set := session.advance (.refusing code (.setRawParameter parameter value))
    (set.1 = .ok .nothing ↔
      (∃ range, parameter.range? = some range ∧ range.Admits value) ∧
        code ≠ some Request.setParameter.code) ∧
    (set.1 = .ok .nothing →
      ((set.2.line.device.parameters parameter.id).toNat : Int) = value) := by
  intro set
  let ready := session.prepared fun device => { device with failOn := code }
  have performed : set =
      (((Controller.setRawParameter parameter value).run ready.line).1.map
          fun _ => Answer.nothing,
        { ready with line := ((Controller.setRawParameter parameter value).run ready.line).2 }) :=
    perform_of_map rfl
  have completed (answered : set.1 = .ok .nothing) :
      ((Controller.setRawParameter parameter value).run ready.line).1 = .ok () := by
    obtain ⟨_, ran, _⟩ : ∃ result,
        ((Controller.setRawParameter parameter value).run ready.line).1 = .ok result ∧ _ :=
      ok_of_answer rfl answered
    exact ran
  have written {range : ParameterRange} (known : parameter.range? = some range)
      (admits : range.Admits value) (working : code ≠ some 0x82) :
      set.1 = .ok .nothing ∧
        set.2.line.device = ready.line.device.take (.admitted range value) := by
    obtain ⟨counters, run⟩ : ∃ counters, (Controller.setRawParameter parameter value).run
        ready.line = (.ok (), { ready.line with
          device := ready.line.device.take (.admitted range value), counters }) :=
      Controller.run_setRawParameter_of_admitted known admits working
    rw [performed, run]
    exact ⟨rfl, rfl⟩
  refine ⟨⟨fun answered => ?_, fun ⟨⟨range, known, admits⟩, working⟩ => ?_⟩, fun answered => ?_⟩
  · exact Controller.admitted_of_run_setRawParameter (completed answered)
  · exact (written known admits working).1
  · obtain ⟨⟨range, known, admits⟩, working⟩ :=
      Controller.admitted_of_run_setRawParameter (completed answered)
    have checked := ParameterWrite.checked_admitted known admits
    have named : (ParameterWrite.admitted range value).parameter = parameter :=
      (Parameter.wellFormed_of_range? known).names
    have stored : (ready.line.device.take (.admitted range value)).parameters parameter.id = _ :=
      Simulator.take_parameters checked parameter.id
    rw [named, if_pos rfl] at stored
    rw [(written known admits working).2, stored]
    exact ParameterWrite.value_admitted_toNat admits

/-! ## Runs -/

/-- A session on a new simulator of a model. -/
def onSimulator (model : Model) (config : SessionConfig) (counters : Option Counters) :
    Session Simulator where
  controller := ⟨model, config.settle⟩
  line := { device := { product := model.product }, counters }
  timeout := config.timeout

theorem bind_onSimulator (model : Model) (config : SessionConfig) :
    Session.bind ({ product := model.product } : Simulator) config =
      .ok (onSimulator model config none) := by
  cases model <;> rfl

/-- A run of commands, each on a device that refuses one request code or none. -/
def runRefusing (session : Session Simulator) (steps : List (Option UInt8 × Command)) :
    Session Simulator :=
  (session.runSteps (steps.map fun step => .refusing step.1 step.2)).2

theorem storesLog_runRefusing
    {session : Session Simulator} (stores : session.line.device.StoresLog)
    (steps : List (Option UInt8 × Command)) :
    (session.runRefusing steps).line.device.StoresLog := by
  refine runSteps_keeps (fun session : Session Simulator => session.line.device.StoresLog)
    (fun step member session stores => ?_) stores
  obtain ⟨⟨code, command⟩, _, rfl⟩ := List.mem_map.mp member
  let ready := session.prepared fun device => { device with failOn := code }
  have kept : ready.line.device.StoresLog := ⟨stores.parameters, stores.admitted⟩
  exact storesLog_perform kept command

/-- After any run from a new simulator, with any refusals, a known parameter is read as what
was last written to it, or as zero, and what was written lies in its range.  A parameter is
set exactly to a value in its range, if the write is not refused, and nothing else then
changes.  Whatever is done and however it ends, only the parameters and the script memory
change that the command may change. -/
theorem last_write_wins
    (model : Model) (config : SessionConfig) (counters : Option Counters)
    (steps : List (Option UInt8 × Command)) :
    let session := (onSimulator model config counters).runRefusing steps
    let device := session.line.device
    (∀ (parameter : Parameter) (range : ParameterRange), parameter.range? = some range →
      let value := lastWritten device.log parameter.id
      (∀ code, (session.advance (.refusing code (.getRawParameter parameter))).1 =
        if code = some Request.getParameter.code then
          .error (.transport Simulator.simulatedFailure)
        else .ok (.value value)) ∧
      (value = 0 ∨ range.Admits value.toNat)) ∧
    (∀ code parameter value,
      let set := session.advance (.refusing code (.setRawParameter parameter value))
      let after := set.2.line.device
      (set.1 = .ok .nothing ↔
        (∃ range, parameter.range? = some range ∧ range.Admits value) ∧
          code ≠ some Request.setParameter.code) ∧
      (set.1 = .ok .nothing →
        ((after.parameters parameter.id).toNat : Int) = value ∧
          (∀ address, address ≠ parameter.id →
            after.parameters address = device.parameters address) ∧
          after.blocks = device.blocks)) ∧
    ∀ code command,
      let after := (session.advance (.refusing code command)).2.line.device
      (∀ address, ¬ command.MayWrite address →
        after.parameters address = device.parameters address) ∧
      (¬ command.MayRewriteScript → after.blocks = device.blocks) := by
  intro session device
  have stores : device.StoresLog :=
    storesLog_runRefusing (Simulator.storesLog_new model.product) steps
  refine ⟨fun parameter range known => ⟨getRawParameter_refusing stores known, ?_⟩,
    fun code parameter value => ?_,
    fun code command => ⟨fun address mayNot => parameter_perform mayNot, blocks_perform⟩⟩
  · rw [← stores.parameters]
    exact stores.admitted parameter range known
  · obtain ⟨verdict, written⟩ := setRawParameter_refusing session code parameter value
    exact ⟨verdict, fun answered => ⟨written answered,
      fun address other => parameter_perform other, blocks_perform not_false⟩⟩

/-- A write, a write that is refused, and defaults that are marked but not loaded. -/
theorem last_write_wins_micro6 :
    let session := (onSimulator .micro6 {} none).runRefusing
      [(none, .setRawParameter .serialTimeout 300),
        (some 0x82, .setRawParameter .serialTimeout 7), (some 0x90, .restoreDefaults)]
    let value (parameter : Parameter) := lastWritten session.line.device.log parameter.id
    let set := session.advance (.refusing none (.setRawParameter .serialTimeout 8))
    (session.advance (.refusing none (.getRawParameter .serialTimeout))).1 =
        .ok (.value 300) ∧
      value .initialized = 255 ∧ value .enablePullups = 0 ∧
      (⟨.serialTimeout, 2, 0, 0xFFFF⟩ : ParameterRange).Admits 8 ∧
      set.1 = .ok .nothing ∧ set.2.line.device.parameters Parameter.serialTimeout.id = 8 ∧
      (session.advance (.refusing none .clearErrors)).2.line.device.blocks =
        session.line.device.blocks := by
  intro session value set
  obtain ⟨reads, sets, changes⟩ := last_write_wins .micro6 {} none
    [(none, .setRawParameter .serialTimeout 300),
      (some 0x82, .setRawParameter .serialTimeout 7), (some 0x90, .restoreDefaults)]
  have known : Parameter.serialTimeout.range? = some ⟨.serialTimeout, 2, 0, 0xFFFF⟩ := rfl
  have admits : (⟨.serialTimeout, 2, 0, 0xFFFF⟩ : ParameterRange).Admits 8 := by
    unfold ParameterRange.Admits
    decide
  have written : value .serialTimeout = 300 ∧ value .initialized = 255 ∧
      value .enablePullups = 0 := by
    decide +kernel
  have read := (reads .serialTimeout _ known).1 none
  have answered := (sets none .serialTimeout 8).1.mpr ⟨⟨_, known, admits⟩, by decide⟩
  have stored := ((sets none .serialTimeout 8).2 answered).1
  refine ⟨?_, written.2.1, written.2.2, admits, answered, ?_,
    (changes none .clearErrors).2 not_false⟩
  · rw [read, if_neg (by decide)]
    exact congrArg (fun word => Except.ok (Answer.value word)) written.1
  · exact UInt16.toNat_inj.mp (Int.ofNat_inj.mp stored)

end Session

end ServoLink
