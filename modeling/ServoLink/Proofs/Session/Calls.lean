import ServoLink.Proofs.Exchange.Sequence
import ServoLink.Proofs.Script.Blocks
import ServoLink.Proofs.Session.RoundTrip

/-!
# The calls of each command

What a command does with a device is fixed before the first reply: `Controller.calls`
lists its calls, and `perform_follows` says that it makes them in this order.  Replies
only decide what is answered.  The one command that a reply can cut short is the reading
of settings, which gives up at the first parameter whose reply has the wrong length.
-/

namespace ServoLink

/-! ## Single calls -/

namespace Call

def request (called : Request) (value index : UInt16) : Call :=
  .send (called.setup value index) []

def write (write : ParameterWrite) : Call :=
  .send write.setup []

def block (block : ScriptBlock) : Call :=
  .send (Request.writeScript.setup 0 block.index) block.data

def status (model : Model) (kind : StatusKind) : Call :=
  .receive ((model.statusQuery kind).request.setup 0 0) (model.statusQuery kind).length

end Call

def Parameter.queryCalls (parameter : Parameter) : List Call :=
  callsAfter parameter.range fun range => [.receive parameter.query range.width]

/-! ## Commands -/

namespace Controller

def reloadCalls (model : Model) : List Call :=
  .request .reload 0 0 ::
    if model.refetchesAfterReload then [.status model .deviceVariables] else []

/-- The calls that complete an upload once all blocks are written. -/
def closingCalls (model : Model) (program : Program) (withChecksum : Bool) : List Call :=
  (if withChecksum then [.write (checksumAssignment program).checked] else []) ++
    reloadCalls model

def uploadCalls (model : Model) (program : Program) (image : ScriptImage)
    (withChecksum : Bool) : List Call :=
  .request .setScriptDone 1 0 :: .request .eraseScript 0 0 ::
    (image.blocks.map Call.block ++ closingCalls model program withChecksum)

def scriptCalls (model : Model) : Option (Program × ScriptImage) → List Call
  | some script => uploadCalls model script.1 script.2 true
  | none => []

def ApplyPlan.calls (plan : ApplyPlan) (model : Model) : List Call :=
  plan.writes.map Call.write ++ scriptCalls model plan.script

def channelCalls (model : Model) (channel : UInt8) (called : Request)
    (value index : UInt16) : List Call :=
  callsAfter (model.checkChannel channel) fun _ => [.request called value index]

def calls (controller : Controller) : Command → List Call
  | .setRawParameter parameter value =>
      callsAfter (ParameterWrite.make parameter value) fun write => [.write write]
  | .getRawParameter parameter => parameter.queryCalls
  | .applySettings settings upload =>
      callsAfter (controller.plan settings upload) fun plan => plan.calls controller.model
  | .readSettings => controller.model.readOrder.flatMap Parameter.queryCalls
  | .readStatus kind => [.status controller.model kind]
  | .setTarget channel target =>
      channelCalls controller.model channel .setTarget target channel.toUInt16
  | .setSpeed channel speed =>
      channelCalls controller.model channel .setServoVariable speed channel.toUInt16
  | .setAcceleration channel acceleration =>
      channelCalls controller.model channel .setServoVariable acceleration
        (channel.toUInt16 ||| accelerationFlag)
  | .eraseScript => [.request .eraseScript 0 0]
  | .uploadScript program withChecksum =>
      callsAfter (ScriptImage.build program controller.model) fun image =>
        uploadCalls controller.model program image withChecksum
  | .restartScriptAt subroutine none =>
      [.request .restartScriptAtSubroutine 0 subroutine.toUInt16]
  | .restartScriptAt subroutine (some value) =>
      [.request .restartScriptAtSubroutineWithParameter value.toUInt16 subroutine.toUInt16]
  | .restartScript => [.request .restartScript 0 0]
  | .setScriptState state => [.request .setScriptDone state.value 0]
  | .clearErrors => [.request .clearErrors 0 0]
  | .startBootloader => [.request .startBootloader 0 0]
  | .setPwm dutyCycle period =>
      if controller.model.isCompact then [] else [.request .setPwm dutyCycle period]
  | .disablePwm =>
      if controller.model.isCompact then []
      else
        channelCalls controller.model (pwmOffChannel controller.model) .setTarget 0
          (pwmOffChannel controller.model).toUInt16
  | .reload => reloadCalls controller.model
  | .restoreDefaults =>
      .request .setParameter 0xFF (0x0100 + Parameter.initialized.id.toUInt16) ::
        reloadCalls controller.model
  | .firmwareVersion => [.receive descriptorQuery deviceDescriptorLength]

theorem checksumAssignment_value (program : Program) :
    (checksumAssignment program).checked.value = program.checksum :=
  UInt16.toNat_inj.mp (Int.ofNat_inj.mp (checksumAssignment_fits program).value)

/-! ## What holds of all calls -/

section All

variable {model : Model} {holds : Call → Prop}

theorem forall_mem_queryCalls
    {parameter : Parameter}
    (asked : ∀ range, parameter.range = .ok range →
      holds (.receive parameter.query range.width)) :
    ∀ call ∈ parameter.queryCalls, holds call := by
  apply forall_mem_callsAfter
  intro range known
  exact List.forall_mem_singleton.mpr (asked range known)

theorem forall_mem_channelCalls
    {channel : UInt8} {called : Request} {value index : UInt16}
    (sent : channel.toNat < model.channelCount → holds (.request called value index)) :
    ∀ call ∈ channelCalls model channel called value index, holds call := by
  apply forall_mem_callsAfter
  intro _ known
  by_cases inside : channel.toNat < model.channelCount
  · exact List.forall_mem_singleton.mpr (sent inside)
  · simp [Model.checkChannel, inside] at known

theorem forall_mem_reloadCalls
    (sent : holds (.request .reload 0 0)) (fetched : holds (.status model .deviceVariables)) :
    ∀ call ∈ reloadCalls model, holds call := by
  rw [reloadCalls, List.forall_mem_cons]
  refine ⟨sent, ?_⟩
  split
  · exact List.forall_mem_singleton.mpr fetched
  · exact List.forall_mem_nil _

theorem forall_mem_closingCalls
    {program : Program} {withChecksum : Bool}
    (checksum : holds (.write (checksumAssignment program).checked))
    (reloaded : ∀ call ∈ reloadCalls model, holds call) :
    ∀ call ∈ closingCalls model program withChecksum, holds call := by
  rw [closingCalls, List.forall_mem_append]
  refine ⟨?_, reloaded⟩
  split
  · exact List.forall_mem_singleton.mpr checksum
  · exact List.forall_mem_nil _

end All

/-! ## Following them -/

variable {cut : Prop} (controller : Controller)

theorem request_follows (called : Request) (value index : UInt16) :
    (request called value index).Follows cut [.request called value index] :=
  Exchange.follows_sending _ _ _

theorem getRawParameter_follows (parameter : Parameter) :
    (getRawParameter parameter).Follows cut parameter.queryCalls := by
  unfold getRawParameter
  apply Exchange.follows_liftM_protocol_bind
  intro range _
  apply Exchange.follows_receiving_bind
  intro reply
  exact Exchange.follows_liftM _

theorem setRawParameter_follows (parameter : Parameter) (value : Int) :
    (setRawParameter parameter value).Follows cut
      (callsAfter (ParameterWrite.make parameter value) fun write => [.write write]) := by
  apply Exchange.follows_liftM_bind
  intro write _
  exact Exchange.follows_sending _ _ _

theorem readStatus_follows (kind : StatusKind) :
    (controller.readStatus kind).Follows cut [.status controller.model kind] := by
  unfold readStatus
  apply Exchange.follows_receiving_bind
  intro reply
  split
  · exact Exchange.follows_stop _
  · exact Exchange.follows_liftM_protocol _

theorem reloadFor_follows (milliseconds : UInt64) :
    (controller.reloadFor milliseconds).Follows cut (reloadCalls controller.model) := by
  unfold reloadFor request reloadCalls
  apply Exchange.follows_sending_bind
  split
  · have fetched : (discard (controller.readStatus .deviceVariables)).Follows cut
        [.status controller.model .deviceVariables] :=
      (controller.readStatus_follows .deviceVariables).map fun _ => ()
    exact fetched.bind_quiet fun _ => Exchange.follows_settling milliseconds
  · exact Exchange.follows_settling milliseconds

theorem writeScript_follows
    {program : Program} (placed : program.AllPlaced) (image : ScriptImage)
    (withChecksum : Bool) :
    (controller.writeScript program image withChecksum).Follows cut
      (uploadCalls controller.model program image withChecksum) := by
  have reloaded : (controller.reloadFor controller.delays.scriptUpload).Follows cut
      (reloadCalls controller.model) :=
    controller.reloadFor_follows controller.delays.scriptUpload
  unfold writeScript
  cases withChecksum with
  | false =>
      apply Exchange.follows_sending_bind
      apply Exchange.follows_sending_bind
      exact Exchange.follows_forM_bind reloaded image.blocks
  | true =>
      rw [if_pos rfl, (checksumWrite_settles program).accept placed]
      apply Exchange.follows_sending_bind
      apply Exchange.follows_sending_bind
      apply Exchange.follows_forM_bind _ image.blocks
      exact Exchange.follows_sending_bind _ reloaded

theorem uploadScript_follows (program : Program) (withChecksum : Bool) :
    (controller.uploadScript program withChecksum).Follows cut
      (callsAfter (ScriptImage.build program controller.model) fun image =>
        uploadCalls controller.model program image withChecksum) := by
  apply Exchange.follows_liftM_validation_bind
  intro image built
  have fits := ((ScriptImage.build_settles program controller.model).eq_ok_iff.mp built).1
  exact controller.writeScript_follows fits.placed image withChecksum

theorem planned_script (settings : Settings) (upload : Bool) :
    (controller.planned settings upload).script = (settings.scriptFor upload).map fun program =>
      (program, .layout program controller.model) :=
  rfl

theorem applySettings_follows (settings : Settings) (upload : Bool) :
    (controller.applySettings settings upload).Follows cut
      (callsAfter (controller.plan settings upload) fun plan =>
        plan.calls controller.model) := by
  rw [applySettings_eq]
  apply Exchange.follows_liftM_bind
  intro plan made
  obtain ⟨accepts, rfl⟩ := (controller.plan_settles settings upload).eq_ok_iff.mp made
  have script : ((controller.planned settings upload).uploading controller).Follows cut
      (scriptCalls controller.model (controller.planned settings upload).script) := by
    rw [ApplyPlan.uploading, planned_script]
    cases found : settings.scriptFor upload with
    | none => exact Exchange.follows_done ()
    | some program =>
        exact controller.writeScript_follows (accepts.script program found).placed _ true
  apply Exchange.follows_forM_bind
  exact script.map _

theorem calls_of_accepts
    {settings : Settings} {upload : Bool} (accepts : controller.Accepts settings upload) :
    controller.calls (.applySettings settings upload) =
      (controller.planned settings upload).writes.map Call.write ++
        scriptCalls controller.model (controller.planned settings upload).script := by
  change callsAfter (controller.plan settings upload) _ = _
  rw [(controller.plan_settles settings upload).accept accepts]
  rfl

theorem calls_of_not_accepts
    {settings : Settings} {upload : Bool} (refused : ¬ controller.Accepts settings upload) :
    controller.calls (.applySettings settings upload) = [] := by
  obtain ⟨cause, stopped, _⟩ := (controller.plan_settles settings upload).refuse refused
  change callsAfter (controller.plan settings upload) _ = _
  rw [stopped]
  rfl

/-- An application is refused, writes parameters, or writes parameters and then uploads
the program of its settings. -/
theorem calls_applySettings (settings : Settings) (upload : Bool) :
    controller.calls (.applySettings settings upload) = [] ∨
      ∃ writes : List ParameterWrite, (∀ write ∈ writes, write.Checked) ∧
        (controller.calls (.applySettings settings upload) = writes.map Call.write ∨
          ∃ program image, settings.program = some program ∧
            ScriptImage.build program controller.model = .ok image ∧
            controller.calls (.applySettings settings upload) =
              writes.map Call.write ++ uploadCalls controller.model program image true) := by
  by_cases accepts : controller.Accepts settings upload
  · refine Or.inr ⟨_, planned_checked accepts, ?_⟩
    rw [controller.calls_of_accepts accepts, planned_script]
    cases found : settings.scriptFor upload with
    | none =>
        left
        exact List.append_nil _
    | some program =>
        right
        have present : settings.program = some program := by
          unfold Settings.scriptFor at found
          split at found
          · exact found
          · cases found
        have built := (ScriptImage.build_settles program controller.model).accept
          (accepts.script program found)
        exact ⟨program, _, present, built, rfl⟩
  · exact Or.inl (controller.calls_of_not_accepts accepts)

theorem readSettings_follows :
    controller.readSettings.Follows True
      (controller.model.readOrder.flatMap Parameter.queryCalls) := by
  apply Exchange.Follows.map
  apply Exchange.follows_mapM
  intro parameter _
  exact (getRawParameter_follows parameter).map _

theorem channelRequest_follows
    (channel : UInt8) (called : Request) (value index : UInt16) :
    (do
      controller.model.checkChannel channel
      request called value index : Exchange Unit).Follows cut
        (channelCalls controller.model channel called value index) := by
  apply Exchange.follows_liftM_validation_bind
  intro _ _
  exact request_follows _ _ _

theorem setPwm_follows (dutyCycle period : UInt16) :
    (controller.setPwm dutyCycle period).Follows cut
      (controller.calls (.setPwm dutyCycle period)) := by
  unfold setPwm calls
  split
  · exact Exchange.follows_stop _
  · exact request_follows _ _ _

theorem disablePwm_follows :
    controller.disablePwm.Follows cut (controller.calls .disablePwm) := by
  unfold disablePwm calls
  split
  · exact Exchange.follows_stop _
  · exact controller.channelRequest_follows _ _ _ _

theorem restartScriptAt_follows (subroutine : UInt8) (parameter : Option Int16) :
    (restartScriptAt subroutine parameter).Follows cut
      (controller.calls (.restartScriptAt subroutine parameter)) := by
  cases parameter with
  | none => exact request_follows _ _ _
  | some value => exact request_follows _ _ _

theorem restoreDefaults_follows :
    controller.restoreDefaults.Follows cut (controller.calls .restoreDefaults) :=
  Exchange.follows_sending_bind _ (controller.reloadFor_follows _)

theorem firmwareVersion_follows :
    firmwareVersion.Follows cut (controller.calls .firmwareVersion) := by
  apply Exchange.follows_receiving_bind
  intro descriptor
  exact Exchange.follows_liftM_protocol _

/-- Every command makes its calls in their order, and only the reading of settings can
end at a reply before the last of them. -/
theorem perform_follows (command : Command) :
    (controller.perform command).Follows (command = .readSettings)
      (controller.calls command) := by
  cases command with
  | setRawParameter parameter value => exact (setRawParameter_follows parameter value).map _
  | getRawParameter parameter => exact (getRawParameter_follows parameter).map _
  | applySettings settings upload =>
      exact (controller.applySettings_follows settings upload).map _
  | readSettings => exact (controller.readSettings_follows.mono fun _ => rfl).map _
  | readStatus kind => exact (controller.readStatus_follows kind).map _
  | setTarget channel target =>
      exact (controller.channelRequest_follows channel _ _ _).map _
  | setSpeed channel speed =>
      exact (controller.channelRequest_follows channel _ _ _).map _
  | setAcceleration channel acceleration =>
      exact (controller.channelRequest_follows channel _ _ _).map _
  | eraseScript => exact (request_follows _ _ _).map _
  | uploadScript program withChecksum =>
      exact (controller.uploadScript_follows program withChecksum).map _
  | restartScriptAt subroutine parameter =>
      exact (controller.restartScriptAt_follows subroutine parameter).map _
  | restartScript => exact (request_follows _ _ _).map _
  | setScriptState state => exact (request_follows _ _ _).map _
  | clearErrors => exact (request_follows _ _ _).map _
  | startBootloader => exact (request_follows _ _ _).map _
  | setPwm dutyCycle period => exact (controller.setPwm_follows dutyCycle period).map _
  | disablePwm => exact controller.disablePwm_follows.map _
  | reload => exact (controller.reloadFor_follows _).map _
  | restoreDefaults => exact controller.restoreDefaults_follows.map _
  | firmwareVersion => exact controller.firmwareVersion_follows.map _

end Controller

/-! ## Runs of commands -/

namespace Session

variable {δ : Type} [Transport δ]

theorem perform_eq (session : Session δ) (command : Command) :
    session.perform command =
      (((session.controller.perform command).run session.line).1,
        { session with line := ((session.controller.perform command).run session.line).2 }) :=
  rfl

/-- Carries out some commands one after the other, whether or not they fail. -/
def performAll (session : Session δ) (commands : List Command) : Session δ :=
  commands.foldl (fun session command => (session.perform command).2) session

theorem performAll_cons (session : Session δ) (command : Command) (rest : List Command) :
    session.performAll (command :: rest) = (session.perform command).2.performAll rest :=
  rfl

end Session

end ServoLink
