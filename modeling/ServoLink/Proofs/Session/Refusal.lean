import ServoLink.Proofs.Device.Simulator
import ServoLink.Proofs.Session.Apply

/-!
# Refusals come before transfers

Every command checks what it was given before it asks for its first call.  After that
it can only fail with a reply of the wrong length or with a failure of the transport,
so a refusal of anything else leaves the session as it was.
-/

namespace ServoLink

/-- Neither the transport failed nor was a reply of the wrong length. -/
def Error.IsRefusal (cause : Error) : Prop :=
  (∀ failure, cause ≠ .transport failure) ∧ ¬ cause.IsShortRead

namespace Exchange

variable {α β : Type}

/-- The exchange stops at once, or nothing but a reply can make it stop. -/
def ChecksFirst (exchange : Exchange α) : Prop :=
  (∃ cause, exchange = .stop cause) ∨ exchange.Within (fun _ => True) Error.IsShortRead

namespace ChecksFirst

theorem of_within
    {exchange : Exchange α}
    (within : exchange.Within (fun _ => True) Error.IsShortRead) : exchange.ChecksFirst :=
  Or.inr within

theorem map
    (f : α → β) {exchange : Exchange α} (checksFirst : exchange.ChecksFirst) :
    (f <$> exchange).ChecksFirst := by
  rcases checksFirst with ⟨cause, rfl⟩ | within
  · exact Or.inl ⟨cause, rfl⟩
  · exact Or.inr (within_map f within)

theorem liftM_bind
    {check : Except Error α} {after : α → Exchange β}
    (accepted : ∀ result, check = .ok result →
      (after result).Within (fun _ => True) Error.IsShortRead) :
    ((liftM check : Exchange α) >>= after).ChecksFirst := by
  cases check with
  | ok result => exact Or.inr (accepted result rfl)
  | error cause => exact Or.inl ⟨cause, rfl⟩

theorem liftM_validation_bind
    {check : Except ValidationError α} {after : α → Exchange β}
    (accepted : ∀ result, check = .ok result →
      (after result).Within (fun _ => True) Error.IsShortRead) :
    ((liftM check : Exchange α) >>= after).ChecksFirst := by
  cases check with
  | ok result => exact Or.inr (accepted result rfl)
  | error cause => exact Or.inl ⟨.validation cause, rfl⟩

end ChecksFirst

end Exchange

/-! ## The commands -/

namespace Controller

variable (controller : Controller)

theorem request_within (called : Request) (value index : UInt16) :
    (request called value index).Within (fun _ => True) Error.IsShortRead :=
  Exchange.within_sending none True.intro

/-- Reading a parameter that the table knows fails for the length of the reply only. -/
theorem getRawParameter_within
    {parameter : Parameter} {range : ParameterRange}
    (known : parameter.range? = some range) :
    (getRawParameter parameter).Within (fun _ => True) Error.IsShortRead := by
  unfold getRawParameter
  rw [Parameter.range_eq_ok known, Exchange.liftM_protocol_ok, Exchange.done_bind]
  refine Exchange.within_bind (Exchange.within_receiving True.intro) fun reply => ?_
  refine Exchange.within_liftM fun cause failed => ?_
  exact ⟨_, ⟨.parameter, _, _, rfl⟩, Parameter.decode_error known failed⟩

theorem getRawParameter_checksFirst (parameter : Parameter) :
    (getRawParameter parameter).ChecksFirst := by
  cases known : parameter.range? with
  | some range =>
      exact .of_within (getRawParameter_within known)
  | none =>
      have unknown : parameter.range = .error (.unknownParameter parameter) := by
        unfold Parameter.range
        rw [known]
      refine Or.inl ⟨.protocol (.unknownParameter parameter), ?_⟩
      unfold getRawParameter
      rw [unknown]
      rfl

theorem setRawParameter_checksFirst (parameter : Parameter) (value : Int) :
    (setRawParameter parameter value).ChecksFirst :=
  .liftM_bind fun _ _ => Exchange.within_sending _ True.intro

theorem readSettings_within :
    controller.readSettings.Within (fun _ => True) Error.IsShortRead := by
  refine Exchange.within_bind (Exchange.within_mapM fun parameter member => ?_) fun _ =>
    Exchange.within_done _
  obtain ⟨range, known⟩ :=
    Model.known_of_mem_writeOrder (Model.mem_readOrder_iff.mp member)
  exact Exchange.within_bind (getRawParameter_within known) fun _ => Exchange.within_done _

theorem applySettings_checksFirst (settings : Settings) (upload : Bool) :
    (controller.applySettings settings upload).ChecksFirst := by
  by_cases accepts : controller.Accepts settings upload
  · rw [applySettings_of_accepts controller settings upload accepts]
    exact .of_within (carryOut_within accepts)
  · obtain ⟨cause, equal⟩ :=
      applySettings_of_not_accepts controller settings upload accepts
    exact Or.inl ⟨.validation cause, equal⟩

/-- A program that has an image on some model has a checksum to write. -/
theorem checksumWrite_of_build
    {program : Program} {model : Model} {image : ScriptImage}
    (built : ScriptImage.build program model = .ok image) :
    checksumWrite program = .ok (checksumAssignment program).checked := by
  have fits := ((ScriptImage.build_settles program model).eq_ok_iff.mp built).1
  exact (checksumWrite_settles program).accept fits.placed

theorem uploadScript_checksFirst (program : Program) (withChecksum : Bool) :
    (controller.uploadScript program withChecksum).ChecksFirst := by
  refine .liftM_validation_bind fun image built => ?_
  have fits :=
    ((ScriptImage.build_settles program controller.model).eq_ok_iff.mp built).1
  exact (controller.writeScript_within fits.placed image withChecksum).mono
    fun _ _ => True.intro

/-- A request about a channel, which is checked first. -/
theorem channelRequest_checksFirst
    (channel : UInt8) (called : Request) (value index : UInt16) :
    (do
      controller.model.checkChannel channel
      request called value index : Exchange Unit).ChecksFirst :=
  .liftM_validation_bind fun _ _ => request_within _ _ _

theorem setPwm_checksFirst (dutyCycle period : UInt16) :
    (controller.setPwm dutyCycle period).ChecksFirst := by
  unfold setPwm
  split
  · exact Or.inl ⟨_, rfl⟩
  · exact .of_within (request_within _ _ _)

theorem disablePwm_checksFirst : controller.disablePwm.ChecksFirst := by
  unfold disablePwm
  split
  · exact Or.inl ⟨_, rfl⟩
  · exact controller.channelRequest_checksFirst _ _ _ _

theorem reload_within (milliseconds : UInt64) :
    (controller.reloadFor milliseconds).Within (fun _ => True) Error.IsShortRead :=
  controller.reloadFor_within milliseconds True.intro fun _ _ => True.intro

theorem restoreDefaults_within :
    controller.restoreDefaults.Within (fun _ => True) Error.IsShortRead :=
  Exchange.within_bind (Exchange.within_sending none True.intro) fun _ =>
    controller.reload_within _

theorem restartScriptAt_within (subroutine : UInt8) (parameter : Option Int16) :
    (restartScriptAt subroutine parameter).Within (fun _ => True) Error.IsShortRead := by
  cases parameter with
  | none => exact request_within _ _ _
  | some value => exact request_within _ _ _

theorem firmwareVersion_within :
    firmwareVersion.Within (fun _ => True) Error.IsShortRead := by
  refine Exchange.within_bind (Exchange.within_receiving True.intro) fun descriptor => ?_
  refine Exchange.within_liftM_protocol fun cause failed => ?_
  exact ⟨cause, FirmwareVersion.decode_lengthChecked descriptor cause failed, rfl⟩

/-- Every command checks what it was given before its first call. -/
theorem perform_checksFirst (command : Command) :
    (controller.perform command).ChecksFirst := by
  cases command with
  | setRawParameter parameter value => exact (setRawParameter_checksFirst parameter value).map _
  | getRawParameter parameter => exact (getRawParameter_checksFirst parameter).map _
  | applySettings settings upload =>
      exact (controller.applySettings_checksFirst settings upload).map _
  | readSettings => exact .map _ (.of_within controller.readSettings_within)
  | readStatus kind =>
      exact .map _ (.of_within (controller.readStatus_within kind fun _ _ => True.intro))
  | setTarget channel target =>
      exact (controller.channelRequest_checksFirst channel _ _ _).map _
  | setSpeed channel speed =>
      exact (controller.channelRequest_checksFirst channel _ _ _).map _
  | setAcceleration channel acceleration =>
      exact (controller.channelRequest_checksFirst channel _ _ _).map _
  | eraseScript => exact .map _ (.of_within (request_within _ _ _))
  | uploadScript program withChecksum =>
      exact (controller.uploadScript_checksFirst program withChecksum).map _
  | restartScriptAt subroutine parameter =>
      exact .map _ (.of_within (restartScriptAt_within subroutine parameter))
  | restartScript => exact .map _ (.of_within (request_within _ _ _))
  | setScriptState state => exact .map _ (.of_within (request_within _ _ _))
  | clearErrors => exact .map _ (.of_within (request_within _ _ _))
  | startBootloader => exact .map _ (.of_within (request_within _ _ _))
  | setPwm dutyCycle period => exact (controller.setPwm_checksFirst dutyCycle period).map _
  | disablePwm => exact controller.disablePwm_checksFirst.map _
  | reload => exact .map _ (.of_within (controller.reload_within _))
  | restoreDefaults => exact .map _ (.of_within controller.restoreDefaults_within)
  | firmwareVersion => exact .map _ (.of_within firmwareVersion_within)

/-! ## What an application checks -/

variable {controller}

theorem applySettings_of_writes_error
    {settings : Settings} {cause : Error} (upload : Bool)
    (failed : (settings.reconcile controller.model).1.writes controller.model =
      .error cause) :
    controller.applySettings settings upload = .stop cause := by
  have planned : controller.plan settings upload = .error cause := by
    unfold plan
    generalize settings.reconcile controller.model = reconciled at failed
    obtain ⟨fixed, diagnostics⟩ := reconciled
    dsimp only at failed ⊢
    rw [failed]
    rfl
  rw [applySettings_eq, planned]
  rfl

theorem applySettings_of_build_error
    {settings : Settings} {writes : List ParameterWrite} {program : Program}
    {cause : ValidationError}
    (checked : (settings.reconcile controller.model).1.writes controller.model = .ok writes)
    (consistent : settings.scriptInconsistent = false)
    (present : settings.program = some program)
    (failed : ScriptImage.build program controller.model = .error cause) :
    controller.applySettings settings true = .stop (.validation cause) := by
  have script : controller.scriptToUpload (settings.reconcile controller.model).1 =
      .error cause := by
    unfold scriptToUpload
    rw [Settings.reconcile_settings]
    simp only [consistent, present, failed]
    rfl
  have planned : controller.plan settings true = .error (.validation cause) := by
    unfold plan
    generalize settings.reconcile controller.model = reconciled at checked script
    obtain ⟨fixed, diagnostics⟩ := reconciled
    dsimp only at checked script ⊢
    rw [checked, script]
    rfl
  rw [applySettings_eq, planned]
  rfl

end Controller

/-! ## Sessions -/

namespace Session

variable {δ : Type} [Transport δ]

/-- The session with a monitor on its device. -/
def monitored (session : Session δ) : Session (Monitored δ) where
  controller := session.controller
  line := { session.line with device := ⟨session.line.device, []⟩ }
  timeout := session.timeout

/-- A command that is refused has been stopped at once. -/
theorem stop_of_refusal
    {session : Session δ} {command : Command} {cause : Error}
    (failed : (session.perform command).1 = .error cause) (refusal : cause.IsRefusal) :
    session.controller.perform command = .stop cause := by
  rcases session.controller.perform_checksFirst command with ⟨found, stopped⟩ | within
  · rw [perform_of_stop stopped] at failed
    cases failed
    exact stopped
  · rcases Exchange.run_error within failed with short | ⟨failure, equal⟩
    · exact absurd short refusal.2
    · exact absurd equal (refusal.1 failure)

/-- A refusal leaves the session and its counters alone and makes no call.  The settings
and the script of an application are refused before its first write, and the checksum
of a program that has an image is never refused. -/
theorem refused_before_first_call (session : Session δ) :
    (∀ command cause, (session.perform command).1 = .error cause → cause.IsRefusal →
      (session.perform command).2 = session ∧
        (session.monitored.perform command).2.line.device.calls = []) ∧
    (∀ settings upload cause,
      (settings.reconcile session.controller.model).1.writes session.controller.model =
        .error cause →
      session.controller.applySettings settings upload = .stop cause) ∧
    (∀ settings writes program cause,
      (settings.reconcile session.controller.model).1.writes session.controller.model =
        .ok writes →
      settings.scriptInconsistent = false → settings.program = some program →
      ScriptImage.build program session.controller.model = .error cause →
      session.controller.applySettings settings true = .stop (.validation cause)) ∧
    (∀ program image, ScriptImage.build program session.controller.model = .ok image →
      ∃ write, Controller.checksumWrite program = .ok write) := by
  refine ⟨fun command cause failed refusal => ?_, ?_, ?_, ?_⟩
  · have stopped := stop_of_refusal failed refusal
    have watched : session.monitored.controller.perform command = .stop cause :=
      stopped
    rw [perform_of_stop stopped, perform_of_stop watched]
    exact ⟨rfl, rfl⟩
  · intro settings upload cause failed
    exact Controller.applySettings_of_writes_error upload failed
  · intro settings writes program cause checked consistent present failed
    exact Controller.applySettings_of_build_error checked consistent present failed
  · intro program image built
    exact ⟨_, Controller.checksumWrite_of_build built⟩

/-- A channel that is missing, a neutral position that is too high and a subroutine
without a command, each refused by a six-channel controller. -/
theorem refused_before_first_call_of_faults :
    let session := simulated .micro6
    let settings : Settings := { channels := [{ neutral := 40000 }] }
    let program : Program := { subroutineAddresses := .ofList [("spin", 3)] }
    ((session.perform (.setTarget 9 6000)).2 = session ∧
      (session.monitored.perform (.setTarget 9 6000)).2.line.device.calls = []) ∧
    session.controller.applySettings settings true =
      .stop (.validation (.outOfRange (.servo .neutral 0) 40000 0 positionMax)) ∧
    session.controller.applySettings { program := some program } true =
      .stop (.validation (.unknownSubroutine "spin")) ∧
    ∃ write, Controller.checksumWrite { checksum := 7 } = .ok write := by
  intro session settings program
  obtain ⟨untouched, ofWrites, ofScript, ofChecksum⟩ :=
    refused_before_first_call (simulated .micro6)
  have refusal : (Error.validation (.invalidChannel 9 6)).IsRefusal := by
    constructor
    · intro failure same
      cases same
    · rintro ⟨cause, _, same⟩
      cases same
  have tooHigh : (settings.reconcile .micro6).1.writes .micro6 =
      .error (.validation (.outOfRange (.servo .neutral 0) 40000 0 positionMax)) := by
    decide +kernel
  have storable :
      ((Settings.reconcile { program := some program } .micro6).1.writes .micro6).isOk = true := by
    decide +kernel
  obtain ⟨writes, written⟩ : ∃ writes,
      (Settings.reconcile { program := some program } .micro6).1.writes .micro6 = .ok writes := by
    generalize (Settings.reconcile { program := some program } .micro6).1.writes .micro6 = checked
      at storable
    cases checked with
    | ok writes => exact ⟨writes, rfl⟩
    | error cause => cases storable
  exact ⟨untouched (.setTarget 9 6000) _ rfl refusal, ofWrites settings true _ tooHigh,
    ofScript _ writes _ _ written rfl rfl rfl, ofChecksum _ _ rfl⟩

end Session

end ServoLink
