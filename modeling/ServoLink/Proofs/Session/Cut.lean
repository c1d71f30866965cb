import ServoLink.Proofs.Device.Replay
import ServoLink.Proofs.Session.Calls

/-!
# Commands cut by a failure

If the transfers of a replay device fail from some number on, a command makes the first
of the transfers that it would have made and answers with the failure.  For an
application of settings these transfers are listed: the writes of all settings, and those
of an upload if there is one.
-/

namespace ServoLink

/-! ## The transfers of an application -/

namespace Controller

/-- The transfers that write some bytes to this many blocks. -/
def blockTransfers (first : UInt16) (count : Nat) (bytes : List UInt8) : List Transfer :=
  (List.range count).map fun number =>
    ⟨.toDevice, Request.writeScript.setup 0 (first + UInt16.ofNat number),
      blockData bytes number⟩

/-- The script is stopped and erased.  Its table and its code are written, each in the
order of the blocks, and then its checksum, at address 22 and two bytes wide.  Extended
controllers are asked for their variables after the reload. -/
def uploadTransfers (model : Model) (program : Program) (image : ScriptImage)
    (reply : List UInt8) : List Transfer :=
  [⟨.toDevice, Request.setScriptDone.setup 1 0, []⟩,
    ⟨.toDevice, Request.eraseScript.setup 0 0, []⟩] ++
  blockTransfers model.tableBlock 16 image.table ++
  blockTransfers 0 (blockCount image.byteCode) image.byteCode ++
  [⟨.toDevice, Request.setParameter.setup program.checksum 0x0216, []⟩,
    ⟨.toDevice, Request.reload.setup 0 0, []⟩] ++
  if model.isCompact then [] else [⟨.toHost, Request.getVariables.setup 0 0, reply⟩]

/-- Nothing is transferred for settings or a program that are refused. -/
def applicationTransfers (model : Model) (settings : Settings) (upload : Bool)
    (reply : List UInt8) : List Transfer :=
  match (settings.reconcile model).1.writes model with
  | .error _ => []
  | .ok writes =>
      let written := writes.map fun write => ⟨.toDevice, write.setup, []⟩
      match settings.scriptFor upload with
      | none => written
      | some program =>
          match ScriptImage.build program model with
          | .error _ => []
          | .ok image => written ++ uploadTransfers model program image reply

/-- The calls of an upload that send something. -/
def uploadSends (program : Program) (image : ScriptImage) : List Call :=
  .request .setScriptDone 1 0 :: .request .eraseScript 0 0 ::
    (image.blocks.map Call.block ++
      [.write (checksumAssignment program).checked, .request .reload 0 0])

/-- The calls of an upload that ask for something. -/
def uploadReads (model : Model) : List Call :=
  if model.isCompact then []
  else [.receive (Request.getVariables.setup 0 0) extendedVariablesLength]

theorem uploadCalls_eq (model : Model) (program : Program) (image : ScriptImage) :
    uploadCalls model program image true = uploadSends program image ++ uploadReads model := by
  have reload : reloadCalls model = .request .reload 0 0 :: uploadReads model := by
    cases model <;> rfl
  unfold uploadCalls closingCalls uploadSends
  rw [reload, if_pos rfl]
  simp only [List.cons_append, List.append_assoc, List.nil_append]

theorem checksum_setup (program : Program) :
    (checksumAssignment program).checked.setup =
      Request.setParameter.setup program.checksum 0x0216 := by
  have range : (checksumAssignment program).checked.range = ⟨.scriptCrc, 2, 0, 0xFFFF⟩ := by
    rw [Assignment.checked_eq scriptCrc_known]
    rfl
  unfold ParameterWrite.setup ParameterWrite.parameter
  rw [checksumAssignment_value, range]
  rfl

theorem uploadSends_transfers (program : Program) (model : Model) (reply : List UInt8) :
    (uploadSends program (.layout program model)).map (Call.transfer []) ++
        (uploadReads model).map (Call.transfer reply) =
      uploadTransfers model program (.layout program model) reply := by
  have table := ScriptImage.tableBlockCount program model
  have blocks (first : UInt16) (bytes : List UInt8) :
      ((blocksFrom first bytes).map Call.block).map (Call.transfer []) =
        blockTransfers first (blockCount bytes) bytes := by
    rw [blocksFrom_eq, List.map_map, List.map_map]
    rfl
  have fetched : (uploadReads model).map (Call.transfer reply) =
      if model.isCompact then [] else [⟨.toHost, Request.getVariables.setup 0 0, reply⟩] := by
    cases model <;> rfl
  have checksum : (Call.write (checksumAssignment program).checked).transfer [] =
      ⟨.toDevice, Request.setParameter.setup program.checksum 0x0216, []⟩ := by
    rw [← checksum_setup]
    rfl
  unfold uploadSends uploadTransfers ScriptImage.blocks
  rw [fetched]
  simp only [List.map_cons, List.map_append, List.map_nil, checksum]
  unfold ScriptImage.tableBlocks ScriptImage.codeBlocks
  rw [blocks, blocks, table]
  simp only [List.cons_append, List.append_assoc, List.nil_append]
  rfl

theorem sends_of_mem_uploadSends (program : Program) (image : ScriptImage) :
    ∀ call ∈ uploadSends program image, ∃ setup payload, call = .send setup payload := by
  unfold uploadSends
  simp only [List.forall_mem_cons, List.forall_mem_append, List.forall_mem_map]
  exact ⟨⟨_, _, rfl⟩, ⟨_, _, rfl⟩, fun block _ => ⟨_, _, rfl⟩, ⟨_, _, rfl⟩, ⟨_, _, rfl⟩,
    List.forall_mem_nil _⟩

theorem log_of_uploadReads (model : Model) (device : ReplayDevice) :
    ((uploadReads model).foldl ReplayDevice.complete device).log =
      device.log ++ (uploadReads model).map (Call.transfer
        (device.nextReply (Request.getVariables.setup 0 0) extendedVariablesLength)) := by
  unfold uploadReads
  split
  · exact (List.append_nil _).symm
  · rfl

variable {controller : Controller} {settings : Settings} {upload : Bool}

theorem log_of_accepts
    (accepts : controller.Accepts settings upload) (device : ReplayDevice) :
    ((controller.calls (.applySettings settings upload)).foldl
        ReplayDevice.complete device).log =
      device.log ++ applicationTransfers controller.model settings upload
        (device.nextReply (Request.getVariables.setup 0 0) extendedVariablesLength) := by
  have writeSends : ∀ call ∈ (controller.planned settings upload).writes.map Call.write,
      ∃ setup payload, call = .send setup payload :=
    List.forall_mem_map.mpr fun write _ => ⟨_, _, rfl⟩
  have written := Settings.writes_settles (settings.reconcile_channels_length controller.model)
  have writes : (settings.reconcile controller.model).1.writes controller.model =
      .ok (controller.planned settings upload).writes :=
    written.accept accepts.storable
  unfold applicationTransfers
  rw [controller.calls_of_accepts accepts, planned_script, writes]
  cases found : settings.scriptFor upload with
  | none =>
      change ((_ ++ []).foldl ReplayDevice.complete device).log = _
      rw [List.append_nil, ReplayDevice.foldl_complete_sends device writeSends]
      dsimp only
      rw [List.map_map]
      rfl
  | some program =>
      have built := (ScriptImage.build_settles program controller.model).accept
        (accepts.script program found)
      have sends := List.forall_mem_append.mpr
        ⟨writeSends, sends_of_mem_uploadSends program (.layout program controller.model)⟩
      change ((_ ++ uploadCalls _ _ _ true).foldl ReplayDevice.complete device).log = _
      rw [uploadCalls_eq, ← List.append_assoc, List.foldl_append,
        ReplayDevice.foldl_complete_sends device sends, log_of_uploadReads]
      dsimp only
      rw [built]
      dsimp only
      rw [← uploadSends_transfers, List.map_append, List.map_map, List.append_assoc,
        List.append_assoc]
      rfl

theorem applicationTransfers_of_not_accepts
    (refused : ¬ controller.Accepts settings upload) (reply : List UInt8) :
    applicationTransfers controller.model settings upload reply = [] := by
  have written := Settings.writes_settles (settings.reconcile_channels_length controller.model)
  unfold applicationTransfers
  by_cases storable : (settings.reconcile controller.model).1.Storable controller.model
  · rw [written.accept storable]
    cases found : settings.scriptFor upload with
    | none =>
        refine absurd ⟨storable, fun program wanted => ?_⟩ refused
        rw [found] at wanted
        cases wanted
    | some program =>
        have tooLarge : ¬ program.Fits controller.model := by
          intro fits
          refine refused ⟨storable, fun other wanted => ?_⟩
          rw [found] at wanted
          cases wanted
          exact fits
        obtain ⟨cause, rejected, _⟩ :=
          (ScriptImage.build_settles program controller.model).refuse tooLarge
        dsimp only
        rw [rejected]
  · obtain ⟨cause, rejected, _⟩ := written.refuse storable
    rw [rejected]

/-- The calls of an application, once all of them have completed. -/
theorem log_of_applySettings
    (controller : Controller) (settings : Settings) (upload : Bool) (device : ReplayDevice) :
    ((controller.calls (.applySettings settings upload)).foldl
        ReplayDevice.complete device).log =
      device.log ++ applicationTransfers controller.model settings upload
        (device.nextReply (Request.getVariables.setup 0 0) extendedVariablesLength) := by
  by_cases accepts : controller.Accepts settings upload
  · exact log_of_accepts accepts device
  · rw [controller.calls_of_not_accepts accepts, applicationTransfers_of_not_accepts accepts]
    exact (List.append_nil _).symm

end Controller

/-! ## Cut sessions -/

namespace Session

/-- The session with a device that fails no transfer. -/
def unfailing (session : Session ReplayDevice) : Session ReplayDevice :=
  { session with line := session.line.limited none }

/-- The session with a device that fails once it has logged `count` transfers. -/
def failingAfter (session : Session ReplayDevice) (count : Nat) : Session ReplayDevice :=
  { session with
    line := { session.line with device := session.line.device.failingAfter count } }

/-- Without failures a command makes all of its calls, unless a reply ends a reading of
settings before. -/
theorem calls_of_unfailing (session : Session ReplayDevice) (command : Command) :
    ∃ made, made <+: session.controller.calls command ∧
      (made = session.controller.calls command ∨
        command = .readSettings ∧ ∃ cause, (session.unfailing.perform command).1 = .error cause) ∧
      (session.unfailing.perform command).2.line.device =
        made.foldl ReplayDevice.complete (session.line.device.limited none) := by
  have follows := session.controller.perform_follows command
  obtain ⟨made, inside, state, ended⟩ :=
    follows.run_effects ReplayDevice.effects session.unfailing.line
  have unlimited : (made.foldl ReplayDevice.complete
      session.unfailing.line.device).failAfter = none :=
    ReplayDevice.failAfter_foldl_complete _ made
  refine ⟨made, inside, ?_, state⟩
  change _ ∨ _ ∧ ∃ cause, ((session.controller.perform command).run
    session.unfailing.line).1 = .error cause
  generalize ((session.controller.perform command).run session.unfailing.line).1 = outcome
    at ended
  cases ended with
  | complete outcome all => exact .inl all
  | failed cause possible => exact absurd unlimited possible
  | cut cause permitted => exact .inr ⟨permitted, cause, rfl⟩

/-- Without failures the transfers of a command are those of its calls in their order, where
only a reading of settings can end with an error before the last of them.  A device that fails
after `count` more transfers takes the first `count` of these.  The command answers the same if
these are all, and reports the failure otherwise.  An application of settings makes the transfers
listed for it. -/
theorem failure_cuts_perform (session : Session ReplayDevice) :
    (∀ command, ∃ made : List Call,
      let whole := session.unfailing.perform command
      let added := session.line.device.transfers made
      made <+: session.controller.calls command ∧
        (made = session.controller.calls command ∨
          command = .readSettings ∧ ∃ cause, whole.1 = .error cause) ∧
        whole.2.line.device.log = session.line.device.log ++ added ∧
        ∀ count,
          let cut := (session.failingAfter (session.line.device.log.length + count)).perform
            command
          cut.2.line.device.log = session.line.device.log ++ added.take count ∧
            cut.1 = if added.length ≤ count then whole.1
              else .error (.transport (.usb "injected failure"))) ∧
    ∀ settings upload,
      (session.unfailing.perform (.applySettings settings upload)).2.line.device.log =
        session.line.device.log ++
          Controller.applicationTransfers session.controller.model settings upload
            (session.line.device.nextReply (Request.getVariables.setup 0 0)
              extendedVariablesLength) := by
  constructor
  · intro command
    obtain ⟨made, inside, all, state⟩ := session.calls_of_unfailing command
    obtain ⟨added, whole, cuts⟩ := (session.controller.perform command).run_cuts session.line
    have logged : (session.unfailing.perform command).2.line.device.log =
        session.line.device.log ++ session.line.device.transfers made := by
      rw [state, ReplayDevice.log_foldl_complete, ReplayDevice.transfers_limited]
      rfl
    have same : added = session.line.device.transfers made :=
      List.append_cancel_left (whole.symm.trans logged)
    subst same
    exact ⟨made, inside, all, logged, cuts⟩
  · intro settings upload
    obtain ⟨made, _, all | ⟨impossible, _⟩, state⟩ :=
      session.calls_of_unfailing (.applySettings settings upload)
    · rw [state, all]
      exact session.controller.log_of_applySettings settings upload _
    · cases impossible

end Session

end ServoLink
