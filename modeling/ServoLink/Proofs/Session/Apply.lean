import ServoLink.Proofs.Exchange
import ServoLink.Proofs.Script.Image
import ServoLink.Proofs.Settings.Reconcile
import ServoLink.Proofs.Status.Decoding
import ServoLink.Session.Command

/-!
# Planning before transferring

An application of settings first makes a plan, for which everything is checked, and
then carries it out.  The script is part of the plan: a program that has an image has a
checksum too, so no check of the upload can fail once transfers have begun.
-/

namespace ServoLink

def Error.IsShortRead (error : Error) : Prop :=
  ∃ cause : ProtocolError, cause.IsShortRead ∧ error = .protocol cause

/-- A call that writes no parameter but the script's checksum. -/
def Call.SparesSettings : Call → Prop
  | .send setup _ =>
      setup.request = Request.setParameter.code →
        setup.index.toUInt8 = Parameter.scriptCrc.id
  | .receive _ _ => True

namespace Controller

variable {asked : Call → Prop}

/-! ## The transfers of an upload -/

theorem readStatus_within
    (controller : Controller) (kind : StatusKind)
    (permitted : ∀ setup length, asked (.receive setup length)) :
    (controller.readStatus kind).Within asked Error.IsShortRead := by
  unfold readStatus
  refine Exchange.within_bind (Exchange.within_receiving (permitted _ _)) fun reply => ?_
  split
  next wrong =>
    exact ⟨_, ⟨.status, _, reply.length, rfl⟩, rfl⟩
  next right =>
    refine Exchange.within_liftM_protocol fun cause failed => ?_
    exact ⟨cause, Model.decodeStatus_lengthChecked _ _ _ cause failed, rfl⟩

theorem reloadFor_within
    (controller : Controller) (milliseconds : UInt64)
    (sent : asked (.send (Request.reload.setup 0 0) []))
    (permitted : ∀ setup length, asked (.receive setup length)) :
    (controller.reloadFor milliseconds).Within asked Error.IsShortRead := by
  unfold reloadFor request
  refine Exchange.within_bind (Exchange.within_sending none sent) fun _ => ?_
  dsimp only
  split
  next refetches =>
    refine Exchange.within_bind ?_ fun _ => Exchange.within_settling milliseconds
    rw [Exchange.discard_eq_bind]
    exact Exchange.within_bind (controller.readStatus_within _ permitted) fun _ =>
      Exchange.within_done _
  next done =>
    exact Exchange.within_settling milliseconds

def checksumAssignment (program : Program) : Assignment :=
  ⟨.scriptCrc, program.checksum.toNat⟩

theorem scriptCrc_known : Parameter.scriptCrc.range? = some ⟨.scriptCrc, 2, 0, 0xFFFF⟩ :=
  rfl

theorem checksumAssignment_fits (program : Program) : (checksumAssignment program).Fits :=
  (Assignment.fits_iff_le 2 0xFFFF scriptCrc_known _).mpr
    (Nat.le_of_lt_succ program.checksum.toNat_lt)

/-- The checksum's write needs no more than that the subroutines have their places. -/
theorem checksumWrite_settles (program : Program) :
    Settles (checksumWrite program) program.AllPlaced Error.IsValidation
      (checksumAssignment program).checked := by
  have computed : Settles
      (discard (program.computeChecksum.mapError Error.validation)) program.AllPlaced
      Error.IsValidation () :=
    program.computeChecksum_settles.validation.map fun _ => ()
  refine (computed.bind fun _ =>
    (checksumAssignment program).write_settles scriptCrc_known).congr ?_
  exact and_iff_left (checksumAssignment_fits program)

theorem spares_of_other
    (called : Request) (other : called.code ≠ Request.setParameter.code)
    (value index : UInt16) (payload : List UInt8) :
    Call.SparesSettings (.send (called.setup value index) payload) :=
  fun same => absurd same other

/-- The script is stopped and erased and its blocks are written, before what is last. -/
theorem blocksThen_within
    (blocks : List ScriptBlock) {last : Exchange Unit}
    (within : last.Within Call.SparesSettings Error.IsShortRead) :
    (do
      setScriptState .stop
      eraseScript
      writeBlocks blocks
      last).Within Call.SparesSettings Error.IsShortRead := by
  refine Exchange.within_bind (Exchange.within_sending none ?_) fun _ =>
    Exchange.within_bind (Exchange.within_sending none ?_) fun _ =>
      Exchange.within_bind (Exchange.within_forM fun _ _ =>
        Exchange.within_sending _ ?_) fun _ => within
  · exact spares_of_other .setScriptDone (by decide) _ _ _
  · exact spares_of_other .eraseScript (by decide) _ _ _
  · exact spares_of_other .writeScript (by decide) _ _ _

/-- The upload of a program that has been laid out writes no parameter of the settings
and is not refused. -/
theorem writeScript_within
    (controller : Controller) {program : Program} (placed : program.AllPlaced)
    (image : ScriptImage) (withChecksum : Bool) :
    (controller.writeScript program image withChecksum).Within Call.SparesSettings
      Error.IsShortRead := by
  have reloaded : (controller.reloadFor controller.delays.scriptUpload).Within
      Call.SparesSettings Error.IsShortRead :=
    controller.reloadFor_within _ (spares_of_other .reload (by decide) 0 0 [])
      fun _ _ => True.intro
  unfold writeScript
  cases withChecksum with
  | false =>
      exact blocksThen_within _ reloaded
  | true =>
      have fits := checksumAssignment_fits program
      have address : (checksumAssignment program).checked.setup.index.toUInt8 =
          Parameter.scriptCrc.id := by
        rw [fits.checked.address, Assignment.parameter_checked]
        rfl
      rw [if_pos rfl, (checksumWrite_settles program).accept placed]
      refine blocksThen_within _ (Exchange.within_bind ?_ fun _ => reloaded)
      exact Exchange.within_sending _ fun _ => address

/-! ## Plans -/

/-- What an application of settings knows before its first transfer. -/
structure ApplyPlan where
  writes : List ParameterWrite
  script : Option (Program × ScriptImage)
  diagnostics : List Diagnostic

def plan (controller : Controller) (settings : Settings) (upload : Bool) :
    Except Error ApplyPlan := do
  let (settings, diagnostics) := settings.reconcile controller.model
  let writes ← settings.writes controller.model
  if upload then
    match ← (controller.scriptToUpload settings).mapError Error.validation with
    | .inl script => return ⟨writes, some script, diagnostics⟩
    | .inr diagnostic => return ⟨writes, none, diagnostics ++ [diagnostic]⟩
  else
    return ⟨writes, none, diagnostics⟩

/-- The upload that belongs to a plan, if any does. -/
def ApplyPlan.uploading (plan : ApplyPlan) (controller : Controller) : Exchange Unit :=
  match plan.script with
  | some script => controller.writeScript script.1 script.2 true
  | none => .done ()

def ApplyPlan.carryOut (plan : ApplyPlan) (controller : Controller) :
    Exchange (List Diagnostic) := do
  plan.writes.forM writeParameter
  plan.uploading controller
  return plan.diagnostics

/-- An application makes its plan and then carries it out. -/
theorem applySettings_eq (controller : Controller) (settings : Settings) (upload : Bool) :
    controller.applySettings settings upload =
      liftM (controller.plan settings upload) >>= fun plan => plan.carryOut controller := by
  unfold applySettings plan
  generalize settings.reconcile controller.model = reconciled
  obtain ⟨settings, diagnostics⟩ := reconciled
  dsimp only
  cases settings.writes controller.model with
  | error cause =>
      rfl
  | ok writes =>
      cases upload with
      | false =>
          rfl
      | true =>
          cases controller.scriptToUpload settings with
          | error cause =>
              rfl
          | ok found =>
              cases found with
              | inl script => rfl
              | inr diagnostic => rfl

end Controller

/-! ## The verdict on a plan -/

/-- The program that an application of settings uploads. -/
def Settings.scriptFor (settings : Settings) (upload : Bool) : Option Program :=
  if upload && !settings.scriptInconsistent then settings.program else none

/-- Why no program is uploaded although that was asked for. -/
def Settings.uploadDiagnostics (settings : Settings) (upload : Bool) : List Diagnostic :=
  if !upload then []
  else if settings.scriptInconsistent then [.scriptInconsistent]
  else if settings.program.isNone then [.scriptMissing]
  else []

namespace Controller

/-- Every register admits its reconciled value, and the script to upload fits. -/
structure Accepts (controller : Controller) (settings : Settings) (upload : Bool) : Prop where
  storable : (settings.reconcile controller.model).1.Storable controller.model
  script : ∀ program ∈ settings.scriptFor upload, program.Fits controller.model

/-- The plan for settings that are accepted. -/
def planned (controller : Controller) (settings : Settings) (upload : Bool) : ApplyPlan where
  writes := ((settings.reconcile controller.model).1.assignments controller.model).map
    Assignment.checked
  script := (settings.scriptFor upload).map fun program =>
    (program, .layout program controller.model)
  diagnostics :=
    (settings.reconcile controller.model).2 ++ settings.uploadDiagnostics upload

variable (controller : Controller) (settings : Settings) (upload : Bool)

theorem plan_settles :
    Settles (controller.plan settings upload) (controller.Accepts settings upload)
      Error.IsValidation (controller.planned settings upload) := by
  have accepts : controller.Accepts settings upload ↔
      (settings.reconcile controller.model).1.Storable controller.model ∧
        ∀ program ∈ settings.scriptFor upload, program.Fits controller.model :=
    ⟨fun both => ⟨both.storable, both.script⟩, fun both => ⟨both.1, both.2⟩⟩
  have writes := Settings.writes_settles
    (settings.reconcile_channels_length controller.model)
  have inconsistent : (settings.reconcile controller.model).1.scriptInconsistent =
      settings.scriptInconsistent := by
    rw [Settings.reconcile_settings]
  have program : (settings.reconcile controller.model).1.program = settings.program := by
    rw [Settings.reconcile_settings]
  refine Settles.congr ?_ accepts.symm
  unfold plan planned scriptToUpload Settings.scriptFor Settings.uploadDiagnostics
  generalize settings.reconcile controller.model = reconciled at writes inconsistent program ⊢
  obtain ⟨fixed, diagnostics⟩ := reconciled
  dsimp only at writes inconsistent program ⊢
  refine writes.bind fun _ => ?_
  rw [inconsistent, program]
  cases upload with
  | false =>
      simp only [Bool.false_and, Bool.false_eq_true, if_false, Bool.not_false, if_true,
        Option.map_none, List.append_nil]
      exact (Settles.pure _).congr (by simp)
  | true =>
      cases settings.scriptInconsistent with
      | true =>
          exact (Settles.pure _).congr (by simp)
      | false =>
          cases settings.program with
          | none =>
              exact (Settles.pure _).congr (by simp)
          | some program =>
              have image : Settles
                  (do
                    let image ← ScriptImage.build program controller.model
                    return .inl (program, image) :
                    Except ValidationError ((Program × ScriptImage) ⊕ Diagnostic))
                  (program.Fits controller.model ∧ True) (fun _ => True)
                  (.inl (program, .layout program controller.model)) :=
                (ScriptImage.build_settles program controller.model).bind fun _ =>
                  Settles.pure _
              simp only [if_true, Bool.not_true, Bool.false_eq_true, if_false,
                Option.isNone_some, List.append_nil]
              refine Settles.congr (image.validation.bind fun _ => Settles.pure _) ?_
              simp

/-! ## Applications -/

theorem applySettings_of_accepts (accepts : controller.Accepts settings upload) :
    controller.applySettings settings upload =
      (controller.planned settings upload).carryOut controller := by
  rw [applySettings_eq, (controller.plan_settles settings upload).accept accepts,
    Exchange.liftM_ok, Exchange.done_bind]

theorem applySettings_of_not_accepts (refused : ¬ controller.Accepts settings upload) :
    ∃ cause, controller.applySettings settings upload = .stop (.validation cause) := by
  obtain ⟨_, equal, cause, rfl⟩ := (controller.plan_settles settings upload).refuse refused
  refine ⟨cause, ?_⟩
  rw [applySettings_eq, equal, Exchange.liftM_error, Exchange.stop_bind]

variable {controller settings upload}

/-- The upload of a plan that was accepted is not refused. -/
theorem uploading_within (accepts : controller.Accepts settings upload) :
    ((controller.planned settings upload).uploading controller).Within Call.SparesSettings
      Error.IsShortRead := by
  have script : (controller.planned settings upload).script =
      (settings.scriptFor upload).map fun program =>
        (program, .layout program controller.model) :=
    rfl
  unfold ApplyPlan.uploading
  rw [script]
  cases found : settings.scriptFor upload with
  | none =>
      exact Exchange.within_done ()
  | some program =>
      exact controller.writeScript_within (accepts.script program found).placed _ true

/-- Once something has been sent, only a reply of the wrong length can be refused. -/
theorem carryOut_within (accepts : controller.Accepts settings upload) :
    ((controller.planned settings upload).carryOut controller).Within (fun _ => True)
      Error.IsShortRead := by
  unfold ApplyPlan.carryOut
  refine Exchange.within_bind ?_ fun _ => Exchange.within_bind ?_ fun _ =>
    Exchange.within_done _
  · exact Exchange.within_forM fun _ _ => Exchange.within_sending _ True.intro
  · exact (uploading_within accepts).mono fun _ _ => True.intro

end Controller

/-! ## Sessions -/

theorem Controller.perform_applySettings
    (controller : Controller) (settings : Settings) (upload : Bool) :
    controller.perform (.applySettings settings upload) =
      Answer.diagnostics <$> controller.applySettings settings upload :=
  rfl

theorem Session.perform_of_stop
    {δ : Type} [Transport δ] {session : Session δ} {command : Command} {cause : Error}
    (stopped : session.controller.perform command = .stop cause) :
    session.perform command = (.error cause, session) := by
  unfold perform carryOut
  rw [stopped]
  rfl

end ServoLink
