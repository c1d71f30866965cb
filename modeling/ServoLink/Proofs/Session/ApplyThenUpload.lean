import ServoLink.Proofs.Session.Refusal

/-!
# An application with an upload, in two steps

As an exchange, an application with an upload is an application without one and then an
upload of the program.  Every device therefore sees the same calls in both, and the two
leave the same session.  Without a program to upload, an application only has one more
diagnostic.
-/

namespace ServoLink

/-! ## Exchanges -/

namespace Controller

variable (controller : Controller) {settings : Settings}

/-- The program is uploaded after the settings have been written, and the diagnostics are
those of the settings. -/
def applyThenUpload (settings : Settings) (program : Program) :
    Exchange (List Diagnostic) := do
  let found ← controller.applySettings settings false
  controller.uploadScript program true
  return found

theorem uploadScript_of_build
    {program : Program} {image : ScriptImage}
    (built : ScriptImage.build program controller.model = .ok image) (withChecksum : Bool) :
    controller.uploadScript program withChecksum =
      controller.writeScript program image withChecksum := by
  unfold uploadScript
  rw [built, Exchange.liftM_validation_ok, Exchange.done_bind]

/-- What an upload adds to an application: the transfers of the script, or a diagnostic. -/
theorem applySettings_of_script
    {found : (Program × ScriptImage) ⊕ Diagnostic}
    (script : controller.scriptToUpload (settings.reconcile controller.model).1 = .ok found) :
    controller.applySettings settings true = (do
      let diagnostics ← controller.applySettings settings false
      match found with
      | .inl (program, image) =>
          controller.writeScript program image true
          return diagnostics
      | .inr diagnostic => return diagnostics ++ [diagnostic]) := by
  unfold applySettings
  generalize settings.reconcile controller.model = reconciled at script ⊢
  obtain ⟨fixed, diagnostics⟩ := reconciled
  dsimp only at script ⊢
  cases fixed.writes controller.model with
  | error cause =>
      rfl
  | ok writes =>
      rcases found with ⟨program, image⟩ | diagnostic <;>
        simp only [script, Exchange.liftM_ok, Exchange.liftM_validation_ok, Exchange.done_bind,
          Exchange.pure_eq_done, LawfulMonad.bind_assoc, if_true, Bool.false_eq_true, if_false]

/-- The script of settings is the program that they carry, if it has an image. -/
theorem scriptToUpload_of_build
    {program : Program} {image : ScriptImage}
    (consistent : settings.scriptInconsistent = false)
    (present : settings.program = some program)
    (built : ScriptImage.build program controller.model = .ok image) :
    controller.scriptToUpload (settings.reconcile controller.model).1 =
      .ok (.inl (program, image)) := by
  unfold scriptToUpload
  rw [Settings.reconcile_settings]
  simp only [consistent, present, built]
  rfl

theorem applySettings_eq_applyThenUpload
    {program : Program} {image : ScriptImage}
    (consistent : settings.scriptInconsistent = false)
    (present : settings.program = some program)
    (built : ScriptImage.build program controller.model = .ok image) :
    controller.applySettings settings true = controller.applyThenUpload settings program := by
  unfold applyThenUpload
  rw [controller.uploadScript_of_build built]
  exact controller.applySettings_of_script
    (controller.scriptToUpload_of_build consistent present built)

/-- Why the settings have no program to upload. -/
def withheld (settings : Settings) : Diagnostic :=
  if settings.scriptInconsistent then .scriptInconsistent else .scriptMissing

theorem scriptToUpload_of_withheld
    (nothing : settings.scriptInconsistent = true ∨ settings.program = none) :
    controller.scriptToUpload (settings.reconcile controller.model).1 =
      .ok (.inr (withheld settings)) := by
  unfold scriptToUpload withheld
  rw [Settings.reconcile_settings]
  by_cases inconsistent : settings.scriptInconsistent = true
  · simp only [inconsistent, if_true]
  · have missing : settings.program = none := nothing.resolve_left inconsistent
    simp only [inconsistent, missing, Bool.false_eq_true, if_false]

theorem applySettings_of_withheld
    (nothing : settings.scriptInconsistent = true ∨ settings.program = none) :
    controller.applySettings settings true =
      (fun found => found ++ [withheld settings]) <$>
        controller.applySettings settings false :=
  controller.applySettings_of_script (controller.scriptToUpload_of_withheld nothing)

end Controller

/-! ## Sessions -/

/-- The answer with one more diagnostic, if it has any. -/
def Answer.reporting (reason : Diagnostic) : Answer → Answer
  | .diagnostics found => .diagnostics (found ++ [reason])
  | other => other

namespace Session

variable {δ : Type} [Transport δ]

/-- The settings are applied without their script.  If that succeeds the program is
uploaded with its checksum, and if that succeeds too the answer is the first one. -/
def applyThenUpload (session : Session δ) (settings : Settings) (program : Program) :
    Except Error Answer × Session δ :=
  match session.perform (.applySettings settings false) with
  | (.error cause, applied) => (.error cause, applied)
  | (.ok found, applied) =>
      match applied.perform (.uploadScript program true) with
      | (.error cause, uploaded) => (.error cause, uploaded)
      | (.ok _, uploaded) => (.ok found, uploaded)

theorem applyThenUpload_eq (session : Session δ) (settings : Settings) (program : Program) :
    session.applyThenUpload settings program =
      session.carryOut
        (Answer.diagnostics <$> session.controller.applyThenUpload settings program) := by
  unfold applyThenUpload perform carryOut
  rw [Controller.perform_applySettings, Exchange.run_map, Exchange.run_map]
  unfold Controller.applyThenUpload
  rw [Exchange.run_bind]
  cases (session.controller.applySettings settings false).run session.line with
  | mk outcome applied =>
      cases outcome with
      | error cause =>
          rfl
      | ok found =>
          have upload : session.controller.perform (.uploadScript program true) =
              (fun _ => Answer.nothing) <$> session.controller.uploadScript program true :=
            rfl
          simp only [Except.map, upload]
          rw [Exchange.run_map, Exchange.run_bind]
          cases (session.controller.uploadScript program true).run applied with
          | mk outcome uploaded =>
              cases outcome with
              | error cause => rfl
              | ok _ => rfl

theorem perform_of_withheld
    (session : Session δ) {settings : Settings}
    (nothing : settings.scriptInconsistent = true ∨ settings.program = none) :
    session.perform (.applySettings settings true) =
      ((session.perform (.applySettings settings false)).1.map
          (Answer.reporting (Controller.withheld settings)),
        (session.perform (.applySettings settings false)).2) := by
  unfold perform carryOut
  rw [Controller.perform_applySettings, Controller.perform_applySettings,
    session.controller.applySettings_of_withheld nothing, Exchange.run_map, Exchange.run_map,
    Exchange.run_map]
  cases (session.controller.applySettings settings false).run session.line with
  | mk outcome applied =>
      cases outcome with
      | error cause => rfl
      | ok found => rfl

/-- An application with an upload answers as the two steps do and leaves the same session,
and makes the same calls in the same order.  Without a program to upload it is an
application without an upload, whose diagnostics are followed by the reason. -/
theorem applySettings_with_upload (session : Session δ) (settings : Settings) :
    (∀ program image,
      settings.scriptInconsistent = false → settings.program = some program →
      ScriptImage.build program session.controller.model = .ok image →
        session.perform (.applySettings settings true) =
            session.applyThenUpload settings program ∧
          (session.monitored.perform (.applySettings settings true)).2.line.device.calls =
            (session.monitored.applyThenUpload settings program).2.line.device.calls) ∧
    (settings.scriptInconsistent = true ∨ settings.program = none →
      session.perform (.applySettings settings true) =
          ((session.perform (.applySettings settings false)).1.map
              (Answer.reporting (if settings.scriptInconsistent then .scriptInconsistent
                else .scriptMissing)),
            (session.perform (.applySettings settings false)).2) ∧
        (session.monitored.perform (.applySettings settings true)).2.line.device.calls =
          (session.monitored.perform (.applySettings settings false)).2.line.device.calls) := by
  constructor
  · intro program image consistent present built
    have same := session.controller.applySettings_eq_applyThenUpload consistent present built
    constructor
    · rw [applyThenUpload_eq, ← same]
      rfl
    · have watched : session.monitored.controller.applySettings settings true =
          session.monitored.controller.applyThenUpload settings program :=
        same
      rw [applyThenUpload_eq, ← watched]
      rfl
  · intro nothing
    refine ⟨session.perform_of_withheld nothing, ?_⟩
    rw [session.monitored.perform_of_withheld nothing]

/-- A script of three bytes on a controller whose channels are all missing, and a script
without its subroutine's command that is marked as inconsistent. -/
theorem applySettings_with_upload_micro6 :
    let session := simulated .micro6
    let program : Program := { byteCode := [1, 2, 3], checksum := 9 }
    let unusable : Program := { subroutineAddresses := .ofList [("spin", 3)] }
    session.perform (.applySettings { program := some program } true) =
        session.applyThenUpload { program := some program } program ∧
      (session.perform (.applySettings { program := some program } true)).1 =
        .ok (.diagnostics [.channelsPadded 0 6]) ∧
      (session.perform (.applySettings
          { scriptInconsistent := true, program := some unusable } true)).1 =
        .ok (.diagnostics [.channelsPadded 0 6, .scriptInconsistent]) := by
  intro session program unusable
  obtain ⟨uploaded, _⟩ := applySettings_with_upload session { program := some program }
  obtain ⟨_, withheld⟩ := applySettings_with_upload session
    { scriptInconsistent := true, program := some unusable }
  refine ⟨(uploaded program _ rfl rfl rfl).1, by decide +kernel, ?_⟩
  have applied : (session.perform (.applySettings
      { scriptInconsistent := true, program := some unusable } false)).1 =
        .ok (.diagnostics [.channelsPadded 0 6]) := by
    decide +kernel
  rw [(withheld (Or.inl rfl)).1, applied]
  rfl

end Session

end ServoLink
