import ServoLink.Proofs.Exchange.Sequence
import ServoLink.Proofs.Session.RoundTrip
import ServoLink.Proofs.Status.Coverage

/-!
# Reading a status

A session checks the length of a reply before it decodes it, and the decoder checks it
again.  Both ask for the length of the query, so a status is not read because the transfer
fails or because its reply has another length, and for no other reason.
-/

namespace ServoLink

namespace Session

variable {δ : Type} [Transport δ]

/-- The outcome of the one transfer that reads a status. -/
def statusReceived (session : Session δ) (kind : StatusKind) :
    Except TransportError (List UInt8) :=
  let query := session.controller.model.statusQuery kind
  (Transport.receive (query.request.setup 0 0) query.length session.line.device).1

section Outcome

variable (session : Session δ) (kind : StatusKind)

/-- The transfer fails, or its reply has another length, or it holds the report. -/
inductive StatusOutcome : Except Error Answer → Prop where
  | failed (failure : TransportError) (transfer : session.statusReceived kind = .error failure) :
      StatusOutcome (.error (.transport failure))
  | misfit (reply : List UInt8) (transfer : session.statusReceived kind = .ok reply)
      (wrong : reply.length ≠ (session.controller.model.statusQuery kind).length) :
      StatusOutcome (.error (.protocol (.shortRead .status
        (session.controller.model.statusQuery kind).length reply.length)))
  | decoded (reply : List UInt8) (report : StatusReport)
      (transfer : session.statusReceived kind = .ok reply)
      (holds : session.controller.model.decodeStatus kind reply = .ok report) :
      StatusOutcome (.ok (.report report))

theorem statusOutcome_readStatus :
    session.StatusOutcome kind (session.perform (.readStatus kind)).1 := by
  rw [perform_of_map rfl]
  unfold Controller.readStatus
  cases transfer : session.statusReceived kind with
  | error failure =>
      rw [Exchange.run_receiving_of_error (Prod.ext transfer rfl)]
      exact .failed failure transfer
  | ok reply =>
      rw [Exchange.run_receiving_of_ok (Prod.ext transfer rfl)]
      by_cases right : reply.length = (session.controller.model.statusQuery kind).length
      · obtain ⟨report, holds, _⟩ := Model.decodeStatus_of_length right
        rw [if_neg (not_not_intro right), holds]
        exact .decoded reply report transfer holds
      · rw [if_pos right]
        exact .misfit reply transfer right

end Outcome

/-- A status is decoded exactly if its reply has the length that the query asks for, and no
reply makes the decoder look past its end.  The report is of the kind that was asked for
and has an entry for everything of the model.  Reading a status succeeds exactly if its
transfer does with a reply of that length. -/
theorem readStatus_agrees_with_query (session : Session δ) (kind : StatusKind) :
    let model := session.controller.model
    let length := (model.statusQuery kind).length
    let received := session.statusReceived kind
    let outcome := (session.perform (.readStatus kind)).1
    (∀ buffer,
      Indexed.report model kind buffer = Indexed.answer (model.decodeStatus kind buffer) ∧
      ((∃ report, model.decodeStatus kind buffer = .ok report) ↔ buffer.length = length) ∧
      (buffer.length ≠ length → model.decodeStatus kind buffer =
        .error (.shortRead (model.statusReply kind) length buffer.length)) ∧
      ∀ report, model.decodeStatus kind buffer = .ok report →
        report.kind = kind ∧ report.Covers model) ∧
    ((∃ answer, outcome = .ok answer) ↔
      ∃ reply, received = .ok reply ∧ reply.length = length) ∧
    (∀ answer, outcome = .ok answer → ∃ reply report, received = .ok reply ∧
      model.decodeStatus kind reply = .ok report ∧ answer = .report report) ∧
    ∀ cause, outcome = .error cause →
      (∃ failure, received = .error failure ∧ cause = .transport failure) ∨
        ∃ reply, received = .ok reply ∧
          cause = .protocol (.shortRead .status length reply.length) := by
  intro model length received outcome
  refine ⟨fun buffer => ⟨Indexed.report_eq model kind buffer, Model.decodeStatus_ok_iff,
    Model.decodeStatus_of_ne, fun report => Model.report_of_decodeStatus⟩, ?_⟩
  have ended : session.StatusOutcome kind outcome := session.statusOutcome_readStatus kind
  generalize outcome = found at ended
  cases ended with
  | failed failure transfer =>
      have missing : received = .error failure := transfer
      simp [missing]
  | misfit reply transfer wrong =>
      have arrived : received = .ok reply := transfer
      have misfits : reply.length ≠ length := wrong
      refine ⟨by simp [arrived, misfits], by simp, fun cause same => ?_⟩
      cases same
      exact Or.inr ⟨reply, transfer, rfl⟩
  | decoded reply report transfer holds =>
      have arrived : received = .ok reply := transfer
      have reads : model.decodeStatus kind reply = .ok report := holds
      have fits : reply.length = length := Model.decodeStatus_ok_iff.mp ⟨report, holds⟩
      simp [arrived, fits, reads]

/-- Zeros for all six channels, and three bytes in their place. -/
theorem readStatus_agrees_with_query_micro6 :
    let session := simulated .micro6
    let silent : Session Simulator :=
      { session with line := { device := session.line.device.setReply 0x83 [1, 2, 3] } }
    (∃ answer, (session.perform (.readStatus .servos)).1 = .ok answer) ∧
      Model.decodeStatus .micro6 .servos [1, 2, 3] =
        .error (.shortRead .variablesAndServoStatus 138 3) ∧
      (silent.perform (.readStatus .servos)).1 =
        .error (.protocol (.shortRead .status 138 3)) ∧
      ((∃ failure, silent.statusReceived .servos = .error failure ∧
          Error.protocol (.shortRead .status 138 3) = .transport failure) ∨
        ∃ reply, silent.statusReceived .servos = .ok reply ∧
          Error.protocol (.shortRead .status 138 3) =
            .protocol (.shortRead .status 138 reply.length)) := by
  intro session silent
  obtain ⟨decoder, answers, _, _⟩ := readStatus_agrees_with_query session .servos
  obtain ⟨_, _, _, explains⟩ := readStatus_agrees_with_query silent .servos
  obtain ⟨_, _, refused, _⟩ := decoder [1, 2, 3]
  have failed : (silent.perform (.readStatus .servos)).1 =
      .error (.protocol (.shortRead .status 138 3)) := by
    decide +kernel
  exact ⟨answers.mpr ⟨List.replicate 138 0, rfl, rfl⟩, refused (by decide), failed,
    explains _ failed⟩

end Session

end ServoLink
