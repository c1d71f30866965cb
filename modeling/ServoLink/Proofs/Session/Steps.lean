import ServoLink.Proofs.Device.Logging
import ServoLink.Proofs.Session.Calls

/-!
# Runs of steps

Between two commands of a run the device may be changed in any way that makes no transfer:
failures are injected or lifted, and replies are chosen.  A run keeps the outcomes of its
commands, and goes on after those that fail.
-/

namespace ServoLink

/-- A command, and what is done to the device before it. -/
structure Step (δ : Type) [LoggingDevice δ] where
  prepare : δ → δ
  silent : ∀ device, LoggingDevice.log (prepare device) = LoggingDevice.log device
  command : Command

namespace Step

/-- A command on a simulator that refuses one request code, or none. -/
def refusing (code : Option UInt8) (command : Command) : Step Simulator where
  prepare device := { device with failOn := code }
  silent _ := rfl
  command := command

/-- A command on a replay device that fails once it has logged `count` transfers. -/
def failingAfter (count : Nat) (command : Command) : Step ReplayDevice where
  prepare device := device.failingAfter count
  silent _ := rfl
  command := command

/-- A command on a replay device with one more reply. -/
def queueing (request : Request) (reply : List UInt8) (command : Command) :
    Step ReplayDevice where
  prepare device := device.queue request.code reply
  silent _ := rfl
  command := command

end Step

namespace Session

variable {δ : Type} [LoggingDevice δ]

/-- The session with a changed device. -/
def prepared (session : Session δ) (change : δ → δ) : Session δ :=
  { session with line := { session.line with device := change session.line.device } }

/-- One step: its outcome, and the session after it. -/
def advance (session : Session δ) (step : Step δ) : Except Error Answer × Session δ :=
  (session.prepared step.prepare).perform step.command

/-- Some steps, with the outcome of each. -/
def runSteps (session : Session δ) : List (Step δ) → List (Except Error Answer) × Session δ
  | [] => ([], session)
  | step :: rest =>
      let after := session.advance step
      let later := after.2.runSteps rest
      (after.1 :: later.1, later.2)

theorem runSteps_cons (session : Session δ) (step : Step δ) (rest : List (Step δ)) :
    session.runSteps (step :: rest) =
      ((session.advance step).1 :: ((session.advance step).2.runSteps rest).1,
        ((session.advance step).2.runSteps rest).2) :=
  rfl

/-- What every step keeps, a run keeps. -/
theorem runSteps_keeps
    (holds : Session δ → Prop) {steps : List (Step δ)}
    (each : ∀ step ∈ steps, ∀ session, holds session → holds (session.advance step).2)
    {session : Session δ} (start : holds session) : holds (session.runSteps steps).2 := by
  induction steps generalizing session with
  | nil =>
      exact start
  | cons step rest inductionHypothesis =>
      obtain ⟨first, others⟩ := List.forall_mem_cons.mp each
      exact inductionHypothesis others (first session start)

end Session

end ServoLink
