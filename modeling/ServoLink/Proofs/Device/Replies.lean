import ServoLink.Proofs.Device.Replay

/-!
# Replies in order

A replay device is given replies and limits while transfers are asked of it.  Whatever the order
of these, it answers the reads of a request code with the replies queued for that code, one after
the other, and none is lost or repeated; its log is the list of the transfers that completed; and
the limit that was set last decides alone which transfers fail.
-/

namespace ServoLink

/-- What is done to a replay device: a reply is queued, a limit is set, or a transfer is asked
for. -/
inductive ReplayOperation where
  | queue (request : UInt8) (reply : List UInt8)
  | failAfter (count : Nat)
  | call (call : Call)

namespace ReplayOperation

/-- The reply that an operation queues for a request code. -/
def queued? (code : UInt8) : ReplayOperation → Option (List UInt8)
  | queue request reply => if request = code then some reply else none
  | _ => none

/-- The limit that an operation sets. -/
def limit? : ReplayOperation → Option Nat
  | failAfter count => some count
  | _ => none

end ReplayOperation

namespace ReplayDevice

/-- Asks for a transfer, which completes or fails. -/
def attempt (device : ReplayDevice) : Call → Except TransportError Transfer × ReplayDevice
  | .send setup payload =>
      let tried := Transport.send setup payload device
      (tried.1.map fun _ => ⟨.toDevice, setup, payload⟩, tried.2)
  | .receive setup length =>
      let tried := Transport.receive setup length device
      (tried.1.map fun reply => ⟨.toHost, setup, reply⟩, tried.2)

/-- An operation with the devices before and after it, and the outcome of its transfer. -/
structure Entry where
  before : ReplayDevice
  operation : ReplayOperation
  outcome : Option (Except TransportError Transfer)
  after : ReplayDevice

namespace Entry

/-- The transfer that completed. -/
def completed? (entry : Entry) : Option Transfer :=
  entry.outcome.bind Except.toOption

/-- The bytes that a read of a request code returned while a reply was queued for it. -/
def served? (code : UInt8) (entry : Entry) : Option (List UInt8) :=
  (entry.completed?.filter fun transfer =>
    transfer.direction = .toHost ∧ transfer.setup.request = code ∧
      entry.before.replies code ≠ []).map (·.data)

end Entry

def enact (device : ReplayDevice) (operation : ReplayOperation) : Entry where
  before := device
  operation := operation
  outcome :=
    match operation with
    | .call call => some (device.attempt call).1
    | _ => none
  after :=
    match operation with
    | .queue request reply => device.queue request reply
    | .failAfter count => device.failingAfter count
    | .call call => (device.attempt call).2

/-- What happens in a sequence of operations. -/
def history (device : ReplayDevice) : List ReplayOperation → List Entry
  | [] => []
  | operation :: later =>
      device.enact operation :: (device.enact operation).after.history later

/-- The device after a sequence of operations. -/
def afterAll (device : ReplayDevice) (operations : List ReplayOperation) : ReplayDevice :=
  operations.foldl (fun current operation => (current.enact operation).after) device

/-! ## One operation -/

section Step

variable (device : ReplayDevice)

theorem attempt_of_failing (failing : device.failsNow = true) (call : Call) :
    device.attempt call = (.error injectedFailure, device) := by
  cases call with
  | send setup payload =>
      simp only [attempt, send_of_failing failing]
      rfl
  | receive setup length =>
      simp only [attempt, receive_of_failing failing]
      rfl

theorem attempt_of_working (working : device.failsNow = false) (call : Call) :
    device.attempt call = (.ok (device.completion call), device.complete call) := by
  cases call with
  | send setup payload =>
      simp only [attempt, send_of_working working]
      rfl
  | receive setup length =>
      simp only [attempt, receive_of_working working]
      rfl

theorem failAfter_complete (call : Call) :
    (device.complete call).failAfter = device.failAfter := by
  cases call <;> rfl

theorem enact_log (operation : ReplayOperation) :
    (device.enact operation).after.log =
      device.log ++ (device.enact operation).completed?.toList := by
  cases operation with
  | queue request reply => exact (List.append_nil _).symm
  | failAfter count => exact (List.append_nil _).symm
  | call call =>
      cases failing : device.failsNow with
      | true =>
          simp only [enact, Entry.completed?, attempt_of_failing device failing]
          exact (List.append_nil _).symm
      | false =>
          simp only [enact, Entry.completed?, attempt_of_working device failing]
          exact device.log_complete call

theorem enact_failAfter (operation : ReplayOperation) :
    (device.enact operation).after.failAfter = operation.limit?.or device.failAfter := by
  cases operation with
  | queue request reply => rfl
  | failAfter count => rfl
  | call call =>
      cases failing : device.failsNow with
      | true =>
          simp only [enact, attempt_of_failing device failing]
          rfl
      | false =>
          simp only [enact, attempt_of_working device failing]
          exact device.failAfter_complete call

/-- A reply is served to a read of its code only, and is then the first of those queued. -/
theorem complete_replies (call : Call) (code : UInt8) :
    (Entry.served? code ⟨device, .call call, some (.ok (device.completion call)),
        device.complete call⟩).toList ++ (device.complete call).replies code =
      device.replies code := by
  cases call with
  | send setup payload => rfl
  | receive setup length =>
      have after : (device.complete (.receive setup length)).replies code =
          if code = setup.request then (device.replies code).tail else device.replies code := rfl
      rw [after]
      by_cases same : setup.request = code
      · subst same
        cases pending : device.replies setup.request with
        | nil => simp [Entry.served?, Entry.completed?, completion, pending, Except.toOption]
        | cons reply rest =>
            simp [Entry.served?, Entry.completed?, completion, nextReply, pending,
              Except.toOption, Option.filter]
      · rw [if_neg (Ne.symm same)]
        simp [Entry.served?, Entry.completed?, completion, same, Except.toOption]

theorem enact_replies (operation : ReplayOperation) (code : UInt8) :
    ((device.enact operation).served? code).toList ++
        (device.enact operation).after.replies code =
      device.replies code ++ (operation.queued? code).toList := by
  cases operation with
  | queue request reply =>
      change (if code = request then _ else _) = _
      by_cases same : request = code
      · simp [ReplayOperation.queued?, same]
      · simp [ReplayOperation.queued?, same, Ne.symm same]
  | failAfter count => exact (List.append_nil _).symm
  | call call =>
      rw [show (ReplayOperation.call call).queued? code = none from rfl, Option.toList_none,
        List.append_nil]
      cases failing : device.failsNow with
      | true =>
          simp only [enact, attempt_of_failing device failing]
          rfl
      | false =>
          simp only [enact, attempt_of_working device failing]
          exact device.complete_replies call code

end Step

/-! ## Sequences of operations -/

section Run

variable (device : ReplayDevice) (operations : List ReplayOperation)

theorem filterMap_cons_append {α β : Type} (f : α → Option β) (first : α) (rest : List α) :
    (first :: rest).filterMap f = (f first).toList ++ rest.filterMap f := by
  cases found : f first <;> simp [found]

theorem afterAll_cons (operation : ReplayOperation) :
    device.afterAll (operation :: operations) =
      (device.enact operation).after.afterAll operations :=
  rfl

theorem afterAll_log :
    (device.afterAll operations).log =
      device.log ++ (device.history operations).filterMap Entry.completed? := by
  induction operations generalizing device with
  | nil => exact (List.append_nil _).symm
  | cons operation later inductionHypothesis =>
      rw [afterAll_cons, inductionHypothesis, enact_log, history, filterMap_cons_append,
        List.append_assoc]

theorem afterAll_failAfter :
    (device.afterAll operations).failAfter =
      (operations.filterMap ReplayOperation.limit?).getLast?.or device.failAfter := by
  induction operations generalizing device with
  | nil => rfl
  | cons operation later inductionHypothesis =>
      rw [afterAll_cons, inductionHypothesis, enact_failAfter, filterMap_cons_append]
      cases operation.limit? with
      | none => rfl
      | some count =>
          cases limits : (later.filterMap ReplayOperation.limit?).getLast? <;>
            simp [List.getLast?_cons, limits]

/-- What has been served and what is pending make up what was queued. -/
theorem history_replies (code : UInt8) :
    (device.history operations).filterMap (Entry.served? code) ++
        (device.afterAll operations).replies code =
      device.replies code ++ operations.filterMap (ReplayOperation.queued? code) := by
  induction operations generalizing device with
  | nil => exact (List.append_nil _).symm
  | cons operation later inductionHypothesis =>
      rw [afterAll_cons, history, filterMap_cons_append, filterMap_cons_append,
        List.append_assoc, inductionHypothesis, ← List.append_assoc, enact_replies,
        List.append_assoc]

end Run

/-! ## Main result -/

/-- What a transfer that completes says: what was sent, or the first reply that is pending for
its request code, or as many zeros as were asked for if none is. -/
def Completes (device : ReplayDevice) (transfer : Transfer) : Call → Prop
  | .send setup payload => transfer = ⟨.toDevice, setup, payload⟩
  | .receive setup length =>
      transfer.direction = .toHost ∧ transfer.setup = setup ∧
        ((∃ later, device.replies setup.request = transfer.data :: later) ∨
          (device.replies setup.request = [] ∧ transfer.data = List.replicate length 0))

theorem completes_completion (device : ReplayDevice) (call : Call) :
    device.Completes (device.completion call) call := by
  cases call with
  | send setup payload => rfl
  | receive setup length =>
      refine ⟨rfl, rfl, ?_⟩
      change (∃ later, _ = device.nextReply setup length :: later) ∨
        (_ ∧ device.nextReply setup length = _)
      unfold nextReply
      cases device.replies setup.request with
      | nil => exact Or.inr ⟨rfl, rfl⟩
      | cons reply later => exact Or.inl ⟨later, rfl⟩

theorem failsNow_iff (device : ReplayDevice) :
    device.failsNow = true ↔
      ∃ count, device.failAfter = some count ∧ count ≤ device.log.length := by
  unfold failsNow
  cases device.failAfter <;> simp

/-- After any operations on a new device: the replies served to each request code and those
pending for it are the ones queued for it, in their order; the log holds the transfers that
completed; and a further transfer fails, changing nothing, exactly if the last limit has been
reached, and otherwise is completed and logged. -/
theorem replies_in_order (product : UInt16) (operations : List ReplayOperation) (call : Call) :
    let start : ReplayDevice := { product }
    let device := start.afterAll operations
    let limit := (operations.filterMap ReplayOperation.limit?).getLast?
    (∀ code, (start.history operations).filterMap (Entry.served? code) ++ device.replies code =
        operations.filterMap (ReplayOperation.queued? code)) ∧
      device.log = (start.history operations).filterMap Entry.completed? ∧
      (((∃ count, limit = some count ∧ count ≤ device.log.length) ∧
          device.attempt call = (.error injectedFailure, device)) ∨
        ((∀ count, limit = some count → device.log.length < count) ∧
          ∃ transfer after, device.attempt call = (.ok transfer, after) ∧
            device.Completes transfer call ∧ after.log = device.log ++ [transfer])) := by
  intro start device limit
  have latest : device.failAfter = limit := by
    rw [start.afterAll_failAfter operations]
    exact Option.or_none
  refine ⟨start.history_replies operations, start.afterAll_log operations, ?_⟩
  cases failing : device.failsNow with
  | true =>
      refine Or.inl ⟨?_, device.attempt_of_failing failing call⟩
      rw [← latest]
      exact device.failsNow_iff.mp failing
  | false =>
      refine Or.inr ⟨fun count given => Nat.lt_of_not_le fun reached => ?_, _, _,
        device.attempt_of_working failing call, device.completes_completion call,
        device.log_complete call⟩
      have fails := device.failsNow_iff.mpr ⟨count, latest.trans given, reached⟩
      rw [failing] at fails
      cases fails

end ReplayDevice

end ServoLink
