import ServoLink.Device.Replay
import ServoLink.Proofs.Exchange.Sequence

/-!
# Failures injected into a replay device

A replay device can be told to fail every transfer after some number of them.  Such a
limit cuts a run to the first transfers of the run without it: no transfer is repeated,
left out or moved, none follows the failure, and the failure is what the run ends with.
-/

namespace ServoLink

/-- The transfer of a call that completes, with the reply if it asks for one. -/
def Call.transfer (reply : List UInt8) : Call → Transfer
  | .send setup payload => ⟨.toDevice, setup, payload⟩
  | .receive setup _ => ⟨.toHost, setup, reply⟩

namespace ReplayDevice

/-- The device with a limit on the transfers in its log, or with none. -/
def limited (device : ReplayDevice) (limit : Option Nat) : ReplayDevice :=
  { device with failAfter := limit }

/-- What a read returns: the first reply that is queued for it, or zeros. -/
def nextReply (device : ReplayDevice) (setup : Setup) (length : Nat) : List UInt8 :=
  (device.replies setup.request).headD (List.replicate length 0)

/-- The device after a call that completes. -/
def complete (device : ReplayDevice) : Call → ReplayDevice
  | .send setup payload => device.record ⟨.toDevice, setup, payload⟩
  | .receive setup length =>
      (device.dropReply setup.request).record
        ⟨.toHost, setup, device.nextReply setup length⟩

section Transfer

variable {device : ReplayDevice} {setup : Setup}

theorem send_of_working (working : device.failsNow = false) (payload : List UInt8) :
    Transport.send setup payload device =
      (.ok (), device.complete (.send setup payload)) := by
  change send setup payload device = _
  unfold send
  rw [working]
  rfl

theorem send_of_failing (failing : device.failsNow = true) (payload : List UInt8) :
    Transport.send setup payload device = (.error injectedFailure, device) := by
  change send setup payload device = _
  unfold send
  rw [failing]
  rfl

theorem dropReply_of_empty (empty : device.replies setup.request = []) :
    device.dropReply setup.request = device := by
  unfold dropReply
  congr 1
  funext code
  by_cases same : code = setup.request
  · rw [if_pos same, same, empty]
    rfl
  · rw [if_neg same]

theorem receive_of_working (working : device.failsNow = false) (length : Nat) :
    Transport.receive setup length device =
      (.ok (device.nextReply setup length), device.complete (.receive setup length)) := by
  change receive setup length device =
    (.ok (device.nextReply setup length), (device.dropReply setup.request).record
      ⟨.toHost, setup, device.nextReply setup length⟩)
  have next : device.nextReply setup length =
      (device.replies setup.request).headD (List.replicate length 0) := rfl
  rw [next]
  unfold receive
  rw [working]
  cases queued : device.replies setup.request with
  | nil =>
      rw [dropReply_of_empty queued]
      rfl
  | cons reply rest =>
      rfl

theorem receive_of_failing (failing : device.failsNow = true) (length : Nat) :
    Transport.receive setup length device = (.error injectedFailure, device) := by
  change receive setup length device = _
  unfold receive
  rw [failing]
  rfl

theorem failAfter_of_failing (failing : device.failsNow = true) : device.failAfter ≠ none := by
  intro unlimited
  unfold failsNow at failing
  rw [unlimited] at failing
  cases failing

theorem complete_limited (device : ReplayDevice) (limit : Option Nat) (call : Call) :
    (device.limited limit).complete call = (device.complete call).limited limit := by
  cases call <;> rfl

theorem failsNow_unlimited (device : ReplayDevice) : (device.limited none).failsNow = false :=
  rfl

theorem failsNow_at_limit (device : ReplayDevice) :
    (device.limited (some (device.log.length + 0))).failsNow = true :=
  decide_eq_true (Nat.le_refl _)

theorem failsNow_below_limit (device : ReplayDevice) (count : Nat) :
    (device.limited (some (device.log.length + (count + 1)))).failsNow = false := by
  apply decide_eq_false
  change ¬ device.log.length + (count + 1) ≤ device.log.length
  omega

theorem effects :
    Exchange.Effects (fun device : ReplayDevice => device) complete
      fun device => device.failAfter ≠ none where
  send := by
    intro setup payload device
    cases working : device.failsNow with
    | false =>
        left
        rw [send_of_working working]
        exact ⟨rfl, rfl⟩
    | true =>
        right
        rw [send_of_failing working]
        exact ⟨⟨_, rfl⟩, rfl, failAfter_of_failing working⟩
  receive := by
    intro setup length device
    cases working : device.failsNow with
    | false =>
        left
        rw [receive_of_working working]
        exact ⟨⟨_, rfl⟩, rfl⟩
    | true =>
        right
        rw [receive_of_failing working]
        exact ⟨⟨_, rfl⟩, rfl, failAfter_of_failing working⟩

end Transfer

/-! ## Several calls -/

theorem failAfter_foldl_complete (device : ReplayDevice) (calls : List Call) :
    (calls.foldl complete device).failAfter = device.failAfter := by
  induction calls generalizing device with
  | nil =>
      rfl
  | cons first rest inductionHypothesis =>
      rw [List.foldl_cons, inductionHypothesis]
      cases first <;> rfl

/-- The transfer of a call that completes. -/
def completion (device : ReplayDevice) : Call → Transfer
  | .send setup payload => ⟨.toDevice, setup, payload⟩
  | .receive setup length => ⟨.toHost, setup, device.nextReply setup length⟩

/-- The transfers of some calls that all complete, each with the reply that is next by then. -/
def transfers (device : ReplayDevice) : List Call → List Transfer
  | [] => []
  | call :: rest => device.completion call :: (device.complete call).transfers rest

theorem log_complete (device : ReplayDevice) (call : Call) :
    (device.complete call).log = device.log ++ [device.completion call] := by
  cases call <;> rfl

theorem log_foldl_complete (device : ReplayDevice) (calls : List Call) :
    (calls.foldl complete device).log = device.log ++ device.transfers calls := by
  induction calls generalizing device with
  | nil => exact (List.append_nil _).symm
  | cons first rest inductionHypothesis =>
      rw [List.foldl_cons, inductionHypothesis, log_complete, List.append_assoc]
      rfl

/-- What would be transferred does not depend on a limit. -/
theorem transfers_limited (device : ReplayDevice) (limit : Option Nat) (calls : List Call) :
    (device.limited limit).transfers calls = device.transfers calls := by
  induction calls generalizing device with
  | nil => rfl
  | cons first rest inductionHypothesis =>
      rw [transfers, complete_limited, inductionHypothesis]
      cases first <;> rfl

/-- Transfers to the device are added to the log and change nothing else. -/
theorem foldl_complete_sends
    (device : ReplayDevice) {calls : List Call}
    (sends : ∀ call ∈ calls, ∃ setup payload, call = .send setup payload) :
    calls.foldl complete device =
      { device with log := device.log ++ calls.map (Call.transfer []) } := by
  induction calls generalizing device with
  | nil =>
      rw [List.map_nil, List.append_nil]
      rfl
  | cons first rest inductionHypothesis =>
      obtain ⟨⟨setup, payload, rfl⟩, restSend⟩ := List.forall_mem_cons.mp sends
      rw [List.foldl_cons, inductionHypothesis _ restSend]
      change ({ device with log := device.log ++ [_] ++ _ } : ReplayDevice) = _
      rw [List.append_assoc]
      rfl

end ReplayDevice

/-! ## Cutting a run -/

namespace Exchange

open ReplayDevice

variable {α : Type}

/-- The line with a limit on its device's log, or with none. -/
def Line.limited (line : Line ReplayDevice) (limit : Option Nat) : Line ReplayDevice :=
  { line with device := line.device.limited limit }

/-- The transfers that a run makes without a limit, of which a limit leaves the first
ones. -/
def Cuts (exchange : Exchange α) (line : Line ReplayDevice) (added : List Transfer) : Prop :=
  (exchange.run (line.limited none)).2.device.log = line.device.log ++ added ∧
    ∀ count,
      let cut := exchange.run (line.limited (some (line.device.log.length + count)))
      cut.2.device.log = line.device.log ++ added.take count ∧
        cut.1 = if added.length ≤ count then (exchange.run (line.limited none)).1
          else .error (.transport injectedFailure)

/-- A transfer in front of a run. -/
theorem Cuts.cons
    {exchange next : Exchange α} {line after : Line ReplayDevice} {transfer : Transfer}
    {added : List Transfer}
    (logged : after.device.log = line.device.log ++ [transfer])
    (working : ∀ limit, (line.device.limited limit).failsNow = false →
      exchange.run (line.limited limit) = next.run (after.limited limit))
    (failing : ∀ limit, (line.device.limited limit).failsNow = true →
      exchange.run (line.limited limit) =
        (.error (.transport injectedFailure), line.limited limit))
    (cuts : next.Cuts after added) : exchange.Cuts line (transfer :: added) := by
  obtain ⟨whole, each⟩ := cuts
  have length : after.device.log.length = line.device.log.length + 1 := by
    rw [logged, List.length_append]
    rfl
  have free := working none line.device.failsNow_unlimited
  constructor
  · rw [free, whole, logged, List.append_assoc]
    rfl
  · intro count
    cases count with
    | zero =>
        have stopped := failing _ line.device.failsNow_at_limit
        dsimp only
        rw [stopped, List.take_zero, List.append_nil]
        exact ⟨rfl, (if_neg (Nat.not_succ_le_zero _)).symm⟩
    | succ count =>
        have step := working _ (line.device.failsNow_below_limit count)
        have shifted : line.device.log.length + (count + 1) =
            after.device.log.length + count := by
          omega
        have later := each count
        dsimp only at later ⊢
        rw [step, free, shifted, later.1, later.2, logged, List.append_assoc,
          List.take_succ_cons]
        refine ⟨rfl, ?_⟩
        simp only [List.length_cons, Nat.succ_le_succ_iff]

theorem cuts_of_quiet
    {exchange : Exchange α} {line : Line ReplayDevice} {outcome : Except Error α} {waited : Nat}
    (quiet : ∀ limit, exchange.run (line.limited limit) =
      (outcome, { line.limited limit with settled := waited })) : exchange.Cuts line [] := by
  constructor
  · rw [quiet, List.append_nil]
    rfl
  · intro count
    dsimp only
    rw [quiet, quiet, List.take_nil, List.append_nil]
    exact ⟨rfl, (if_pos (Nat.zero_le count)).symm⟩

/-- Every run is cut to its first transfers. -/
theorem run_cuts (exchange : Exchange α) (line : Line ReplayDevice) :
    ∃ added, exchange.Cuts line added := by
  induction exchange generalizing line with
  | done result =>
      exact ⟨[], cuts_of_quiet fun limit => rfl⟩
  | stop cause =>
      exact ⟨[], cuts_of_quiet fun limit => rfl⟩
  | send setup payload tally next inductionHypothesis =>
      let after : Line ReplayDevice := { line with
        device := line.device.complete (.send setup payload)
        counters := line.counters.map (·.sent tally) }
      obtain ⟨added, cuts⟩ := inductionHypothesis after
      refine ⟨_ :: added, .cons rfl (fun limit working => ?_) (fun limit failing => ?_) cuts⟩
      · rw [run_send_of_ok (send_of_working working payload), complete_limited]
        rfl
      · rw [run_send_of_error (send_of_failing failing payload)]
        rfl
  | receive setup length next inductionHypothesis =>
      let after : Line ReplayDevice := { line with
        device := line.device.complete (.receive setup length)
        counters := line.counters.map (·.received) }
      obtain ⟨added, cuts⟩ := inductionHypothesis (line.device.nextReply setup length) after
      refine ⟨_ :: added, .cons rfl (fun limit working => ?_) (fun limit failing => ?_) cuts⟩
      · rw [run_receive_of_ok (receive_of_working working length), complete_limited]
        rfl
      · rw [run_receive_of_error (receive_of_failing failing length)]
        rfl
  | settle milliseconds next inductionHypothesis =>
      obtain ⟨added, whole, each⟩ := inductionHypothesis
        { line with settled := line.settled + milliseconds.toNat }
      exact ⟨added, whole, each⟩

end Exchange

end ServoLink
