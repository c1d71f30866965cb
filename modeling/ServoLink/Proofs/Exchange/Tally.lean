import ServoLink.Proofs.Device.Logging
import ServoLink.Proofs.Exchange.Sequence

/-!
# Counting what a run transfers

An exchange is `Tallied` if it counts every transfer to the device for what the request
is.  On a device that logs its transfers, the counters then gain what the log gains, up to
the first transfer that fails.  The counters only observe: a run without them is the same.
-/

namespace ServoLink

/-! ## Counters that track a log -/

def transfersIn (direction : Direction) (transfers : List Transfer) : Nat :=
  transfers.countP (·.direction == direction)

def transfersOf (request : Request) (transfers : List Transfer) : Nat :=
  transfers.countP (·.setup.request == request.code)

namespace Counters

/-- Counting some transfers leads from `before` to `after`, where `exempt` of the writes
of parameters are counted as transfers only. -/
structure Tracks (before : Counters) (transfers : List Transfer) (exempt : Nat)
    (after : Counters) : Prop where
  controlOut : after.controlOut = before.controlOut + transfersIn .toDevice transfers
  controlIn : after.controlIn = before.controlIn + transfersIn .toHost transfers
  scriptBlocks : after.scriptBlocks = before.scriptBlocks + transfersOf .writeScript transfers
  parameterWrites : after.parameterWrites + exempt =
    before.parameterWrites + transfersOf .setParameter transfers

theorem Tracks.refl (counters : Counters) : counters.Tracks [] 0 counters :=
  ⟨rfl, rfl, rfl, rfl⟩

theorem Tracks.append
    {before between after : Counters} {first second : List Transfer} {exempt more : Nat}
    (start : before.Tracks first exempt between) (rest : between.Tracks second more after) :
    before.Tracks (first ++ second) (exempt + more) after where
  controlOut := by
    rw [rest.controlOut, start.controlOut, Nat.add_assoc]
    exact congrArg _ List.countP_append.symm
  controlIn := by
    rw [rest.controlIn, start.controlIn, Nat.add_assoc]
    exact congrArg _ List.countP_append.symm
  scriptBlocks := by
    rw [rest.scriptBlocks, start.scriptBlocks, Nat.add_assoc]
    exact congrArg _ List.countP_append.symm
  parameterWrites := by
    have whole : transfersOf .setParameter (first ++ second) =
        transfersOf .setParameter first + transfersOf .setParameter second :=
      List.countP_append
    have firstPart := start.parameterWrites
    have secondPart := rest.parameterWrites
    omega

end Counters

/-- What a transfer counts as by its request, besides a transfer. -/
def Setup.tally? (setup : Setup) : Option Tally :=
  if setup.request = Request.setParameter.code then some .parameterWrite
  else if setup.request = Request.writeScript.code then some .scriptBlock
  else none

theorem Setup.tally?_eq_none_iff {setup : Setup} :
    setup.tally? = none ↔
      setup.request ≠ Request.setParameter.code ∧
        setup.request ≠ Request.writeScript.code := by
  unfold tally?
  split
  next write => exact iff_of_false (Option.some_ne_none _) fun other => other.1 write
  next noWrite =>
    split
    next block => exact iff_of_false (Option.some_ne_none _) fun other => other.2 block
    next noBlock => exact iff_of_true rfl ⟨noWrite, noBlock⟩

namespace Counters

variable {setup : Setup}

theorem transfersOf_singleton (request : Request) (transfer : Transfer) :
    transfersOf request [transfer] =
      if transfer.setup.request = request.code then 1 else 0 := by
  unfold transfersOf
  rw [List.countP_singleton]
  simp only [beq_iff_eq]

theorem tracks_sent (counters : Counters) (setup : Setup) (payload : List UInt8) :
    counters.Tracks [⟨.toDevice, setup, payload⟩] 0 (counters.sent setup.tally?) := by
  unfold Setup.tally?
  split
  next write =>
    refine ⟨rfl, rfl, ?_, ?_⟩ <;>
      simp [transfersOf_singleton, sent, write, Request.code]
  next noWrite =>
    split
    next block =>
      refine ⟨rfl, rfl, ?_, ?_⟩ <;>
        simp [transfersOf_singleton, sent, block, Request.code]
    next noBlock =>
      refine ⟨rfl, rfl, ?_, ?_⟩ <;>
        simp [transfersOf_singleton, sent, noWrite, noBlock]

/-- A write of a parameter that is not counted as one. -/
theorem tracks_exempt
    (counters : Counters) (write : setup.request = Request.setParameter.code)
    (payload : List UInt8) :
    counters.Tracks [⟨.toDevice, setup, payload⟩] 1 (counters.sent none) := by
  refine ⟨rfl, rfl, ?_, ?_⟩ <;>
    simp [transfersOf_singleton, sent, write, Request.code]

theorem tracks_received
    (counters : Counters) (plain : setup.tally? = none) (reply : List UInt8) :
    counters.Tracks [⟨.toHost, setup, reply⟩] 0 counters.received := by
  obtain ⟨noWrite, noBlock⟩ := Setup.tally?_eq_none_iff.mp plain
  refine ⟨rfl, rfl, ?_, ?_⟩ <;>
    simp [transfersOf_singleton, received, noWrite, noBlock]

end Counters

namespace Exchange

variable {α β γ δ : Type}

/-! ## Exchanges that count what they do -/

/-- Every transfer to the device is counted for what its request is, and no transfer from
the device has a request that counts as anything else. -/
def Tallied : Exchange α → Prop
  | done _ => True
  | stop _ => True
  | send setup _ tally next => tally = setup.tally? ∧ next.Tallied
  | receive setup _ next => setup.tally? = none ∧ ∀ reply, (next reply).Tallied
  | settle _ next => next.Tallied

theorem tallied_done (result : α) : (done result).Tallied :=
  True.intro

theorem tallied_stop (cause : Error) : (stop cause : Exchange α).Tallied :=
  True.intro

theorem Tallied.bind
    {exchange : Exchange α} {after : α → Exchange β}
    (tallied : exchange.Tallied) (rest : ∀ result, (after result).Tallied) :
    (exchange >>= after).Tallied := by
  change (exchange.bind after).Tallied
  induction exchange with
  | done result =>
      exact rest result
  | stop cause =>
      exact True.intro
  | send setup payload tally next inductionHypothesis =>
      exact ⟨tallied.1, inductionHypothesis tallied.2⟩
  | receive setup length next inductionHypothesis =>
      exact ⟨tallied.1, fun reply => inductionHypothesis reply (tallied.2 reply)⟩
  | settle milliseconds next inductionHypothesis =>
      exact inductionHypothesis tallied

theorem Tallied.map
    (f : α → β) {exchange : Exchange α} (tallied : exchange.Tallied) :
    (f <$> exchange).Tallied :=
  tallied.bind fun result => tallied_done (f result)

theorem tallied_sending
    {setup : Setup} {tally : Option Tally} (counted : tally = setup.tally?)
    (payload : List UInt8) : (sending setup payload tally).Tallied :=
  ⟨counted, True.intro⟩

theorem tallied_receiving
    {setup : Setup} (plain : setup.tally? = none) (length : Nat) :
    (receiving setup length).Tallied :=
  ⟨plain, fun _ => True.intro⟩

theorem tallied_settling (milliseconds : UInt64) : (settling milliseconds).Tallied := by
  unfold settling
  split <;> exact True.intro

theorem tallied_liftM (check : Except Error α) : (liftM check : Exchange α).Tallied := by
  cases check <;> exact True.intro

theorem tallied_liftM_validation (check : Except ValidationError α) :
    (liftM check : Exchange α).Tallied := by
  cases check <;> exact True.intro

theorem tallied_liftM_protocol (check : Except ProtocolError α) :
    (liftM check : Exchange α).Tallied := by
  cases check <;> exact True.intro

theorem tallied_forM
    {step : γ → Exchange Unit} {items : List γ} (each : ∀ item, (step item).Tallied) :
    (items.forM step).Tallied := by
  induction items with
  | nil =>
      exact tallied_done ()
  | cons first rest inductionHypothesis =>
      exact (each first).bind fun _ => inductionHypothesis

theorem tallied_mapM
    {step : γ → Exchange α} {items : List γ} (each : ∀ item, (step item).Tallied) :
    (items.mapM step).Tallied := by
  induction items with
  | nil =>
      exact tallied_done []
  | cons first rest inductionHypothesis =>
      rw [List.mapM_cons]
      exact (each first).bind fun _ => inductionHypothesis.bind fun _ => tallied_done _

/-! ## Counted runs -/

section Run

variable [LoggingDevice δ]

/-- From one line to another the log gains some transfers, and the counters of both lines
track them. -/
def Line.Counts (line left : Line δ) (exempt : Nat) : Prop :=
  ∃ before transfers after, line.counters = some before ∧ left.counters = some after ∧
    LoggingDevice.log left.device = LoggingDevice.log line.device ++ transfers ∧
    before.Tracks transfers exempt after

variable {line between left : Line δ} {counters : Counters} {device : δ}

/-- A failed call changes neither. -/
theorem Line.counts_of_unlogged
    (counting : line.counters = some counters)
    (unlogged : LoggingDevice.log device = LoggingDevice.log line.device) :
    line.Counts { line with device } 0 :=
  ⟨counters, [], counters, counting, counting, by rw [unlogged, List.append_nil], .refl _⟩

theorem Line.Counts.counting
    {exempt : Nat} (counts : line.Counts left exempt) :
    ∃ after, left.counters = some after := by
  obtain ⟨_, _, after, _, kept, _⟩ := counts
  exact ⟨after, kept⟩

theorem Line.Counts.trans
    {exempt more : Nat} (first : line.Counts between exempt)
    (second : between.Counts left more) : line.Counts left (exempt + more) := by
  obtain ⟨before, firstPart, middle, counting, kept, grown, tracks⟩ := first
  obtain ⟨same, secondPart, after, started, ended, grownFurther, tracksFurther⟩ := second
  cases kept.symm.trans started
  refine ⟨before, firstPart ++ secondPart, after, counting, ended, ?_,
    tracks.append tracksFurther⟩
  rw [grownFurther, grown, List.append_assoc]

/-- The counters of a tallied run track the transfers that it completes. -/
theorem Tallied.run_counts
    {exchange : Exchange α} (tallied : exchange.Tallied)
    (counting : line.counters = some counters) : line.Counts (exchange.run line).2 0 := by
  induction exchange generalizing line counters with
  | done result =>
      exact Line.counts_of_unlogged counting rfl
  | stop cause =>
      exact Line.counts_of_unlogged counting rfl
  | send setup payload tally next inductionHypothesis =>
      obtain ⟨rfl, rest⟩ := tallied
      rcases LoggingDevice.send_logged setup payload line.device with
        ⟨_, completed, logged⟩ | ⟨⟨cause, failed⟩, unlogged⟩
      · rw [run_send_of_ok (Prod.ext completed rfl)]
        have counted : line.counters.map (·.sent setup.tally?) =
            some (counters.sent setup.tally?) := by
          rw [counting]
          rfl
        have step : line.Counts { line with
            device := (Transport.send setup payload line.device).2
            counters := line.counters.map (·.sent setup.tally?) } 0 :=
          ⟨counters, _, _, counting, counted, logged, counters.tracks_sent setup payload⟩
        exact step.trans (inductionHypothesis rest counted)
      · rw [run_send_of_error (Prod.ext failed rfl)]
        exact Line.counts_of_unlogged counting unlogged
  | receive setup length next inductionHypothesis =>
      obtain ⟨plain, rest⟩ := tallied
      rcases LoggingDevice.receive_logged setup length line.device with
        ⟨reply, completed, logged⟩ | ⟨⟨cause, failed⟩, unlogged⟩
      · rw [run_receive_of_ok (Prod.ext completed rfl)]
        have counted : line.counters.map (·.received) = some counters.received := by
          rw [counting]
          rfl
        have step : line.Counts { line with
            device := (Transport.receive setup length line.device).2
            counters := line.counters.map (·.received) } 0 :=
          ⟨counters, _, _, counting, counted, logged, counters.tracks_received plain reply⟩
        exact step.trans (inductionHypothesis reply (rest reply) counted)
      · rw [run_receive_of_error (Prod.ext failed rfl)]
        exact Line.counts_of_unlogged counting unlogged
  | settle milliseconds next inductionHypothesis =>
      let waited : Line δ := { line with settled := line.settled + milliseconds.toNat }
      have rest : waited.Counts (next.run waited).2 0 := inductionHypothesis tallied counting
      exact rest

end Run

/-! ## Runs without counters -/

section Uncounted

variable [Transport δ]

def Line.uncounted (line : Line δ) : Line δ :=
  { line with counters := none }

/-- Counters change nothing else about a run. -/
theorem run_uncounted (exchange : Exchange α) (line : Line δ) :
    exchange.run line.uncounted =
      ((exchange.run line).1, (exchange.run line).2.uncounted) := by
  induction exchange generalizing line with
  | done result =>
      rfl
  | stop cause =>
      rfl
  | send setup payload tally next inductionHypothesis =>
      rw [run, run, Line.uncounted]
      dsimp only
      cases Transport.send setup payload line.device with
      | mk outcome device =>
          cases outcome with
          | ok _ =>
              exact inductionHypothesis
                { line with device, counters := line.counters.map (·.sent tally) }
          | error cause =>
              rfl
  | receive setup length next inductionHypothesis =>
      rw [run, run, Line.uncounted]
      dsimp only
      cases Transport.receive setup length line.device with
      | mk outcome device =>
          cases outcome with
          | ok reply =>
              exact inductionHypothesis reply
                { line with device, counters := line.counters.map (·.received) }
          | error cause =>
              rfl
  | settle milliseconds next inductionHypothesis =>
      exact inductionHypothesis { line with settled := line.settled + milliseconds.toNat }

end Uncounted

end Exchange

end ServoLink
