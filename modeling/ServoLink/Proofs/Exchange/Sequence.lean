import ServoLink.Proofs.Exchange

/-!
# The calls of an exchange, in order

An exchange `Follows` a list of calls if it asks for them one after the other, whatever
the replies are.  On a device whose calls either complete, with a known effect, or fail,
with none, a run has the effect of the first calls of the list:

* all of them if it completes;
* all of them also if it stops, unless a reply may cut the exchange short;
* any number of them if a transfer fails.
-/

namespace ServoLink

def Call.setup : Call → Setup
  | .send setup _ => setup
  | .receive setup _ => setup

/-- The calls that follow a check, none if the check fails. -/
def callsAfter {ε α : Type} (check : Except ε α) (calls : α → List Call) : List Call :=
  match check with
  | .ok result => calls result
  | .error _ => []

theorem forall_mem_callsAfter
    {ε α : Type} {check : Except ε α} {calls : α → List Call} {holds : Call → Prop}
    (each : ∀ result, check = .ok result → ∀ call ∈ calls result, holds call) :
    ∀ call ∈ callsAfter check calls, holds call := by
  cases check with
  | ok result => exact each result rfl
  | error cause => exact List.forall_mem_nil _

namespace Exchange

variable {α β γ δ σ : Type} {cut further : Prop}

/-! ## Following a list of calls -/

/-- The exchange asks for `calls` in their order.  Before the last of them it may stop
only if `cut` holds. -/
def Follows (cut : Prop) : Exchange α → List Call → Prop
  | done _, calls => calls = []
  | stop _, calls => calls = [] ∨ cut
  | send setup payload _ next, calls =>
      ∃ rest, calls = .send setup payload :: rest ∧ next.Follows cut rest
  | receive setup length next, calls =>
      ∃ rest, calls = .receive setup length :: rest ∧ ∀ reply, (next reply).Follows cut rest
  | settle _ next, calls => next.Follows cut calls

theorem follows_done (result : α) : (done result).Follows cut [] :=
  rfl

theorem follows_stop (cause : Error) : (stop cause : Exchange α).Follows cut [] :=
  Or.inl rfl

theorem Follows.mono
    {exchange : Exchange α} {calls : List Call}
    (follows : exchange.Follows cut calls) (weaker : cut → further) :
    exchange.Follows further calls := by
  induction exchange generalizing calls with
  | done result =>
      exact follows
  | stop cause =>
      exact follows.imp_right weaker
  | send setup payload tally next inductionHypothesis =>
      obtain ⟨rest, equal, tail⟩ := follows
      exact ⟨rest, equal, inductionHypothesis tail⟩
  | receive setup length next inductionHypothesis =>
      obtain ⟨rest, equal, tail⟩ := follows
      exact ⟨rest, equal, fun reply => inductionHypothesis reply (tail reply)⟩
  | settle milliseconds next inductionHypothesis =>
      exact inductionHypothesis follows

/-- A continuation that makes no call of its own. -/
theorem Follows.bind_quiet
    {exchange : Exchange α} {after : α → Exchange β} {calls : List Call}
    (follows : exchange.Follows cut calls)
    (quiet : ∀ result, (after result).Follows cut []) :
    (exchange >>= after).Follows cut calls := by
  change (exchange.bind after).Follows cut calls
  induction exchange generalizing calls with
  | done result =>
      have empty : calls = [] := follows
      rw [empty]
      exact quiet result
  | stop cause =>
      exact follows
  | send setup payload tally next inductionHypothesis =>
      obtain ⟨rest, equal, tail⟩ := follows
      exact ⟨rest, equal, inductionHypothesis tail⟩
  | receive setup length next inductionHypothesis =>
      obtain ⟨rest, equal, tail⟩ := follows
      exact ⟨rest, equal, fun reply => inductionHypothesis reply (tail reply)⟩
  | settle milliseconds next inductionHypothesis =>
      exact inductionHypothesis follows

/-- Where a reply may cut the exchange short, calls are simply joined. -/
theorem Follows.bind
    {exchange : Exchange α} {after : α → Exchange β} {calls rest : List Call}
    (follows : exchange.Follows True calls)
    (next : ∀ result, (after result).Follows True rest) :
    (exchange >>= after).Follows True (calls ++ rest) := by
  change (exchange.bind after).Follows True (calls ++ rest)
  induction exchange generalizing calls with
  | done result =>
      have empty : calls = [] := follows
      rw [empty]
      exact next result
  | stop cause =>
      exact Or.inr True.intro
  | send setup payload tally next inductionHypothesis =>
      obtain ⟨tail, equal, tailFollows⟩ := follows
      exact ⟨tail ++ rest, by rw [equal]; rfl, inductionHypothesis tailFollows⟩
  | receive setup length next inductionHypothesis =>
      obtain ⟨tail, equal, tailFollows⟩ := follows
      exact ⟨tail ++ rest, by rw [equal]; rfl,
        fun reply => inductionHypothesis reply (tailFollows reply)⟩
  | settle milliseconds next inductionHypothesis =>
      exact inductionHypothesis follows

theorem Follows.map
    (f : α → β) {exchange : Exchange α} {calls : List Call}
    (follows : exchange.Follows cut calls) : (f <$> exchange).Follows cut calls :=
  follows.bind_quiet fun result => follows_done (f result)

theorem follows_sending
    (setup : Setup) (payload : List UInt8) (tally : Option Tally) :
    (sending setup payload tally).Follows cut [.send setup payload] :=
  ⟨[], rfl, rfl⟩

theorem follows_sending_bind
    {setup : Setup} {payload : List UInt8} (tally : Option Tally)
    {after : Unit → Exchange β} {rest : List Call}
    (next : (after ()).Follows cut rest) :
    (sending setup payload tally >>= after).Follows cut (.send setup payload :: rest) :=
  ⟨rest, rfl, next⟩

theorem follows_receiving_bind
    {setup : Setup} {length : Nat}
    {after : List UInt8 → Exchange β} {rest : List Call}
    (next : ∀ reply, (after reply).Follows cut rest) :
    (receiving setup length >>= after).Follows cut (.receive setup length :: rest) :=
  ⟨rest, rfl, next⟩

theorem follows_settling (milliseconds : UInt64) : (settling milliseconds).Follows cut [] := by
  unfold settling
  split <;> rfl

theorem follows_liftM_protocol (check : Except ProtocolError α) :
    (liftM check : Exchange α).Follows cut [] := by
  cases check with
  | ok result => exact follows_done result
  | error cause => exact follows_stop _

theorem follows_liftM (check : Except Error α) :
    (liftM check : Exchange α).Follows cut [] := by
  cases check with
  | ok result => exact follows_done result
  | error cause => exact follows_stop cause

theorem follows_liftM_bind
    {check : Except Error α} {after : α → Exchange β} {calls : α → List Call}
    (next : ∀ result, check = .ok result → (after result).Follows cut (calls result)) :
    ((liftM check : Exchange α) >>= after).Follows cut (callsAfter check calls) := by
  cases check with
  | ok result => exact next result rfl
  | error cause => exact follows_stop cause

theorem follows_liftM_validation_bind
    {check : Except ValidationError α} {after : α → Exchange β} {calls : α → List Call}
    (next : ∀ result, check = .ok result → (after result).Follows cut (calls result)) :
    ((liftM check : Exchange α) >>= after).Follows cut (callsAfter check calls) := by
  cases check with
  | ok result => exact next result rfl
  | error cause => exact follows_stop _

theorem follows_liftM_protocol_bind
    {check : Except ProtocolError α} {after : α → Exchange β} {calls : α → List Call}
    (next : ∀ result, check = .ok result → (after result).Follows cut (calls result)) :
    ((liftM check : Exchange α) >>= after).Follows cut (callsAfter check calls) := by
  cases check with
  | ok result => exact next result rfl
  | error cause => exact follows_stop _

/-- Transfers to the device, one for each item, before the calls of what comes next. -/
theorem follows_forM_bind
    {setup : γ → Setup} {payload : γ → List UInt8} {tally : Option Tally}
    {after : Unit → Exchange β} {rest : List Call}
    (next : (after ()).Follows cut rest) (items : List γ) :
    (items.forM (fun item => sending (setup item) (payload item) tally) >>= after).Follows cut
      (items.map (fun item => .send (setup item) (payload item)) ++ rest) := by
  induction items with
  | nil =>
      exact next
  | cons first others inductionHypothesis =>
      rw [forM_cons, LawfulMonad.bind_assoc]
      exact follows_sending_bind tally inductionHypothesis

theorem follows_mapM
    {step : γ → Exchange α} {calls : γ → List Call} {items : List γ}
    (each : ∀ item ∈ items, (step item).Follows True (calls item)) :
    (items.mapM step).Follows True (items.flatMap calls) := by
  induction items with
  | nil =>
      exact follows_done []
  | cons first others inductionHypothesis =>
      have head := each first List.mem_cons_self
      have tail := inductionHypothesis fun item member =>
        each item (List.mem_cons_of_mem first member)
      rw [List.mapM_cons, List.flatMap_cons]
      exact head.bind fun _ => tail.bind_quiet fun _ => follows_done _

/-- An exchange that follows calls of one kind asks for nothing else. -/
theorem Follows.within
    {asked : Call → Prop} {exchange : Exchange α} {calls : List Call}
    (follows : exchange.Follows cut calls) (each : ∀ call ∈ calls, asked call) :
    exchange.Within asked (fun _ => True) := by
  induction exchange generalizing calls with
  | done result =>
      exact True.intro
  | stop cause =>
      exact True.intro
  | send setup payload tally next inductionHypothesis =>
      obtain ⟨rest, rfl, tail⟩ := follows
      obtain ⟨first, others⟩ := List.forall_mem_cons.mp each
      exact ⟨first, inductionHypothesis tail others⟩
  | receive setup length next inductionHypothesis =>
      obtain ⟨rest, rfl, tail⟩ := follows
      obtain ⟨first, others⟩ := List.forall_mem_cons.mp each
      exact ⟨first, fun reply => inductionHypothesis reply (tail reply) others⟩
  | settle milliseconds next inductionHypothesis =>
      exact inductionHypothesis follows each

/-! ## The effect of a run -/

section Step

variable {α δ : Type} [Transport δ] {setup : Setup} {line : Line δ} {device : δ}

theorem run_send_of_ok
    {payload : List UInt8} {tally : Option Tally} {next : Exchange α}
    (sent : Transport.send setup payload line.device = (.ok (), device)) :
    (send setup payload tally next).run line =
      next.run { line with device, counters := line.counters.map (·.sent tally) } := by
  rw [run, sent]

theorem run_send_of_error
    {payload : List UInt8} {tally : Option Tally} {next : Exchange α} {cause : TransportError}
    (failed : Transport.send setup payload line.device = (.error cause, device)) :
    (send setup payload tally next).run line =
      (.error (.transport cause), { line with device }) := by
  rw [run, failed]

theorem run_receive_of_ok
    {length : Nat} {next : List UInt8 → Exchange α} {reply : List UInt8}
    (received : Transport.receive setup length line.device = (.ok reply, device)) :
    (receive setup length next).run line =
      (next reply).run { line with device, counters := line.counters.map (·.received) } := by
  rw [run, received]

theorem run_receive_of_error
    {length : Nat} {next : List UInt8 → Exchange α} {cause : TransportError}
    (failed : Transport.receive setup length line.device = (.error cause, device)) :
    (receive setup length next).run line =
      (.error (.transport cause), { line with device }) := by
  rw [run, failed]

theorem run_receiving_of_ok
    {length : Nat} {after : List UInt8 → Exchange α} {reply : List UInt8}
    (received : Transport.receive setup length line.device = (.ok reply, device)) :
    (receiving setup length >>= after).run line =
      (after reply).run { line with device, counters := line.counters.map (·.received) } :=
  run_receive_of_ok received

theorem run_receiving_of_error
    {length : Nat} {after : List UInt8 → Exchange α} {cause : TransportError}
    (failed : Transport.receive setup length line.device = (.error cause, device)) :
    (receiving setup length >>= after).run line =
      (.error (.transport cause), { line with device }) :=
  run_receive_of_error failed

end Step

/-- As `view` shows a device, a call that completes has the effect `complete`, and one
that fails has none.  Calls fail only in states where `mayFail` holds. -/
structure Effects [Transport δ]
    (view : δ → σ) (complete : σ → Call → σ) (mayFail : σ → Prop) : Prop where
  send : ∀ setup payload device,
    ((Transport.send setup payload device).1 = .ok () ∧
      view (Transport.send setup payload device).2 =
        complete (view device) (.send setup payload)) ∨
    ((∃ cause, (Transport.send setup payload device).1 = .error cause) ∧
      view (Transport.send setup payload device).2 = view device ∧ mayFail (view device))
  receive : ∀ setup length device,
    ((∃ reply, (Transport.receive setup length device).1 = .ok reply) ∧
      view (Transport.receive setup length device).2 =
        complete (view device) (.receive setup length)) ∨
    ((∃ cause, (Transport.receive setup length device).1 = .error cause) ∧
      view (Transport.receive setup length device).2 = view device ∧ mayFail (view device))

/-- What is left of the calls when a run ends: nothing, unless a transfer failed or a
reply cut the exchange short. -/
inductive Ended (cut mayFail : Prop) (made calls : List Call) : Except Error α → Prop where
  | complete (outcome : Except Error α) (all : made = calls) : Ended cut mayFail made calls outcome
  | failed (cause : TransportError) (possible : mayFail) :
      Ended cut mayFail made calls (.error (.transport cause))
  | cut (cause : Error) (permitted : cut) : Ended cut mayFail made calls (.error cause)

theorem Ended.cons
    {mayFail : Prop} {made calls : List Call} {outcome : Except Error α}
    (ended : Ended cut mayFail made calls outcome) (call : Call) :
    Ended cut mayFail (call :: made) (call :: calls) outcome := by
  cases ended with
  | complete outcome all => exact .complete outcome (congrArg (call :: ·) all)
  | failed cause possible => exact .failed cause possible
  | cut cause permitted => exact .cut cause permitted

theorem Ended.all_of_ok
    {mayFail : Prop} {made calls : List Call} {result : α}
    (ended : Ended cut mayFail made calls (.ok result)) : made = calls := by
  cases ended with
  | complete outcome all => exact all

section Run

variable [Transport δ] {view : δ → σ} {complete : σ → Call → σ} {mayFail : σ → Prop}

/-- A run has the effect of the first calls that its exchange follows. -/
theorem Follows.run_effects
    (effects : Effects view complete mayFail)
    {exchange : Exchange α} {calls : List Call}
    (follows : exchange.Follows cut calls) (line : Line δ) :
    ∃ made, made <+: calls ∧
      view (exchange.run line).2.device = made.foldl complete (view line.device) ∧
      Ended cut (mayFail (made.foldl complete (view line.device))) made calls
        (exchange.run line).1 := by
  induction exchange generalizing calls line with
  | done result =>
      have empty : calls = [] := follows
      exact ⟨[], List.nil_prefix, rfl, .complete _ empty.symm⟩
  | stop cause =>
      refine ⟨[], List.nil_prefix, rfl, ?_⟩
      rcases follows with empty | permitted
      · exact .complete _ empty.symm
      · exact .cut cause permitted
  | send setup payload tally next inductionHypothesis =>
      obtain ⟨rest, rfl, tail⟩ := follows
      rcases effects.send setup payload line.device with
        ⟨completed, effect⟩ | ⟨⟨cause, failed⟩, unchanged, possible⟩
      · rw [run_send_of_ok (Prod.ext completed rfl)]
        obtain ⟨made, inside, state, ended⟩ := inductionHypothesis tail
          { line with
            device := (Transport.send setup payload line.device).2
            counters := line.counters.map (·.sent tally) }
        dsimp only at state ended
        rw [effect] at state ended
        exact ⟨.send setup payload :: made, List.cons_prefix_cons.mpr ⟨rfl, inside⟩, state,
          ended.cons _⟩
      · rw [run_send_of_error (Prod.ext failed rfl)]
        exact ⟨[], List.nil_prefix, unchanged, .failed cause possible⟩
  | receive setup length next inductionHypothesis =>
      obtain ⟨rest, rfl, tail⟩ := follows
      rcases effects.receive setup length line.device with
        ⟨⟨reply, completed⟩, effect⟩ | ⟨⟨cause, failed⟩, unchanged, possible⟩
      · rw [run_receive_of_ok (Prod.ext completed rfl)]
        obtain ⟨made, inside, state, ended⟩ := inductionHypothesis reply (tail reply)
          { line with
            device := (Transport.receive setup length line.device).2
            counters := line.counters.map (·.received) }
        dsimp only at state ended
        rw [effect] at state ended
        exact ⟨.receive setup length :: made, List.cons_prefix_cons.mpr ⟨rfl, inside⟩, state,
          ended.cons _⟩
      · rw [run_receive_of_error (Prod.ext failed rfl)]
        exact ⟨[], List.nil_prefix, unchanged, .failed cause possible⟩
  | settle milliseconds next inductionHypothesis =>
      rw [run]
      exact inductionHypothesis follows { line with settled := line.settled + milliseconds.toNat }

end Run

end Exchange

end ServoLink
