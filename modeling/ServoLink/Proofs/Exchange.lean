import ServoLink.Exchange

/-!
# What a run of an exchange keeps

`Exchange.Within` bounds an exchange before any device is chosen: whatever the
replies, every call it asks for and every cause it stops with is of a given kind.
Its main consequences are that a run keeps every property of the device that the
permitted calls keep, and that a run fails only with a permitted cause or with a
failure of the transport.
-/

namespace ServoLink

/-- One call on a transport, whether it completes or fails. -/
inductive Call where
  | send (setup : Setup) (payload : List UInt8)
  | receive (setup : Setup) (length : Nat)
  deriving DecidableEq, Repr

namespace Exchange

variable {α β δ : Type}

/-! ## Sequencing -/

@[simp]
theorem done_bind (result : α) (after : α → Exchange β) :
    (done result >>= after) = after result :=
  rfl

@[simp]
theorem stop_bind (cause : Error) (after : α → Exchange β) :
    ((stop cause : Exchange α) >>= after) = stop cause :=
  rfl

@[simp]
theorem pure_eq_done (result : α) : (pure result : Exchange α) = done result :=
  rfl

theorem map_eq_bind (f : α → β) (exchange : Exchange α) :
    f <$> exchange = exchange >>= fun result => done (f result) :=
  rfl

theorem discard_eq_bind (exchange : Exchange α) :
    discard exchange = exchange >>= fun _ => done () :=
  rfl

@[simp]
theorem liftM_ok (result : α) :
    (liftM (Except.ok result : Except Error α) : Exchange α) = done result :=
  rfl

@[simp]
theorem liftM_error (cause : Error) :
    (liftM (Except.error cause : Except Error α) : Exchange α) = stop cause :=
  rfl

@[simp]
theorem liftM_validation_ok (result : α) :
    (liftM (Except.ok result : Except ValidationError α) : Exchange α) = done result :=
  rfl

@[simp]
theorem liftM_validation_error (cause : ValidationError) :
    (liftM (Except.error cause : Except ValidationError α) : Exchange α) =
      stop (.validation cause) :=
  rfl

@[simp]
theorem liftM_protocol_ok (result : α) :
    (liftM (Except.ok result : Except ProtocolError α) : Exchange α) = done result :=
  rfl

@[simp]
theorem liftM_protocol_error (cause : ProtocolError) :
    (liftM (Except.error cause : Except ProtocolError α) : Exchange α) =
      stop (.protocol cause) :=
  rfl

theorem bind_done (exchange : Exchange α) : exchange.bind done = exchange := by
  induction exchange with
  | done result =>
      rfl
  | stop cause =>
      rfl
  | send setup payload tally next inductionHypothesis =>
      exact congrArg (send setup payload tally) inductionHypothesis
  | receive setup length next inductionHypothesis =>
      exact congrArg (receive setup length) (funext inductionHypothesis)
  | settle milliseconds next inductionHypothesis =>
      exact congrArg (settle milliseconds) inductionHypothesis

theorem bind_assoc
    {γ : Type} (exchange : Exchange α)
    (first : α → Exchange β) (second : β → Exchange γ) :
    (exchange.bind first).bind second =
      exchange.bind fun result => (first result).bind second := by
  induction exchange with
  | done result =>
      rfl
  | stop cause =>
      rfl
  | send setup payload tally next inductionHypothesis =>
      exact congrArg (send setup payload tally) inductionHypothesis
  | receive setup length next inductionHypothesis =>
      exact congrArg (receive setup length) (funext inductionHypothesis)
  | settle milliseconds next inductionHypothesis =>
      exact congrArg (settle milliseconds) inductionHypothesis

instance : LawfulMonad Exchange :=
  LawfulMonad.mk' Exchange bind_done (fun _ _ => rfl) bind_assoc

theorem forM_cons (step : β → Exchange Unit) (first : β) (rest : List β) :
    (first :: rest).forM step = step first >>= fun _ => rest.forM step :=
  rfl

section Run

variable [Transport δ]

/-- The second exchange starts on the line that the first one leaves. -/
theorem run_bind
    (exchange : Exchange α) (after : α → Exchange β) (line : Line δ) :
    (exchange >>= after).run line =
      match exchange.run line with
      | (.ok result, left) => (after result).run left
      | (.error cause, left) => (.error cause, left) := by
  change (exchange.bind after).run line = _
  induction exchange generalizing line with
  | done result =>
      rfl
  | stop cause =>
      rfl
  | send setup payload tally next inductionHypothesis =>
      rw [bind, run, run]
      split
      · exact inductionHypothesis _
      · rfl
  | receive setup length next inductionHypothesis =>
      rw [bind, run, run]
      split
      · exact inductionHypothesis _ _
      · rfl
  | settle milliseconds next inductionHypothesis =>
      rw [bind, run, run]
      exact inductionHypothesis _

theorem run_bind_of_ok
    {exchange : Exchange α} {after : α → Exchange β} {line left : Line δ} {result : α}
    (first : exchange.run line = (.ok result, left)) :
    (exchange >>= after).run line = (after result).run left := by
  rw [run_bind, first]

theorem ok_of_run_bind
    {exchange : Exchange α} {after : α → Exchange β} {line : Line δ} {final : β}
    (completed : ((exchange >>= after).run line).1 = .ok final) :
    ∃ result left, exchange.run line = (.ok result, left) ∧
      ((after result).run left).1 = .ok final := by
  rw [run_bind] at completed
  split at completed
  next result left first => exact ⟨result, left, first, completed⟩
  next cause left first => cases completed

theorem run_map
    (f : α → β) (exchange : Exchange α) (line : Line δ) :
    (f <$> exchange).run line =
      ((exchange.run line).1.map f, (exchange.run line).2) := by
  rw [map_eq_bind, run_bind]
  cases exchange.run line with
  | mk outcome left =>
      cases outcome <;> rfl

/-- Steps that each give their value and keep a property of the line give all their
values and keep it. -/
theorem run_mapM
    {step : β → Exchange α} {value : β → α} {holds : Line δ → Prop} {items : List β}
    (each : ∀ item ∈ items, ∀ line, holds line →
      ∃ left, (step item).run line = (.ok (value item), left) ∧ holds left)
    {line : Line δ} (start : holds line) :
    ∃ left, (items.mapM step).run line = (.ok (items.map value), left) ∧ holds left := by
  induction items generalizing line with
  | nil =>
      exact ⟨line, rfl, start⟩
  | cons first rest inductionHypothesis =>
      obtain ⟨middle, firstRun, kept⟩ := each first List.mem_cons_self line start
      obtain ⟨left, restRun, done⟩ := inductionHypothesis
        (fun item member => each item (List.mem_cons_of_mem first member)) kept
      refine ⟨left, ?_, done⟩
      rw [List.mapM_cons, run_bind_of_ok firstRun, run_bind_of_ok restRun]
      rfl

end Run

/-! ## What an exchange may ask for -/

/-- Whatever the replies, every call that the exchange asks for satisfies `asked`, and
every cause that it stops with satisfies `stopped`. -/
def Within (asked : Call → Prop) (stopped : Error → Prop) : Exchange α → Prop
  | done _ => True
  | stop cause => stopped cause
  | send setup payload _ next =>
      asked (.send setup payload) ∧ next.Within asked stopped
  | receive setup length next =>
      asked (.receive setup length) ∧ ∀ reply, (next reply).Within asked stopped
  | settle _ next => next.Within asked stopped

section Within

variable {asked : Call → Prop} {stopped : Error → Prop}

theorem Within.mono
    {further : Call → Prop} {exchange : Exchange α}
    (within : exchange.Within asked stopped) (weaker : ∀ call, asked call → further call) :
    exchange.Within further stopped := by
  induction exchange with
  | done result =>
      exact True.intro
  | stop cause =>
      exact within
  | send setup payload tally next inductionHypothesis =>
      exact ⟨weaker _ within.1, inductionHypothesis within.2⟩
  | receive setup length next inductionHypothesis =>
      exact ⟨weaker _ within.1, fun reply => inductionHypothesis reply (within.2 reply)⟩
  | settle milliseconds next inductionHypothesis =>
      exact inductionHypothesis within

theorem within_done (result : α) : (done result).Within asked stopped :=
  True.intro

/-- Nothing is said about an exchange if every call and every cause is permitted. -/
theorem within_anything (exchange : Exchange α) :
    exchange.Within (fun _ => True) fun _ => True := by
  induction exchange with
  | done result =>
      exact True.intro
  | stop cause =>
      exact True.intro
  | send setup payload tally next inductionHypothesis =>
      exact ⟨True.intro, inductionHypothesis⟩
  | receive setup length next inductionHypothesis =>
      exact ⟨True.intro, inductionHypothesis⟩
  | settle milliseconds next inductionHypothesis =>
      exact inductionHypothesis

theorem within_bind
    {exchange : Exchange α} {after : α → Exchange β}
    (first : exchange.Within asked stopped)
    (rest : ∀ result, (after result).Within asked stopped) :
    (exchange >>= after).Within asked stopped := by
  change (exchange.bind after).Within asked stopped
  induction exchange with
  | done result =>
      exact rest result
  | stop cause =>
      exact first
  | send setup payload tally next inductionHypothesis =>
      exact ⟨first.1, inductionHypothesis first.2⟩
  | receive setup length next inductionHypothesis =>
      exact ⟨first.1, fun reply => inductionHypothesis reply (first.2 reply)⟩
  | settle milliseconds next inductionHypothesis =>
      exact inductionHypothesis first

theorem within_map
    (f : α → β) {exchange : Exchange α}
    (within : exchange.Within asked stopped) :
    (f <$> exchange).Within asked stopped :=
  within_bind within fun result => within_done (f result)

theorem within_sending
    {setup : Setup} {payload : List UInt8} (tally : Option Tally)
    (permitted : asked (.send setup payload)) :
    (sending setup payload tally).Within asked stopped :=
  ⟨permitted, True.intro⟩

theorem within_receiving
    {setup : Setup} {length : Nat}
    (permitted : asked (.receive setup length)) :
    (receiving setup length).Within asked stopped :=
  ⟨permitted, fun _ => True.intro⟩

theorem within_settling (milliseconds : UInt64) :
    (settling milliseconds).Within asked stopped := by
  unfold settling
  split <;> exact True.intro

theorem within_liftM
    {check : Except Error α}
    (permitted : ∀ cause, check = .error cause → stopped cause) :
    (liftM check : Exchange α).Within asked stopped := by
  cases check with
  | ok result => exact within_done result
  | error cause => exact permitted cause rfl

theorem within_liftM_protocol
    {check : Except ProtocolError α}
    (permitted : ∀ cause, check = .error cause → stopped (.protocol cause)) :
    (liftM check : Exchange α).Within asked stopped := by
  cases check with
  | ok result => exact within_done result
  | error cause => exact permitted cause rfl

theorem within_forM
    {step : β → Exchange Unit} {items : List β}
    (each : ∀ item ∈ items, (step item).Within asked stopped) :
    (items.forM step).Within asked stopped := by
  induction items with
  | nil =>
      exact within_done ()
  | cons first rest inductionHypothesis =>
      rw [forM_cons]
      refine within_bind (each first List.mem_cons_self) fun _ => ?_
      exact inductionHypothesis fun item member =>
        each item (List.mem_cons_of_mem first member)

theorem within_mapM
    {step : β → Exchange α} {items : List β}
    (each : ∀ item ∈ items, (step item).Within asked stopped) :
    (items.mapM step).Within asked stopped := by
  induction items with
  | nil =>
      exact within_done []
  | cons first rest inductionHypothesis =>
      rw [List.mapM_cons]
      refine within_bind (each first List.mem_cons_self) fun result => ?_
      refine within_bind ?_ fun results => within_done (result :: results)
      exact inductionHypothesis fun item member =>
        each item (List.mem_cons_of_mem first member)

end Within

/-! ## What a run keeps -/

section Keeps

variable [Transport δ] {asked : Call → Prop} {stopped : Error → Prop}

/-- A property of the device that every permitted call keeps, whether it completes or
fails, is kept by a whole run. -/
theorem run_keeps
    (holds : δ → Prop) {exchange : Exchange α}
    (within : exchange.Within asked stopped)
    (sendKeeps : ∀ setup payload device,
      asked (.send setup payload) → holds device →
        holds (Transport.send setup payload device).2)
    (receiveKeeps : ∀ setup length device,
      asked (.receive setup length) → holds device →
        holds (Transport.receive setup length device).2)
    {line : Line δ} (start : holds line.device) :
    holds (exchange.run line).2.device := by
  induction exchange generalizing line with
  | done result =>
      exact start
  | stop cause =>
      exact start
  | send setup payload tally next inductionHypothesis =>
      have kept := sendKeeps setup payload line.device within.1 start
      rw [run]
      split
      next device equal =>
        exact inductionHypothesis within.2 (by simpa only [equal] using kept)
      next cause device equal =>
        simpa only [equal] using kept
  | receive setup length next inductionHypothesis =>
      have kept := receiveKeeps setup length line.device within.1 start
      rw [run]
      split
      next reply device equal =>
        exact inductionHypothesis reply (within.2 reply)
          (by simpa only [equal] using kept)
      next cause device equal =>
        simpa only [equal] using kept
  | settle milliseconds next inductionHypothesis =>
      rw [run]
      exact inductionHypothesis within start

/-- A run fails with a cause that its exchange may stop with, or because a transfer
failed. -/
theorem run_error
    {exchange : Exchange α} (within : exchange.Within asked stopped)
    {line : Line δ} {cause : Error} (failed : (exchange.run line).1 = .error cause) :
    stopped cause ∨ ∃ failure, cause = .transport failure := by
  induction exchange generalizing line with
  | done result =>
      cases failed
  | stop found =>
      cases failed
      exact Or.inl within
  | send setup payload tally next inductionHypothesis =>
      rw [run] at failed
      split at failed
      · exact inductionHypothesis within.2 failed
      · cases failed
        exact Or.inr ⟨_, rfl⟩
  | receive setup length next inductionHypothesis =>
      rw [run] at failed
      split at failed
      · exact inductionHypothesis _ (within.2 _) failed
      · cases failed
        exact Or.inr ⟨_, rfl⟩
  | settle milliseconds next inductionHypothesis =>
      rw [run] at failed
      exact inductionHypothesis within failed

end Keeps

end Exchange

/-! ## Watching a run -/

/-- A device with a list of all calls that have been made on it. -/
structure Monitored (δ : Type) where
  device : δ
  calls : List Call := []

namespace Monitored

variable {α δ : Type} [Transport δ]

instance : Transport (Monitored δ) where
  product monitored := Transport.product monitored.device
  setTimeout milliseconds monitored :=
    { monitored with device := Transport.setTimeout milliseconds monitored.device }
  send setup payload monitored :=
    let (outcome, device) := Transport.send setup payload monitored.device
    (outcome, ⟨device, monitored.calls ++ [.send setup payload]⟩)
  receive setup length monitored :=
    let (outcome, device) := Transport.receive setup length monitored.device
    (outcome, ⟨device, monitored.calls ++ [.receive setup length]⟩)

/-- The line whose device a monitor watches. -/
def bare (line : Exchange.Line (Monitored δ)) : Exchange.Line δ :=
  { line with device := line.device.device }

/-- A monitor changes nothing about a run. -/
theorem run_bare (exchange : Exchange α) (line : Exchange.Line (Monitored δ)) :
    exchange.run (bare line) = ((exchange.run line).1, bare (exchange.run line).2) := by
  induction exchange generalizing line with
  | done result =>
      rfl
  | stop cause =>
      rfl
  | send setup payload tally next inductionHypothesis =>
      have step : Transport.send setup payload line.device =
          ((Transport.send setup payload line.device.device).1,
            ⟨(Transport.send setup payload line.device.device).2,
              line.device.calls ++ [.send setup payload]⟩) :=
        rfl
      rw [Exchange.run, Exchange.run, step, bare]
      cases Transport.send setup payload line.device.device with
      | mk outcome device =>
          cases outcome with
          | ok _ =>
              exact inductionHypothesis { line with
                device := ⟨device, line.device.calls ++ [.send setup payload]⟩
                counters := line.counters.map (·.sent tally) }
          | error cause =>
              rfl
  | receive setup length next inductionHypothesis =>
      have step : Transport.receive setup length line.device =
          ((Transport.receive setup length line.device.device).1,
            ⟨(Transport.receive setup length line.device.device).2,
              line.device.calls ++ [.receive setup length]⟩) :=
        rfl
      rw [Exchange.run, Exchange.run, step, bare]
      cases Transport.receive setup length line.device.device with
      | mk outcome device =>
          cases outcome with
          | ok reply =>
              exact inductionHypothesis reply { line with
                device := ⟨device, line.device.calls ++ [.receive setup length]⟩
                counters := line.counters.map (·.received) }
          | error cause =>
              rfl
  | settle milliseconds next inductionHypothesis =>
      exact inductionHypothesis { line with settled := line.settled + milliseconds.toNat }

end Monitored

end ServoLink
