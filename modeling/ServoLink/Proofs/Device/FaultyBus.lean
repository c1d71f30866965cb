import ServoLink.Proofs.Device.ScriptMemory

/-!
# A simulated controller on a faulty bus

A transfer on a faulty bus may fail before it reaches the controller, and is otherwise
carried out by it.  The bus keeps the states that the controller has been in, so that
something can be said about every point of a run.
-/

namespace ServoLink

structure FaultyBus where
  device : Simulator
  /-- What the coming transfers fail with, if they fail. -/
  faults : Nat → Option TransportError
  /-- The states that the device was in before the present one. -/
  past : List Simulator := []

namespace FaultyBus

/-- A new controller. -/
def start (product : UInt16) (faults : Nat → Option TransportError) : FaultyBus where
  device := { product }
  faults := faults

/-- All states that the device has been in. -/
def points (bus : FaultyBus) : List Simulator :=
  bus.past ++ [bus.device]

/-- One transfer, for which the device would give this outcome. -/
def transfer {α : Type} (bus : FaultyBus) (outcome : Except TransportError α × Simulator) :
    Except TransportError α × FaultyBus :=
  let faults := fun number => bus.faults (number + 1)
  match bus.faults 0, outcome with
  | some cause, _ => (.error cause, { bus with faults })
  | none, (.error cause, device) => (.error cause, { bus with device, faults })
  | none, (.ok result, device) =>
      (.ok result, { device, faults, past := bus.past ++ [bus.device] })

instance : Transport FaultyBus where
  product bus := bus.device.product
  send setup payload bus := bus.transfer (bus.device.send setup payload)
  receive setup length bus := bus.transfer (bus.device.receive setup length)

/-! ## The effect of a call -/

/-- The device with its past. -/
abbrev State :=
  Simulator × List Simulator

def state (bus : FaultyBus) : State :=
  (bus.device, bus.past)

def complete (state : State) (call : Call) : State :=
  (state.1.complete call, state.2 ++ [state.1])

/-- A transfer completes on the bus if it completes on the device and the bus does not
fail. -/
theorem transfer_effect
    {α : Type} (bus : FaultyBus) (outcome : Except TransportError α × Simulator)
    {after : Simulator}
    (step : ((∃ result, outcome.1 = .ok result) ∧ outcome.2 = after) ∨
      ((∃ cause, outcome.1 = .error cause) ∧ outcome.2 = bus.device)) :
    ((∃ result, (bus.transfer outcome).1 = .ok result) ∧
        (bus.transfer outcome).2.state = (after, bus.past ++ [bus.device])) ∨
      ((∃ cause, (bus.transfer outcome).1 = .error cause) ∧
        (bus.transfer outcome).2.state = bus.state) := by
  obtain ⟨made, device⟩ := outcome
  unfold transfer
  cases bus.faults 0 with
  | some cause =>
      right
      exact ⟨⟨cause, rfl⟩, rfl⟩
  | none =>
      rcases step with ⟨⟨result, completed⟩, moved⟩ | ⟨⟨cause, failed⟩, unmoved⟩
      · left
        cases completed
        cases moved
        exact ⟨⟨result, rfl⟩, rfl⟩
      · right
        cases failed
        cases unmoved
        exact ⟨⟨cause, rfl⟩, rfl⟩

theorem effects : Exchange.Effects state complete fun _ => True where
  send := by
    intro setup payload bus
    have step := Simulator.effects.send setup payload bus.device
    have moved := bus.transfer_effect (bus.device.send setup payload) (step.imp
      (fun completed => ⟨⟨(), completed.1⟩, completed.2⟩)
      fun failed => ⟨failed.1, failed.2.1⟩)
    exact moved.imp (fun completed => ⟨completed.1.elim fun _ equal => equal, completed.2⟩)
      fun failed => ⟨failed.1, failed.2, True.intro⟩
  receive := by
    intro setup length bus
    have step := Simulator.effects.receive setup length bus.device
    have moved := bus.transfer_effect (bus.device.receive setup length)
      (step.imp_right fun failed => ⟨failed.1, failed.2.1⟩)
    exact moved.imp_right fun failed => ⟨failed.1, failed.2, True.intro⟩

/-! ## The points of a run -/

theorem device_mem_points (bus : FaultyBus) : bus.device ∈ bus.points :=
  List.mem_append_right bus.past List.mem_cons_self

theorem foldl_complete_device (state : State) (calls : List Call) :
    (calls.foldl complete state).1 = calls.foldl Simulator.complete state.1 := by
  induction calls generalizing state with
  | nil =>
      rfl
  | cons first rest inductionHypothesis =>
      exact inductionHypothesis (complete state first)

/-- What is added to the past are states after some of the calls. -/
theorem mem_foldl_complete
    {state : State} {calls : List Call} {point : Simulator}
    (member : point ∈ (calls.foldl complete state).2) :
    point ∈ state.2 ∨
      ∃ made, made <+: calls ∧ point = made.foldl Simulator.complete state.1 := by
  induction calls generalizing state with
  | nil =>
      exact Or.inl member
  | cons first rest inductionHypothesis =>
      rw [List.foldl_cons] at member
      rcases inductionHypothesis member with known | ⟨made, inside, equal⟩
      · rcases List.mem_append.mp known with old | present
        · exact Or.inl old
        · right
          exact ⟨[], List.nil_prefix, List.mem_singleton.mp present⟩
      · right
        exact ⟨first :: made, List.cons_prefix_cons.mpr ⟨rfl, inside⟩, equal⟩

end FaultyBus

/-! ## Sessions -/

namespace Session

/-- A session on a new controller on a bus with these faults. -/
def onFaultyBus (model : Model) (config : SessionConfig) (counters : Option Counters)
    (faults : Nat → Option TransportError) : Session FaultyBus where
  controller := ⟨model, config.settle⟩
  line := { device := .start model.product faults, counters }
  timeout := config.timeout

theorem bind_faultyBus
    (model : Model) (config : SessionConfig) (faults : Nat → Option TransportError) :
    bind (FaultyBus.start model.product faults) config =
      .ok (onFaultyBus model config none faults) := by
  cases model <;> rfl

theorem counting_onFaultyBus
    (model : Model) (config : SessionConfig) (counters : Option Counters)
    (faults : Nat → Option TransportError) :
    (onFaultyBus model config counters faults).counting =
      onFaultyBus model config (some {}) faults :=
  rfl

/-- What holds after any number of a command's calls holds at every point of it. -/
theorem points_of_perform
    (session : Session FaultyBus) (command : Command) {good : Simulator → Prop}
    (before : ∀ point ∈ session.line.device.past, good point)
    (each : ∀ made, made <+: session.controller.calls command →
      good (made.foldl Simulator.complete session.line.device.device)) :
    let bus := (session.perform command).2.line.device
    good bus.device ∧ ∀ point ∈ bus.past, good point := by
  intro bus
  have follows := session.controller.perform_follows command
  obtain ⟨made, inside, final, _⟩ := follows.run_effects FaultyBus.effects session.line
  have device : bus.device = made.foldl Simulator.complete session.line.device.device :=
    (congrArg Prod.fst final).trans
      (FaultyBus.foldl_complete_device session.line.device.state made)
  have past : bus.past = (made.foldl FaultyBus.complete session.line.device.state).2 :=
    congrArg Prod.snd final
  constructor
  · rw [device]
    exact each made inside
  · intro point member
    rw [past] at member
    rcases FaultyBus.mem_foldl_complete member with old | ⟨first, start, equal⟩
    · exact before point old
    · rw [equal]
      exact each first (start.trans inside)

end Session

end ServoLink
