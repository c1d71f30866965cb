import ServoLink.Proofs.Device.Simulator
import ServoLink.Proofs.Settings.Canonical

/-!
# Reading the settings of a simulated controller

The settings that are read are those that the registers stand for, and reading them
changes nothing but the log.
-/

namespace ServoLink

theorem lookup_map_of_mem
    {α β : Type} [BEq α] [LawfulBEq α] (value : α → β) {items : List α} {item : α}
    (member : item ∈ items) :
    (items.map fun found => (found, value found)).lookup item = some (value item) := by
  induction items with
  | nil =>
      cases member
  | cons first rest inductionHypothesis =>
      rw [List.map_cons, List.lookup_cons]
      cases same : item == first with
      | true =>
          rw [eq_of_beq same]
      | false =>
          have different : item ≠ first := by
            intro equal
            rw [equal, beq_self_eq_true] at same
            cases same
          rcases List.mem_cons.mp member with equal | inside
          · exact absurd equal different
          · exact inductionHypothesis inside

namespace Controller

/-- A device that does not refuse reads gives the settings of its registers. -/
theorem run_readSettings
    (controller : Controller) {line : Exchange.Line Simulator}
    (working : line.device.failOn ≠ some 0x81) :
    ∃ left, controller.readSettings.run line =
        (.ok (Settings.ofRegisters controller.model line.device.register), left) ∧
      Simulator.SameStore line.device left.device := by
  have each : ∀ parameter ∈ controller.model.readOrder,
      ∀ current : Exchange.Line Simulator,
        Simulator.SameStore line.device current.device →
          ∃ left, (do return (parameter, ← getRawParameter parameter) :
                Exchange (Parameter × UInt16)).run current =
              (.ok (parameter, line.device.register parameter), left) ∧
            Simulator.SameStore line.device left.device := by
    intro parameter member current same
    obtain ⟨range, known⟩ :=
      Model.known_of_mem_writeOrder (Model.mem_readOrder_iff.mp member)
    obtain ⟨left, run, kept⟩ :=
      run_getRawParameter known (by rw [same.failOn]; exact working)
    refine ⟨left, ?_, ⟨kept.parameters.trans same.parameters,
      kept.blocks.trans same.blocks, kept.failOn.trans same.failOn⟩⟩
    rw [Exchange.run_bind_of_ok run, Simulator.register_congr same.parameters]
    rfl
  obtain ⟨left, run, kept⟩ := Exchange.run_mapM each ⟨rfl, rfl, rfl⟩
  refine ⟨left, ?_, kept⟩
  have registers : Settings.ofRegisters controller.model (fun parameter =>
      ((controller.model.readOrder.map fun found =>
        (found, line.device.register found)).lookup parameter).getD 0) =
      Settings.ofRegisters controller.model line.device.register :=
    ofRegisters_congr fun parameter member => by
      rw [lookup_map_of_mem line.device.register member, Option.getD_some]
  unfold readSettings Settings.readWith
  rw [Exchange.run_bind_of_ok run, ← registers]
  rfl

/-- A device that gives its settings does not refuse reads. -/
theorem working_of_run_readSettings
    {controller : Controller} {line : Exchange.Line Simulator} {found : Settings}
    (given : (controller.readSettings.run line).1 = .ok found) :
    line.device.failOn ≠ some 0x81 := by
  intro failing
  have refused : Transport.receive Parameter.serialMode.query 1 line.device =
      (.error Simulator.simulatedFailure, line.device) :=
    Simulator.receive_of_refused failing 1
  have first : (getRawParameter .serialMode).run line =
      (.error (.transport Simulator.simulatedFailure), line) := by
    change (Exchange.receive Parameter.serialMode.query 1 _).run line = _
    rw [Exchange.run, refused]
  have order : ∃ rest, controller.model.readOrder = .serialMode :: rest :=
    ⟨_, rfl⟩
  obtain ⟨rest, order⟩ := order
  unfold readSettings Settings.readWith at given
  rw [order, List.mapM_cons, Exchange.run_bind, Exchange.run_bind, Exchange.run_bind,
    first] at given
  cases given

end Controller

end ServoLink
