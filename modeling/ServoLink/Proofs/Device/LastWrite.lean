import ServoLink.Proofs.Device.ScriptMemory
import ServoLink.Proofs.Session.WellFormed

/-!
# The parameter store as the last writes of the log

A simulated controller stores what its log last wrote to each address.  This holds because
a well-formed call that writes a parameter carries a value that its range admits, so that
the device does not change the value when it narrows it to the width of the parameter.
-/

namespace ServoLink

/-! ## The last write in a log -/

/-- Whether a transfer writes the parameter at an address. -/
def Transfer.writes (transfer : Transfer) (address : UInt8) : Bool :=
  transfer.direction == .toDevice &&
    transfer.setup.request == Request.setParameter.code &&
    transfer.setup.index.toUInt8 == address

/-- The value that a log last wrote to an address, or zero if it wrote none. -/
def lastWritten (log : List Transfer) (address : UInt8) : UInt16 :=
  ((log.filter (·.writes address)).map (·.setup.value)).getLastD 0

theorem lastWritten_append (log : List Transfer) (transfer : Transfer) (address : UInt8) :
    lastWritten (log ++ [transfer]) address =
      if transfer.writes address then transfer.setup.value else lastWritten log address := by
  unfold lastWritten
  rw [List.filter_append, List.map_append]
  by_cases writes : transfer.writes address = true <;> simp [writes]

/-! ## Well-formed writes -/

/-- A well-formed call that writes a parameter carries a checked write. -/
theorem Call.WellFormed.checked_write
    {model : Model} {command : Command} {setup : Setup} {payload : List UInt8}
    (wellFormed : (Call.send setup payload).WellFormed model command)
    (writes : setup.request = Request.setParameter.code) :
    ∃ write : ParameterWrite, write.Checked ∧ Call.send setup payload = .write write := by
  obtain ⟨kind, request, value, index⟩ := setup
  cases wellFormed with
  | send _ _ vendor _ fits =>
      cases vendor
      cases writes
      obtain ⟨rfl, range, found, width, least, greatest⟩ := fits .setParameter rfl
      have known := Parameter.range?_of_range found
      let write : ParameterWrite := ⟨range, value⟩
      have named : write.parameter = ⟨index.toUInt8⟩ :=
        (Parameter.wellFormed_of_range? known).names
      have checked : write.Checked := by
        refine ⟨by rw [named, known], Int.ofNat_le.mpr ?_, Int.ofNat_le.mpr ?_⟩
        · exact UInt16.le_iff_toNat_le.mp least
        · exact UInt16.le_iff_toNat_le.mp greatest
      have packed : write.setup.index = index := by
        apply UInt16.toNat_inj.mp
        have high : (index >>> 8).toNat = index.toNat / 256 := by
          rw [UInt16.toNat_shiftRight, Nat.shiftRight_eq_div_pow]
          rfl
        have low : index.toUInt8.toNat = index.toNat % 256 := UInt16.toNat_toUInt8 index
        change (index >>> 8).toNat = range.width at width
        rw [checked.index_toNat, named]
        change range.width * 256 + index.toUInt8.toNat = index.toNat
        omega
      refine ⟨write, checked, ?_⟩
      unfold Call.write
      rw [← packed]
      rfl

namespace Simulator

variable {device : Simulator} {model : Model} {command : Command} {call : Call}

/-- Every address holds what the log last wrote to it, and that is zero or in the range of
the parameter. -/
structure StoresLog (device : Simulator) : Prop where
  parameters : ∀ address, device.parameters address = lastWritten device.log address
  admitted : ∀ (parameter : Parameter) (range : ParameterRange),
    parameter.range? = some range →
    device.parameters parameter.id = 0 ∨
      range.Admits (device.parameters parameter.id).toNat

theorem storesLog_new (product : UInt16) : ({ product } : Simulator).StoresLog where
  parameters _ := rfl
  admitted _ _ _ := Or.inl rfl

theorem take_log (device : Simulator) (write : ParameterWrite) :
    (device.take write).log = device.log ++ [writeTransfer write] :=
  congrArg (· ++ _) (device.accept_log write.setup [])

theorem writeTransfer_writes {write : ParameterWrite} (checked : write.Checked)
    (address : UInt8) :
    (writeTransfer write).writes address = true ↔ address = write.parameter.id := by
  have here : (writeTransfer write).setup.index.toUInt8 = write.parameter.id :=
    checked.address
  unfold Transfer.writes
  rw [here]
  change (write.parameter.id == address) = true ↔ _
  rw [beq_iff_eq, eq_comm]

theorem StoresLog.take
    {write : ParameterWrite} (stores : device.StoresLog) (checked : write.Checked) :
    (device.take write).StoresLog := by
  constructor
  · intro address
    rw [take_parameters checked, take_log, lastWritten_append, stores.parameters]
    simp only [writeTransfer_writes checked]
    rfl
  · intro parameter range known
    rw [take_parameters checked]
    split
    next same =>
      right
      have equal : parameter = write.parameter :=
        Parameter.eq_of_id_toNat (congrArg UInt8.toNat same)
      rw [equal, checked.known] at known
      cases known
      exact checked.admits
    next => exact stores.admitted parameter range known

/-- A call that writes no parameter. -/
theorem StoresLog.spared
    (stores : device.StoresLog) (spares : call.SparesParameters) :
    (device.complete call).StoresLog := by
  have kept : (device.complete call).parameters = device.parameters :=
    complete_parameters spares
  obtain ⟨transfer, logged, none⟩ : ∃ transfer : Transfer,
      (device.complete call).log = device.log ++ [transfer] ∧
        ∀ address, transfer.writes address = false := by
    cases call with
    | receive setup length => exact ⟨_, rfl, fun _ => rfl⟩
    | send setup payload =>
        have other : (setup.request == Request.setParameter.code) = false :=
          beq_eq_false_iff_ne.mpr spares
        refine ⟨⟨.toDevice, setup, payload⟩,
          congrArg (· ++ _) (device.accept_log setup payload), fun address => ?_⟩
        unfold Transfer.writes
        rw [other, Bool.and_false, Bool.false_and]
  constructor
  · intro address
    rw [kept, logged, lastWritten_append, none, stores.parameters]
    rfl
  · intro parameter range known
    rw [kept]
    exact stores.admitted parameter range known

theorem StoresLog.complete
    (stores : device.StoresLog) (wellFormed : call.WellFormed model command) :
    (device.complete call).StoresLog := by
  cases call with
  | receive setup length => exact stores.spared True.intro
  | send setup payload =>
      by_cases writes : setup.request = Request.setParameter.code
      · obtain ⟨write, checked, equal⟩ := wellFormed.checked_write writes
        rw [equal]
        exact stores.take checked
      · exact stores.spared writes

/-- Known parameters are read in full: what is stored fits their width. -/
theorem StoresLog.register (stores : device.StoresLog) (parameter : Parameter) :
    device.register parameter = device.parameters parameter.id := by
  unfold Simulator.register
  split
  next range known =>
    have fits := (Parameter.wellFormed_of_range? known).fits
    apply narrowed_of_lt
    rcases stores.admitted parameter range known with zero | admits
    · rw [zero]
      exact Nat.pow_pos (by decide)
    · have below := Int.ofNat_le.mp admits.2
      omega
  next => rfl

end Simulator

end ServoLink
