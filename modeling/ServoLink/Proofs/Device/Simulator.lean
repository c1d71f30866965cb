import ServoLink.Device.Simulator
import ServoLink.Proofs.Exchange
import ServoLink.Proofs.Parameter.Write
import ServoLink.Session.Command

/-!
# The parameter store of a simulated controller

A run of checked writes to different parameters leaves each value in its place and
everything else as it was; a read returns what is stored and changes nothing but the
log.
-/

namespace ServoLink

namespace Simulator

/-! ## Transfers -/

section Transfers

variable {device : Simulator} {setup : Setup}

theorem send_of_refused (refused : device.failOn = some setup.request) (payload : List UInt8) :
    Transport.send setup payload device = (.error simulatedFailure, device) :=
  if_pos refused

theorem send_of_working (working : device.failOn ≠ some setup.request) (payload : List UInt8) :
    Transport.send setup payload device =
      (.ok (), (device.accept setup payload).record ⟨.toDevice, setup, payload⟩) :=
  if_neg working

theorem receive_of_refused (refused : device.failOn = some setup.request) (length : Nat) :
    Transport.receive setup length device = (.error simulatedFailure, device) :=
  if_pos refused

theorem receive_of_working (working : device.failOn ≠ some setup.request) (length : Nat) :
    Transport.receive setup length device =
      (.ok (device.reply setup length),
        device.record ⟨.toHost, setup, device.reply setup length⟩) :=
  if_neg working

end Transfers

/-! ## Writing -/

/-- The transfer that carries a write. -/
def writeTransfer (write : ParameterWrite) : Transfer :=
  ⟨.toDevice, write.setup, []⟩

/-- The device after it has taken a write. -/
def take (device : Simulator) (write : ParameterWrite) : Simulator :=
  (device.accept write.setup []).record (writeTransfer write)

/-- The device after it has taken some writes, the first one first. -/
def takeAll (device : Simulator) (writes : List ParameterWrite) : Simulator :=
  writes.foldl take device

/-- Only a completed transfer is logged, not what it changes. -/
theorem accept_log (device : Simulator) (setup : Setup) (payload : List UInt8) :
    (device.accept setup payload).log = device.log := by
  unfold accept
  by_cases parameter : setup.request = 0x82
  · rw [if_pos parameter]
    rfl
  · rw [if_neg parameter]
    by_cases erase : setup.request = 0xA0
    · rw [if_pos erase]
      rfl
    · rw [if_neg erase]
      split <;> rfl

section Writing

variable {device : Simulator} {write : ParameterWrite} {writes : List ParameterWrite}

theorem accept_write (checked : write.Checked) (device : Simulator) :
    device.accept write.setup [] =
      device.storeParameter write.parameter.id write.value := by
  have request : write.setup.request = 0x82 := rfl
  have stored : (if write.setup.index >>> 8 == 1 then write.setup.value &&& 0xFF
      else write.setup.value) = write.value := by
    have value : write.setup.value = write.value := rfl
    have narrow : (write.setup.index >>> 8 == 1) = true ↔ write.range.width = 1 := by
      rw [beq_iff_eq, ← UInt16.toNat_inj, checked.widthField]
      rfl
    have kept := checked.narrowed_value
    unfold narrowed at kept
    simp only [narrow, value]
    exact kept
  unfold accept
  simp only [request, if_true, checked.address]
  rw [stored]

theorem take_parameters (checked : write.Checked) (address : UInt8) :
    (device.take write).parameters address =
      if address = write.parameter.id then write.value else device.parameters address := by
  change (device.accept write.setup []).parameters address = _
  rw [accept_write checked]
  rfl

theorem takeAll_cons (device : Simulator) (first : ParameterWrite)
    (rest : List ParameterWrite) :
    device.takeAll (first :: rest) = (device.take first).takeAll rest :=
  rfl

theorem takeAll_of_not_mem
    (checked : ∀ write ∈ writes, write.Checked) {address : UInt8}
    (absent : ∀ write ∈ writes, write.parameter.id ≠ address) :
    (device.takeAll writes).parameters address = device.parameters address := by
  induction writes generalizing device with
  | nil =>
      rfl
  | cons first rest inductionHypothesis =>
      obtain ⟨firstChecked, restChecked⟩ := List.forall_mem_cons.mp checked
      obtain ⟨different, restAbsent⟩ := List.forall_mem_cons.mp absent
      rw [takeAll_cons, inductionHypothesis restChecked restAbsent,
        take_parameters firstChecked, if_neg (Ne.symm different)]

theorem takeAll_of_mem
    (checked : ∀ write ∈ writes, write.Checked)
    (apart : (writes.map (·.parameter)).Nodup) (member : write ∈ writes) :
    (device.takeAll writes).parameters write.parameter.id = write.value := by
  induction writes generalizing device with
  | nil =>
      cases member
  | cons first rest inductionHypothesis =>
      obtain ⟨firstChecked, restChecked⟩ := List.forall_mem_cons.mp checked
      obtain ⟨fresh, restApart⟩ := List.nodup_cons.mp apart
      rw [takeAll_cons]
      rcases List.mem_cons.mp member with equal | inside
      · subst equal
        rw [takeAll_of_not_mem restChecked, take_parameters firstChecked, if_pos rfl]
        intro other otherMember equal
        refine fresh (List.mem_map.mpr ⟨other, otherMember, ?_⟩)
        exact Parameter.eq_of_id_toNat (congrArg UInt8.toNat equal)
      · exact inductionHypothesis restChecked restApart inside

theorem take_failOn (checked : write.Checked) : (device.take write).failOn = device.failOn := by
  change (device.accept write.setup []).failOn = _
  rw [accept_write checked]
  rfl

theorem takeAll_log
    (checked : ∀ write ∈ writes, write.Checked) :
    (device.takeAll writes).log = device.log ++ writes.map writeTransfer := by
  induction writes generalizing device with
  | nil =>
      exact (List.append_nil _).symm
  | cons first rest inductionHypothesis =>
      obtain ⟨firstChecked, restChecked⟩ := List.forall_mem_cons.mp checked
      have step : (device.take first).log = device.log ++ [writeTransfer first] := by
        change (device.accept first.setup []).log ++ _ = _
        rw [accept_write firstChecked]
        rfl
      rw [takeAll_cons, inductionHypothesis restChecked, step, List.append_assoc]
      rfl

theorem takeAll_failOn
    (checked : ∀ write ∈ writes, write.Checked) :
    (device.takeAll writes).failOn = device.failOn := by
  induction writes generalizing device with
  | nil =>
      rfl
  | cons first rest inductionHypothesis =>
      obtain ⟨firstChecked, restChecked⟩ := List.forall_mem_cons.mp checked
      rw [takeAll_cons, inductionHypothesis restChecked, take_failOn firstChecked]

theorem takeAll_of_stored
    (checked : ∀ write ∈ writes, write.Checked)
    (stored : ∀ write ∈ writes, device.parameters write.parameter.id = write.value) :
    (device.takeAll writes).parameters = device.parameters := by
  induction writes generalizing device with
  | nil =>
      rfl
  | cons first rest inductionHypothesis =>
      obtain ⟨firstChecked, restChecked⟩ := List.forall_mem_cons.mp checked
      obtain ⟨firstStored, restStored⟩ := List.forall_mem_cons.mp stored
      have kept : (device.take first).parameters = device.parameters := by
        funext address
        rw [take_parameters firstChecked]
        split
        next equal => rw [equal, firstStored]
        next => rfl
      rw [← kept] at restStored
      rw [takeAll_cons, inductionHypothesis restChecked restStored, kept]

end Writing

/-! ## Reading -/

/-- What a read of a parameter gives: as much of the stored word as the parameter is
wide. -/
def register (device : Simulator) (parameter : Parameter) : UInt16 :=
  match parameter.range? with
  | some range => narrowed range.width (device.parameters parameter.id)
  | none => device.parameters parameter.id

/-- Two states of a device that differ in the log at most. -/
structure SameStore (first second : Simulator) : Prop where
  parameters : second.parameters = first.parameters
  blocks : second.blocks = first.blocks
  failOn : second.failOn = first.failOn

theorem register_congr
    {first second : Simulator} (same : second.parameters = first.parameters) :
    second.register = first.register := by
  funext parameter
  unfold register
  rw [same]

theorem register_of_checked
    {device : Simulator} {write : ParameterWrite} (checked : write.Checked)
    (stored : device.parameters write.parameter.id = write.value) :
    device.register write.parameter = write.value := by
  unfold register
  rw [checked.known]
  simp only [stored, checked.narrowed_value]

end Simulator

namespace Controller

variable {line : Exchange.Line Simulator} {writes : List ParameterWrite}

/-- A device that does not refuse writes takes all of them. -/
theorem run_writeParameters
    (checked : ∀ write ∈ writes, write.Checked)
    (working : line.device.failOn ≠ some 0x82) :
    ∃ counters, (writes.forM writeParameter).run line =
      (.ok (), { line with device := line.device.takeAll writes, counters }) := by
  induction writes generalizing line with
  | nil =>
      exact ⟨line.counters, rfl⟩
  | cons first rest inductionHypothesis =>
      have sent : Transport.send first.setup [] line.device =
          (.ok (), line.device.take first) :=
        Simulator.send_of_working working []
      have step : (writeParameter first).run line =
          (.ok (), { line with
            device := line.device.take first
            counters := line.counters.map (·.sent (some .parameterWrite)) }) := by
        unfold writeParameter Exchange.sending
        rw [Exchange.run, sent]
        rfl
      rw [Exchange.forM_cons, Exchange.run_bind_of_ok step]
      obtain ⟨firstChecked, restChecked⟩ := List.forall_mem_cons.mp checked
      refine inductionHypothesis restChecked ?_
      change (line.device.take first).failOn ≠ _
      rw [Simulator.take_failOn firstChecked]
      exact working

/-- A device that takes some writes does not refuse any. -/
theorem working_of_run_writeParameters
    (some : writes ≠ []) (taken : ((writes.forM writeParameter).run line).1 = .ok ()) :
    line.device.failOn ≠ Option.some 0x82 := by
  intro failing
  cases writes with
  | nil =>
      exact some rfl
  | cons first rest =>
      have refused : Transport.send first.setup [] line.device =
          (.error Simulator.simulatedFailure, line.device) :=
        Simulator.send_of_refused failing []
      have step : (writeParameter first).run line =
          (.error (.transport Simulator.simulatedFailure), line) := by
        unfold writeParameter Exchange.sending
        rw [Exchange.run, refused]
      rw [Exchange.forM_cons, Exchange.run_bind, step] at taken
      cases taken

/-- A device that does not refuse reads answers with the register's value. -/
theorem run_getRawParameter
    {parameter : Parameter} {range : ParameterRange}
    (known : parameter.range? = some range)
    (working : line.device.failOn ≠ some 0x81) :
    ∃ left, (getRawParameter parameter).run line =
        (.ok (line.device.register parameter), left) ∧
      Simulator.SameStore line.device left.device := by
  have found : line.device.register parameter =
      narrowed range.width (line.device.parameters parameter.id) := by
    unfold Simulator.register
    rw [known]
  have address : parameter.query.index.toUInt8 = parameter.id := by
    have bound := parameter.id.toNat_lt
    apply UInt8.toNat_inj.mp
    change parameter.id.toUInt16.toUInt8.toNat = _
    rw [UInt16.toNat_toUInt8, UInt8.toNat_toUInt16]
    omega
  have answer : line.device.reply parameter.query range.width =
      (wordBytes (line.device.parameters parameter.id)).take range.width := by
    rw [← address]
    rfl
  have received : Transport.receive parameter.query range.width line.device =
      (.ok (line.device.reply parameter.query range.width),
        line.device.record ⟨.toHost, parameter.query,
          line.device.reply parameter.query range.width⟩) :=
    Simulator.receive_of_working working range.width
  unfold getRawParameter
  rw [Parameter.range_eq_ok known, Exchange.liftM_protocol_ok, Exchange.done_bind, found]
  refine ⟨{ line with
    device := line.device.record ⟨.toHost, parameter.query,
      line.device.reply parameter.query range.width⟩
    counters := line.counters.map (·.received) }, ?_, ⟨rfl, rfl, rfl⟩⟩
  have step : (Exchange.receiving parameter.query range.width).run line =
      (.ok (line.device.reply parameter.query range.width), { line with
        device := line.device.record ⟨.toHost, parameter.query,
          line.device.reply parameter.query range.width⟩
        counters := line.counters.map (·.received) }) := by
    unfold Exchange.receiving
    rw [Exchange.run, received]
    rfl
  rw [Exchange.run_bind_of_ok step, answer, Parameter.decode_wordBytes known]
  rfl

end Controller

/-! ## Sessions -/

/-- A session on a new simulator of a model. -/
def Session.simulated (model : Model) : Session Simulator where
  controller := { model }
  line := { device := { product := model.product } }
  timeout := ({} : SessionConfig).timeout

theorem Session.bind_simulator (model : Model) :
    Session.bind ({ product := model.product } : Simulator) {} =
      .ok (Session.simulated model) := by
  cases model <;> rfl

end ServoLink
