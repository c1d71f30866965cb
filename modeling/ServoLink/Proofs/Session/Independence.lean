import ServoLink.Proofs.Parameter.Memory
import ServoLink.Proofs.Session.Readers

/-!
# Writes and reads of settings, in any order

Which parameters settings write, and which they are read from, depends on the model alone.
They are the same parameters, none of them twice and no two of them with a byte in common,
so the writes of settings may be stored in any order.
-/

namespace ServoLink

/-! ## Order of the reads -/

theorem Model.readOrder_perm (model : Model) : model.readOrder.Perm model.writeOrder := by
  -- The two halves of the servo period are read in one order and written in the other.
  have controller : (Controller.serialOrder ++ (Controller.periodOrder model.family ++
      Controller.pullupOrder model)).Perm model.controllerParameters := by
    cases model <;> decide
  -- Modes are written after the channels but read before them.
  have later : (model.modeParameters ++ model.channelParameters).Perm
      (model.channelParameters ++ model.modeParameters) := List.perm_append_comm
  have parts := controller.append later
  rw [Controller.readOrder_eq, writeOrder]
  simp only [List.append_assoc] at parts ⊢
  exact parts

theorem Model.readOrder_nodup (model : Model) : model.readOrder.Nodup :=
  model.readOrder_perm.nodup_iff.mpr model.writeOrder_nodup

/-! ## Independent writes -/

/-- Writes without a common byte: they store the same in any order, and every value is
found in its place afterwards. -/
structure ParameterWrite.Independent (writes : List ParameterWrite) : Prop where
  apart : writes.Pairwise fun one other => one.range.Apart other.range
  order : ∀ memory shuffled, shuffled.Perm writes →
    storeAll memory shuffled = storeAll memory writes
  values : ∀ memory, ∀ write ∈ writes,
    write.parameter.decode (write.loaded (storeAll memory writes)) = .ok write.value

namespace ParameterWrite

variable {writes : List ParameterWrite}

theorem independent_of_nodup (checked : ∀ write ∈ writes, write.Checked)
    (nodup : (writes.map (·.parameter)).Nodup) : Independent writes := by
  have apart : writes.Pairwise fun one other => one.range.Apart other.range := by
    rw [List.Nodup, List.pairwise_map] at nodup
    exact nodup.imp_of_mem fun member inside different =>
      (checked _ member).apart (checked _ inside) different
  refine ⟨apart, fun memory shuffled perm => storeAll_perm checked apart perm, ?_⟩
  intro memory write member
  rw [loaded_storeAll checked apart member]
  exact (checked write member).decode_bytes

end ParameterWrite

theorem Settings.independent_of_writes {settings : Settings} {model : Model}
    {writes : List ParameterWrite} (accepted : settings.writes model = .ok writes) :
    writes.map (·.parameter) = model.writeOrder ∧ ParameterWrite.Independent writes := by
  rcases storable_of_writes accepted with ⟨count, storable, rfl⟩
  refine ⟨map_parameter_checked count, ParameterWrite.independent_of_nodup ?_ ?_⟩
  · exact assignments_checked count storable
  · rw [map_parameter_checked count]
    exact model.writeOrder_nodup

/-! ## Any reader -/

/-- A reading of settings asks a reader for the parameters of the model in their order, all
of them unless one fails.  Reading part by part, with exact arithmetic, is the same. -/
structure Reader.AskedBy {σ : Type} (reader : Reader σ) (state : σ) (model : Model)
    (outcome : Except Error Settings) (transcript : List Asked) : Prop where
  replied : reader.Replied state transcript
  asks : Asks model.readOrder (Settings.ofValues model) outcome transcript
  all : reader.NeverFails →
    (∃ settings, outcome = .ok settings) ∧ transcript.map (·.parameter) = model.readOrder
  exact : reader.Fits → ∀ fault,
    (Controller.readSettingsExactly fault model).answered reader.recorded =
      Settings.readWith model reader.recorded

theorem Reader.askedBy_readWith {σ : Type} (reader : Reader σ) (state : σ) (model : Model) :
    let reading := (Settings.readWith model reader.recorded).perform (state, [])
    reader.AskedBy state model reading.1 reading.2.2 := by
  intro reading
  obtain ⟨replied, asks⟩ := reader.perform_readWith model state
  exact ⟨replied, asks, fun never => replied.asks_all never asks,
    fun fits fault => answered_readSettingsExactly fits model fault⟩

/-! ## Writes and reads -/

/-- All settings of a model write the same parameters in the same order, and every reader
is asked for the same ones in the same order.  No parameter comes twice, both orders have
the same ones, and the writes may be stored in any order. -/
theorem Settings.writes_independent (model : Model) :
    model.writeOrder.Nodup ∧ model.readOrder.Nodup ∧
      model.readOrder.Perm model.writeOrder ∧
      (∀ settings writes, Settings.writes settings model = .ok writes →
        writes.map (·.parameter) = model.writeOrder ∧ ParameterWrite.Independent writes) ∧
      ∀ (σ : Type) (reader : Reader σ) (state : σ),
        let reading := (Settings.readWith model reader.recorded).perform (state, [])
        reader.AskedBy state model reading.1 reading.2.2 :=
  ⟨model.writeOrder_nodup, model.readOrder_nodup, model.readOrder_perm,
    fun _ _ accepted => independent_of_writes accepted,
    fun _ reader state => reader.askedBy_readWith state model⟩

/-- Default settings stored backwards, and a reader that answers one to everything. -/
theorem Settings.writes_independent_micro6 :
    let settings : Settings := { channels := List.replicate 6 {} }
    let ones : Reader Nat := fun _ asked => (.ok 1, asked + 1)
    ∃ writes, settings.writes .micro6 = .ok writes ∧
      writes.map (·.parameter) = Model.micro6.writeOrder ∧
      (∀ memory, ParameterWrite.storeAll memory writes.reverse =
        ParameterWrite.storeAll memory writes) ∧
      ((Settings.readWith .micro6 ones.recorded).perform (0, [])).2.2.map (·.parameter) =
        Model.micro6.readOrder ∧
      ∀ fault, (Controller.readSettingsExactly fault .micro6).answered ones.recorded =
        Settings.readWith .micro6 ones.recorded := by
  intro settings ones
  obtain ⟨_, _, _, stores, asks⟩ := writes_independent .micro6
  have accepted : settings.writes .micro6 =
      .ok ((settings.assignments .micro6).map Assignment.checked) := by
    decide +kernel
  obtain ⟨names, independent⟩ := stores settings _ accepted
  have asked := asks Nat ones 0
  have never : ones.NeverFails := fun _ _ => ⟨1, rfl⟩
  have fits : ones.Fits := by
    intro parameter range state word known answer
    cases answer
    rcases (Parameter.wellFormed_of_range? known).width with width | width
    · rw [width]
      decide
    · rw [width]
      decide
  exact ⟨_, accepted, names, fun memory => independent.order memory _ (List.reverse_perm _),
    (asked.all never).2, asked.exact fits⟩

end ServoLink
