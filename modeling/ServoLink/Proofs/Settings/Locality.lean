import Mathlib.Data.List.Forall2
import ServoLink.Proofs.Channel.Repacking
import ServoLink.Proofs.Settings.Writes

/-!
# What one channel has to do with the writes

Every channel owns its seven parameters and its bits in the mode parameters.  Settings that
differ in the entry of one channel write the same parameters in the same order, with values
that differ in bits of that channel only.
-/

namespace ServoLink

/-! ## Bits of a channel -/

/-- The bits of parameters that belong to a channel: all bits of its own parameters, two
bits of one byte of modes, or the bit of its pin in both masks. -/
inductive Model.OwnsBit (model : Model) (channel : Nat) : Parameter → Nat → Prop
  | field (field : ServoField) (bit : Nat) :
      OwnsBit model channel (.servo field channel) bit
  | code {parameter : Parameter} {bit : Nat} :
      model.family = .extended →
      parameter.id.toNat = 12 + channel / 4 →
      bit = 2 * (channel % 4) ∨ bit = 2 * (channel % 4) + 1 →
      OwnsBit model channel parameter bit
  | pin {parameter : Parameter} {bit : Nat} :
      model.family = .compact →
      parameter = .ioMask ∨ parameter = .outputMask →
      pinOfChannel? channel = some bit →
      OwnsBit model channel parameter bit

section Packed

variable {modes others : List ChannelMode} {channel : Nat}

theorem testBit_modeByte
    (modes : List ChannelMode) (byte : Nat) {bit : Nat} (bound : bit < 8) :
    (modeByte modes byte).toNat.testBit bit =
      (slotCode modes byte (bit / 2)).testBit (bit % 2) := by
  have slot : bit / 2 < 4 := by omega
  have place : bit % 2 + 2 * (bit / 2) = bit := Nat.mod_add_div bit 2
  rw [← modeByte_slot modes byte slot, show 4 = 2 ^ 2 from rfl, Nat.testBit_mod_two_pow,
    Nat.testBit_div_two_pow, place, decide_eq_true (Nat.mod_lt bit (by decide)),
    Bool.true_and]

/-- Bytes of modes that are those of other channels differ in the two bits of the channel. -/
theorem modeByte_local
    (apart : ∀ place, place ≠ channel → modes[place]? = others[place]?) {byte bit : Nat}
    (changed : (modeByte modes byte).toNat.testBit bit ≠
      (modeByte others byte).toNat.testBit bit) :
    byte = channel / 4 ∧ (bit = 2 * (channel % 4) ∨ bit = 2 * (channel % 4) + 1) := by
  by_cases bound : bit < 8
  · rw [testBit_modeByte modes byte bound, testBit_modeByte others byte bound] at changed
    have own : 4 * byte + bit / 2 = channel := by
      by_contra foreign
      apply changed
      simp only [slotCode, List.getD_eq_getElem?_getD, apart _ foreign]
    omega
  · -- A byte has no such bit, so the two cannot differ there.
    have wide : 2 ^ 8 ≤ 2 ^ bit := Nat.pow_le_pow_right (by decide) (by omega)
    have above (modes : List ChannelMode) : (modeByte modes byte).toNat.testBit bit = false :=
      Nat.testBit_eq_false_of_lt (Nat.lt_of_lt_of_le (modeByte_lt modes byte) wide)
    rw [above, above] at changed
    exact absurd rfl changed

/-- The pin of another channel is set in both masks or in none. -/
theorem testBit_pinMask_local
    (apart : ∀ place, place ≠ channel → modes[place]? = others[place]?)
    {selected : ChannelMode → Bool} {pin : Nat} (foreign : pinOfChannel? channel ≠ some pin)
    (driven : (pinMask selected 0 modes).toNat.testBit pin = true) :
    (pinMask selected 0 others).toNat.testBit pin = true := by
  rcases (testBit_pinMask _ _ _ _).mp driven with ⟨place, mode, present, chosen, wired⟩
  have elsewhere : place ≠ channel := by
    rintro rfl
    rw [Nat.zero_add] at wired
    exact foreign wired
  rw [apart place elsewhere] at present
  exact (testBit_pinMask _ _ _ _).mpr ⟨place, mode, present, chosen, wired⟩

theorem pinMask_local
    (apart : ∀ place, place ≠ channel → modes[place]? = others[place]?)
    {selected : ChannelMode → Bool} {pin : Nat}
    (changed : (pinMask selected 0 modes).toNat.testBit pin ≠
      (pinMask selected 0 others).toNat.testBit pin) :
    pinOfChannel? channel = some pin := by
  by_contra foreign
  apply changed
  apply Bool.eq_iff_iff.mpr
  constructor
  · exact testBit_pinMask_local apart foreign
  · exact testBit_pinMask_local (fun place other => (apart place other).symm) foreign

end Packed

/-! ## Assignments and writes -/

/-- Two assignments to one parameter whose values differ in bits of a channel only. -/
structure Assignment.SameBut (model : Model) (channel : Nat) (one other : Assignment) :
    Prop where
  parameter : one.parameter = other.parameter
  bits : ∀ bit, one.value.toNat.testBit bit ≠ other.value.toNat.testBit bit →
    model.OwnsBit channel one.parameter bit

/-- Two writes of one parameter whose values differ in bits of a channel only. -/
structure ParameterWrite.SameBut (model : Model) (channel : Nat) (one other : ParameterWrite) :
    Prop where
  range : one.range = other.range
  bits : ∀ bit, one.value.toNat.testBit bit ≠ other.value.toNat.testBit bit →
    model.OwnsBit channel one.parameter bit

theorem Assignment.SameBut.refl {model : Model} {channel : Nat} (assignment : Assignment) :
    assignment.SameBut model channel assignment :=
  ⟨rfl, fun _ changed => absurd rfl changed⟩

theorem Assignment.SameBut.checked
    {model : Model} {channel : Nat} {one other : Assignment}
    (same : one.SameBut model channel other) :
    one.checked.SameBut model channel other.checked := by
  have value (assignment : Assignment) (bit : Nat) :
      assignment.checked.value.toNat.testBit bit =
        (decide (bit < 16) && assignment.value.toNat.testBit bit) := by
    change (UInt16.ofNat assignment.value.toNat).toNat.testBit bit = _
    rw [UInt16.toNat_ofNat', Nat.testBit_mod_two_pow]
  constructor
  · change one.parameter.range?.getD ⟨one.parameter, 0, 0, 0⟩ = _
    rw [same.parameter]
    rfl
  · intro bit changed
    rw [Assignment.parameter_checked]
    apply same.bits
    intro equal
    rw [value, value, equal] at changed
    exact changed rfl

/-- Writes of a parameter in which the channel owns no bit are equal. -/
theorem ParameterWrite.SameBut.eq
    {model : Model} {channel : Nat} {one other : ParameterWrite}
    (same : one.SameBut model channel other)
    (foreign : ∀ bit, ¬ model.OwnsBit channel one.parameter bit) : one = other := by
  have value : one.value = other.value := by
    apply UInt16.toNat_inj.mp
    apply Nat.eq_of_testBit_eq
    intro bit
    by_contra changed
    exact foreign bit (same.bits bit changed)
  cases one
  cases other
  simp only [ParameterWrite.mk.injEq]
  exact ⟨same.range, value⟩

/-! ## Settings that differ in one channel -/

/-- What two settings of a channel differ in is its name, or a home that no mode uses. -/
structure ChannelSetting.AgreeStored (one other : ChannelSetting) : Prop where
  rest : other = { one with name := other.name, home := other.home }
  home : other.home = one.home ∨ one.mode = .input ∨ one.homeMode ≠ .goto

/-- Two settings that are equal outside the entry of one channel. -/
structure Settings.DifferOnlyAt (channel : Nat) (one other : Settings) : Prop where
  rest : other = { one with channels := other.channels }
  entries : ∀ place, place ≠ channel → one.channels[place]? = other.channels[place]?

theorem ChannelSetting.AgreeStored.mode
    {one other : ChannelSetting} (agree : one.AgreeStored other) : one.mode = other.mode := by
  rw [agree.rest]

theorem ChannelSetting.AgreeStored.stored
    {one other : ChannelSetting} (agree : one.AgreeStored other) (field : ServoField) :
    one.stored field = other.stored field := by
  rcases agree with ⟨rest, home⟩
  cases field with
  | home =>
      have mode : other.storedHomeMode = one.storedHomeMode := by
        rw [rest]
        rfl
      simp only [ChannelSetting.stored, mode]
      cases found : one.storedHomeMode with
      | off | ignore => rfl
      | goto =>
          have used := one.storedHomeMode_eq_goto_iff.mp found
          rw [home.resolve_right fun unused => unused.elim used.1 fun other => other used.2]
  | _ =>
      rw [rest]
      rfl

namespace Settings

variable {one other : Settings} {model : Model} {channel : Nat}

theorem modeAssignments_extended (settings : Settings) (extended : model.family = .extended) :
    settings.modeAssignments model = (List.range 6).map fun byte =>
      ⟨⟨UInt8.ofNat (12 + byte)⟩, (modeByte (settings.channels.map (·.mode)) byte).toNat⟩ := by
  simp only [modeAssignments, Model.modeParameters, extended]
  rfl

theorem modeAssignments_compact (settings : Settings) (compact : model.family = .compact) :
    settings.modeAssignments model =
      [ ⟨.ioMask, (ioMaskOf (settings.channels.map (·.mode))).toNat⟩,
        ⟨.outputMask, (outputMaskOf (settings.channels.map (·.mode))).toNat⟩ ] := by
  simp only [modeAssignments, Model.modeParameters, compact]
  rfl

/-- What holds of the values of every two entries holds of all values of channels. -/
theorem forall₂_channelAssignments {related : Assignment → Assignment → Prop}
    (count : one.channels.length = other.channels.length)
    (each : ∀ place, ∀ first second : ChannelSetting,
      one.channels[place]? = some first → other.channels[place]? = some second →
        ∀ field, related (first.assignment place field) (second.assignment place field)) :
    List.Forall₂ related one.channelAssignments other.channelAssignments := by
  have entries : List.Forall₂ (fun first second : ChannelSetting × Nat =>
        first.2 = second.2 ∧ one.channels[first.2]? = some first.1 ∧
          other.channels[second.2]? = some second.1)
      one.channels.zipIdx other.channels.zipIdx := by
    rw [List.forall₂_iff_get]
    refine ⟨by rw [List.length_zipIdx, List.length_zipIdx, count], ?_⟩
    intro place inside beside
    simp only [List.get_eq_getElem, List.getElem_zipIdx, Nat.zero_add, true_and]
    rw [List.length_zipIdx] at inside beside
    exact ⟨List.getElem?_eq_getElem inside, List.getElem?_eq_getElem beside⟩
  refine List.rel_flatMap entries ?_
  rintro ⟨first, place⟩ ⟨second, _⟩ ⟨rfl, present, beside⟩
  rw [List.forall₂_map_left_iff, List.forall₂_map_right_iff, List.forall₂_same]
  exact fun field _ => each place first second present beside field

namespace DifferOnlyAt

theorem controllerValues (differ : one.DifferOnlyAt channel other) (model : Model) :
    one.controllerValues model = other.controllerValues model := by
  rw [differ.rest]
  rfl

theorem modes
    (differ : one.DifferOnlyAt channel other) (place : Nat) (foreign : place ≠ channel) :
    (one.channels.map (·.mode))[place]? = (other.channels.map (·.mode))[place]? := by
  rw [List.getElem?_map, List.getElem?_map, differ.entries place foreign]

theorem channelAssignments (differ : one.DifferOnlyAt channel other)
    (count : one.channels.length = other.channels.length) :
    List.Forall₂ (Assignment.SameBut model channel) one.channelAssignments
      other.channelAssignments := by
  refine forall₂_channelAssignments count fun place first second present beside field => ?_
  by_cases own : place = channel
  · subst own
    exact ⟨rfl, fun bit _ => .field field bit⟩
  · rw [differ.entries place own, beside] at present
    cases present
    exact .refl _

theorem modeAssignments (differ : one.DifferOnlyAt channel other) (model : Model) :
    List.Forall₂ (Assignment.SameBut model channel) (one.modeAssignments model)
      (other.modeAssignments model) := by
  cases family : model.family with
  | compact =>
      rw [modeAssignments_compact one family, modeAssignments_compact other family]
      refine .cons ⟨rfl, fun bit changed => ?_⟩ (.cons ⟨rfl, fun bit changed => ?_⟩ .nil)
      · exact .pin family (Or.inl rfl) (pinMask_local differ.modes changed)
      · exact .pin family (Or.inr rfl) (pinMask_local differ.modes changed)
  | extended =>
      rw [modeAssignments_extended one family, modeAssignments_extended other family,
        List.forall₂_map_left_iff, List.forall₂_map_right_iff, List.forall₂_same]
      intro byte member
      have bound := List.mem_range.mp member
      refine ⟨rfl, fun bit changed => ?_⟩
      rcases modeByte_local differ.modes changed with ⟨rfl, own⟩
      refine .code family ?_ own
      exact UInt8.toNat_ofNat_of_lt' (by change _ < 256; omega)

theorem assignments (differ : one.DifferOnlyAt channel other)
    (count : one.channels.length = other.channels.length) (model : Model) :
    List.Forall₂ (Assignment.SameBut model channel) (one.assignments model)
      (other.assignments model) := by
  have controller : List.Forall₂ (Assignment.SameBut model channel)
      (one.controllerValues model) (other.controllerValues model) := by
    rw [differ.controllerValues model]
    exact List.forall₂_same.mpr fun assignment _ => .refl assignment
  exact List.rel_append (List.rel_append controller (differ.channelAssignments count))
    (differ.modeAssignments model)

/-- Entries that agree in what is stored give all registers the same values. -/
theorem assignments_eq (differ : one.DifferOnlyAt channel other)
    (count : one.channels.length = other.channels.length) {was becomes : ChannelSetting}
    (present : one.channels[channel]? = some was)
    (beside : other.channels[channel]? = some becomes)
    (agree : was.AgreeStored becomes) : one.assignments model = other.assignments model := by
  have modes : one.channels.map (·.mode) = other.channels.map (·.mode) := by
    apply List.ext_getElem?
    intro place
    by_cases own : place = channel
    · rw [List.getElem?_map, List.getElem?_map, own, present, beside, Option.map_some,
        Option.map_some, agree.mode]
    · exact differ.modes place own
  have channels : List.Forall₂ Eq one.channelAssignments other.channelAssignments := by
    refine forall₂_channelAssignments count fun place first second found found' field => ?_
    by_cases own : place = channel
    · subst own
      rw [present] at found
      rw [beside] at found'
      cases found
      cases found'
      rw [ChannelSetting.assignment, ChannelSetting.assignment, agree.stored field]
    · rw [differ.entries place own, found'] at found
      rw [Option.some.inj found]
  rw [List.forall₂_eq_eq_eq] at channels
  rw [Settings.assignments, Settings.assignments, Settings.modeAssignments,
    Settings.modeAssignments, differ.controllerValues model, channels, modes]

end DifferOnlyAt

/-- Settings that differ in one channel write the same parameters in the same order, and
the values written differ in bits of that channel only.  A name, and a home that no mode
uses, leave no trace at all. -/
theorem writes_local (model : Model) (channel : Nat) {first second : List ParameterWrite}
    (accepted : one.writes model = .ok first) (otherAccepted : other.writes model = .ok second)
    (differ : one.DifferOnlyAt channel other) :
    first.map (·.parameter) = model.writeOrder ∧
      second.map (·.parameter) = model.writeOrder ∧
      List.Forall₂ (ParameterWrite.SameBut model channel) first second ∧
      (∀ pair ∈ first.zip second,
        (∀ bit, ¬ model.OwnsBit channel pair.1.parameter bit) → pair.1 = pair.2) ∧
      (∀ was becomes, one.channels[channel]? = some was →
        other.channels[channel]? = some becomes → was.AgreeStored becomes → first = second) := by
  rcases storable_of_writes accepted with ⟨count, _, rfl⟩
  rcases storable_of_writes otherAccepted with ⟨otherCount, _, rfl⟩
  have both := count.trans otherCount.symm
  have same : List.Forall₂ (ParameterWrite.SameBut model channel)
      ((one.assignments model).map Assignment.checked)
      ((other.assignments model).map Assignment.checked) := by
    rw [List.forall₂_map_left_iff, List.forall₂_map_right_iff]
    exact (differ.assignments both model).imp fun _ _ each => each.checked
  refine ⟨map_parameter_checked count, map_parameter_checked otherCount, same, ?_, ?_⟩
  · intro pair member foreign
    exact (List.forall₂_zip same member).eq foreign
  · intro was becomes present beside agree
    rw [differ.assignments_eq both present beside agree]

/-- A new mode and a new limit of the fifth channel, then a new name of it. -/
theorem writes_local_micro6 :
    let writes (setting : ChannelSetting) : Settings :=
      { channels := (List.replicate 6 {}).set 4 setting }
    let one := writes {}
    let moved := writes { mode := .output, acceleration := 9 }
    let renamed := writes { name := "gripper" }
    ∃ first second third,
      one.writes .micro6 = .ok first ∧ moved.writes .micro6 = .ok second ∧
        renamed.writes .micro6 = .ok third ∧
        one.DifferOnlyAt 4 moved ∧ one.DifferOnlyAt 4 renamed ∧
        List.Forall₂ (ParameterWrite.SameBut .micro6 4) first second ∧
        first ≠ second ∧ first = third := by
  intro writes one moved renamed
  have differ (setting : ChannelSetting) : one.DifferOnlyAt 4 (writes setting) := by
    refine ⟨rfl, fun place foreign => ?_⟩
    change ((List.replicate 6 {}).set 4 {})[place]? =
      ((List.replicate 6 {}).set 4 setting)[place]?
    rw [List.getElem?_set_ne foreign.symm, List.getElem?_set_ne foreign.symm]
  have first : one.writes .micro6 = .ok ((one.assignments .micro6).map Assignment.checked) := by
    decide +kernel
  have second :
      moved.writes .micro6 = .ok ((moved.assignments .micro6).map Assignment.checked) := by
    decide +kernel
  have third :
      renamed.writes .micro6 = .ok ((renamed.assignments .micro6).map Assignment.checked) := by
    decide +kernel
  have changed : (one.assignments .micro6).map Assignment.checked ≠
      (moved.assignments .micro6).map Assignment.checked := by
    decide +kernel
  have same := (writes_local .micro6 4 first second (differ _)).2.2.1
  have untouched := (writes_local .micro6 4 first third (differ _)).2.2.2.2
  exact ⟨_, _, _, first, second, third, differ _, differ _, same, changed,
    untouched _ _ rfl rfl ⟨rfl, Or.inl rfl⟩⟩

end Settings

end ServoLink
