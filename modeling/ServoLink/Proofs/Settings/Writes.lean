import Mathlib.Data.List.Nodup
import Mathlib.Data.List.Flatten
import ServoLink.Proofs.Channel.ModePacking
import ServoLink.Proofs.Parameter.Write
import ServoLink.Settings.Registers

/-!
# The writes of settings

`Settings.assignments` lists the value of every register that settings determine, with
nothing checked.  The checked writes exist exactly when every value fits its register,
and then they are the writes of those values, in the same order.
-/

namespace ServoLink

/-! ## Assignments -/

/-- The parameter is known and its range admits the value. -/
def Assignment.Fits (assignment : Assignment) : Prop :=
  ∃ range, assignment.parameter.range? = some range ∧ range.Admits assignment.value

/-- The write of an assignment that fits. -/
def Assignment.checked (assignment : Assignment) : ParameterWrite :=
  .admitted (assignment.parameter.range?.getD ⟨assignment.parameter, 0, 0, 0⟩)
    assignment.value

namespace Assignment

variable {assignment : Assignment} {range : ParameterRange}

theorem checked_eq (known : assignment.parameter.range? = some range) :
    assignment.checked = .admitted range assignment.value := by
  unfold checked
  rw [known]
  rfl

theorem fits_iff (known : assignment.parameter.range? = some range) :
    assignment.Fits ↔ range.Admits assignment.value := by
  unfold Fits
  rw [known]
  simp

/-- A natural number fits a parameter that has no least value but zero. -/
theorem fits_iff_le
    {parameter : Parameter} (width : Nat) (greatest : UInt16)
    (known : parameter.range? = some ⟨parameter, width, 0, greatest⟩) (value : Nat) :
    (Assignment.mk parameter value).Fits ↔ value ≤ greatest.toNat := by
  rw [fits_iff known]
  unfold ParameterRange.Admits
  change ((0 : Nat) : Int) ≤ value ∧ (value : Int) ≤ greatest.toNat ↔ _
  omega

theorem write_settles (assignment : Assignment) {range : ParameterRange}
    (known : assignment.parameter.range? = some range) :
    Settles assignment.write assignment.Fits Error.IsValidation assignment.checked := by
  rw [checked_eq known]
  exact (ParameterWrite.make_settles known assignment.value).congr (fits_iff known).symm

theorem Fits.checked (fits : assignment.Fits) : assignment.checked.Checked := by
  obtain ⟨range, known, admits⟩ := fits
  rw [checked_eq known]
  exact ParameterWrite.checked_admitted known admits

theorem Fits.value (fits : assignment.Fits) :
    (assignment.checked.value.toNat : Int) = assignment.value := by
  obtain ⟨range, known, admits⟩ := fits
  rw [checked_eq known]
  exact ParameterWrite.value_admitted_toNat admits

theorem parameter_checked (assignment : Assignment) :
    assignment.checked.parameter = assignment.parameter := by
  unfold checked
  cases known : assignment.parameter.range? with
  | none => rfl
  | some range => exact (Parameter.wellFormed_of_range? known).names

end Assignment

/-! ## Channels -/

namespace ChannelSetting

/-- The home mode that is stored; inputs have no home. -/
def storedHomeMode (setting : ChannelSetting) : HomeMode :=
  if setting.mode = .input then .ignore else setting.homeMode

theorem storedHomeMode_eq_goto_iff (setting : ChannelSetting) :
    setting.storedHomeMode = .goto ↔ setting.mode ≠ .input ∧ setting.homeMode = .goto := by
  unfold storedHomeMode
  by_cases input : setting.mode = .input
  · simp [input]
  · simp [input]

/-- A home position does not look like a home mode. -/
def HomeFits (setting : ChannelSetting) : Prop :=
  setting.storedHomeMode = .goto → leastHome ≤ setting.home

/-- What each register of a channel gets, if it fits. -/
def stored (setting : ChannelSetting) : ServoField → Nat
  | .home =>
      match setting.storedHomeMode with
      | .off => 0
      | .ignore => 1
      | .goto => setting.home.toNat
  | .minimum => setting.minimum.toNat / 64
  | .maximum => setting.maximum.toNat / 64
  | .neutral => setting.neutral.toNat
  | .range => setting.range.toNat / 127
  | .speed => (speedRegister setting.speed).toNat
  | .acceleration => setting.acceleration.toNat

def assignment (setting : ChannelSetting) (channel : Nat) (field : ServoField) :
    Assignment :=
  ⟨.servo field channel, setting.stored field⟩

/-- Every register of a channel admits what it gets. -/
structure Storable (setting : ChannelSetting) : Prop where
  home : setting.HomeFits
  fields : ∀ field parameter,
    (ServoField.limits field parameter).Admits (setting.stored field)

theorem ofServo_eq_ok (field : ServoField) {channel : Nat} (bound : channel < maxChannels) :
    Parameter.ofServo field (UInt8.ofNat channel) = .ok (.servo field channel) := by
  have same : (UInt8.ofNat channel).toNat = channel := by
    unfold maxChannels at bound
    rw [UInt8.toNat_ofNat']
    omega
  unfold Parameter.ofServo
  rw [same, if_pos bound]

theorem homeRegister_settles
    (setting : ChannelSetting) {channel : Nat} (bound : channel < maxChannels) :
    Settles (setting.homeRegister (UInt8.ofNat channel)) setting.HomeFits
      Error.IsValidation (setting.stored .home) := by
  unfold homeRegister HomeFits stored
  change Settles (match setting.storedHomeMode with
    | .off => _
    | .ignore => _
    | .goto => _) _ _ _
  cases setting.storedHomeMode with
  | off =>
      exact (Settles.ok _).congr (by simp)
  | ignore =>
      exact (Settles.ok _).congr (by simp)
  | goto =>
      rw [ofServo_eq_ok .home bound]
      by_cases low : setting.home < leastHome
      · simp only [low, if_true]
        have fails : ¬ leastHome ≤ setting.home := UInt16.not_le.mpr low
        exact ⟨fun holds => absurd (holds trivial) fails, fun _ => ⟨_, rfl, _, rfl⟩⟩
      · simp only [low, if_false]
        exact (Settles.ok _).congr (by simpa using UInt16.not_lt.mp low)

theorem value_settles
    (setting : ChannelSetting) {channel : Nat} (bound : channel < maxChannels)
    (field : ServoField) :
    Settles (setting.value channel field) (field = .home → setting.HomeFits)
      Error.IsValidation (setting.stored field) := by
  cases field with
  | home => exact (setting.homeRegister_settles bound).congr (by simp)
  | _ => exact (Settles.ok _).congr (by simp)

theorem assignment_fits_iff
    (setting : ChannelSetting) {channel : Nat} (bound : channel < maxChannels)
    (field : ServoField) :
    (setting.assignment channel field).Fits ↔
      (field.limits (.servo field channel)).Admits (setting.stored field) :=
  Assignment.fits_iff (Parameter.range?_servo field bound)

end ChannelSetting

theorem ServoField.mem_all (field : ServoField) : field ∈ ServoField.all := by
  cases field <;> decide

theorem ServoField.limits_admits
    (field : ServoField) (first second : Parameter) (value : Int) :
    (field.limits first).Admits value ↔ (field.limits second).Admits value := by
  cases field <;> rfl

namespace ChannelSetting

theorem storable_iff (setting : ChannelSetting) {channel : Nat} (bound : channel < maxChannels) :
    setting.Storable ↔
      ∀ field ∈ ServoField.all,
        (field = .home → setting.HomeFits) ∧ (setting.assignment channel field).Fits := by
  constructor
  · intro storable field _
    exact ⟨fun _ => storable.home,
      (setting.assignment_fits_iff bound field).mpr (storable.fields field _)⟩
  · intro all
    refine ⟨(all .home (ServoField.mem_all .home)).1 rfl, fun field parameter => ?_⟩
    have fits := (all field (ServoField.mem_all field)).2
    rw [setting.assignment_fits_iff bound] at fits
    exact (field.limits_admits _ _ _).mp fits

theorem writes_settles
    (setting : ChannelSetting) {channel : Nat} (bound : channel < maxChannels) :
    Settles (setting.writes channel) setting.Storable Error.IsValidation
      (ServoField.all.map fun field => (setting.assignment channel field).checked) := by
  refine Settles.congr (Settles.mapM fun field _ => ?_) (setting.storable_iff bound).symm
  refine (setting.value_settles bound field).bind fun _ => ?_
  exact Assignment.write_settles (setting.assignment channel field)
    (Parameter.range?_servo field bound)

end ChannelSetting

/-! ## Whole settings -/

namespace Settings

variable {settings : Settings} {model : Model}

def channelAssignments (settings : Settings) : List Assignment :=
  settings.channels.zipIdx.flatMap fun entry =>
    ServoField.all.map (entry.1.assignment entry.2)

def modeAssignments (settings : Settings) (model : Model) : List Assignment :=
  (model.modeParameters.zip
    (model.family.modeValues (settings.channels.map (·.mode)))).map fun entry =>
      ⟨entry.1, entry.2.toNat⟩

/-- What every register gets, in the order of the writes. -/
def assignments (settings : Settings) (model : Model) : List Assignment :=
  settings.controllerValues model ++ settings.channelAssignments ++
    settings.modeAssignments model

end Settings

/-! ## Addresses

The parameters that are written depend on the model alone, and no two of them have the
same address. -/

namespace Model

/-- The written parameters that belong to no channel, modes apart. -/
def controllerParameters (model : Model) : List Parameter :=
  [.serialMode, .fixedBaudRate, .enableCrc, .neverSuspend, .serialDeviceNumber,
    .miniSscOffset, .serialTimeout, .scriptDone] ++
  (match model.family with
    | .compact => [.servosAvailable, .servoPeriod]
    | .extended => [.miniServoPeriodLow, .miniServoPeriodHigh, .servoMultiplier]) ++
  if model.hasPullups then [.enablePullups] else []

def channelParameters (model : Model) : List Parameter :=
  (List.range model.channelCount).flatMap fun channel =>
    ServoField.all.map fun field => .servo field channel

/-- The parameters that settings write, in order. -/
def writeOrder (model : Model) : List Parameter :=
  model.controllerParameters ++ model.channelParameters ++ model.modeParameters

theorem channelCount_le (model : Model) : model.channelCount ≤ maxChannels := by
  cases model <;> decide

theorem mem_channelParameters_iff {model : Model} {parameter : Parameter} :
    parameter ∈ model.channelParameters ↔
      ∃ channel field, channel < model.channelCount ∧
        parameter = .servo field channel := by
  unfold channelParameters
  simp only [List.mem_flatMap, List.mem_range, List.mem_map]
  constructor
  · rintro ⟨channel, bound, field, _, rfl⟩
    exact ⟨channel, field, bound, rfl⟩
  · rintro ⟨channel, field, bound, rfl⟩
    exact ⟨channel, bound, field, field.mem_all, rfl⟩

theorem channelParameters_nodup (model : Model) : model.channelParameters.Nodup := by
  have small := model.channelCount_le
  have fields : ServoField.all.Nodup := by
    decide
  unfold channelParameters
  rw [List.nodup_flatMap]
  constructor
  · intro channel member
    have bound := List.mem_range.mp member
    refine fields.map_on fun first _ second _ equal => ?_
    exact (Parameter.servo_injective (by omega) (by omega) equal).1
  · refine List.nodup_range.imp_of_mem fun {channel other} member otherMember different => ?_
    have bound := List.mem_range.mp member
    have otherBound := List.mem_range.mp otherMember
    intro parameter inside outside
    obtain ⟨first, _, rfl⟩ := List.mem_map.mp inside
    obtain ⟨second, _, equal⟩ := List.mem_map.mp outside
    exact different (Parameter.servo_injective (by omega) (by omega) equal).2.symm

/-- Controller and mode parameters are rows of the table. -/
theorem sharedParameters_nodup (model : Model) :
    (model.controllerParameters ++ model.modeParameters).Nodup := by
  cases model <;> decide

theorem id_lt_of_mem_shared {model : Model} :
    ∀ parameter ∈ model.controllerParameters ++ model.modeParameters,
      parameter.id.toNat < 30 := by
  cases model <;> decide

theorem writeOrder_nodup (model : Model) : model.writeOrder.Nodup := by
  have perm : model.writeOrder.Perm
      ((model.controllerParameters ++ model.modeParameters) ++ model.channelParameters) := by
    unfold writeOrder
    rw [List.append_assoc, List.append_assoc]
    exact List.perm_append_comm.append_left _
  rw [perm.nodup_iff]
  refine model.sharedParameters_nodup.append model.channelParameters_nodup ?_
  intro parameter shared inside
  have below := id_lt_of_mem_shared parameter shared
  obtain ⟨channel, field, bound, rfl⟩ := mem_channelParameters_iff.mp inside
  rw [Parameter.id_servo_toNat field (by have := model.channelCount_le; omega)] at below
  omega

/-- Settings are read from the parameters that they write. -/
theorem mem_readOrder_iff {model : Model} {parameter : Parameter} :
    parameter ∈ model.readOrder ↔ parameter ∈ model.writeOrder := by
  unfold readOrder writeOrder controllerParameters channelParameters
  cases family : model.family <;> simp [or_comm, or_left_comm]

end Model

/-! ## The verdict on settings -/

namespace Model

theorem known_of_mem_controllerParameters (model : Model) :
    ∀ parameter ∈ model.controllerParameters, parameter.range?.isSome := by
  cases model <;> decide

theorem range?_of_mem_modeParameters {model : Model} :
    ∀ parameter ∈ model.modeParameters, parameter.range? = some ⟨parameter, 1, 0, 0xFF⟩ := by
  cases model <;> decide

theorem known_of_mem_writeOrder {model : Model} {parameter : Parameter}
    (member : parameter ∈ model.writeOrder) :
    ∃ range, parameter.range? = some range := by
  have small := model.channelCount_le
  rcases List.mem_append.mp member with shared | mode
  · rcases List.mem_append.mp shared with controller | channel
    · exact Option.isSome_iff_exists.mp
        (model.known_of_mem_controllerParameters parameter controller)
    · obtain ⟨channel, field, bound, rfl⟩ := mem_channelParameters_iff.mp channel
      exact ⟨_, Parameter.range?_servo field (by omega)⟩
  · exact ⟨_, range?_of_mem_modeParameters parameter mode⟩

end Model

namespace Settings

variable {settings : Settings} {model : Model}

theorem map_parameter_controllerValues (settings : Settings) (model : Model) :
    (settings.controllerValues model).map (·.parameter) = model.controllerParameters := by
  cases model <;> rfl

theorem map_parameter_channelAssignments
    (count : settings.channels.length = model.channelCount) :
    settings.channelAssignments.map (·.parameter) = model.channelParameters := by
  unfold channelAssignments Model.channelParameters
  rw [List.map_flatMap, ← count, List.range_eq_range', ← List.zipIdx_map_snd,
    List.flatMap_map]
  simp only [List.map_map]
  rfl

theorem map_parameter_modeAssignments (settings : Settings) (model : Model) :
    (settings.modeAssignments model).map (·.parameter) = model.modeParameters := by
  cases model <;> rfl

theorem map_parameter_assignments
    (count : settings.channels.length = model.channelCount) :
    (settings.assignments model).map (·.parameter) = model.writeOrder := by
  unfold assignments Model.writeOrder
  rw [List.map_append, List.map_append, map_parameter_controllerValues,
    map_parameter_channelAssignments count, map_parameter_modeAssignments]

theorem controllerValues_known {assignment : Assignment}
    (member : assignment ∈ settings.controllerValues model) :
    ∃ range, assignment.parameter.range? = some range := by
  refine Option.isSome_iff_exists.mp
    (model.known_of_mem_controllerParameters _ ?_)
  rw [← map_parameter_controllerValues settings model]
  exact List.mem_map_of_mem member

theorem modeAssignment_fits {assignment : Assignment}
    (member : assignment ∈ settings.modeAssignments model) : assignment.Fits := by
  obtain ⟨entry, paired, rfl⟩ := List.mem_map.mp member
  have known := Model.range?_of_mem_modeParameters entry.1 (List.of_mem_zip paired).1
  have below := Family.modeValues_lt (List.of_mem_zip paired).2
  exact (Assignment.fits_iff_le 1 0xFF known _).mpr (Nat.le_of_lt_succ below)

/-- Every register of the model admits what the settings give it. -/
structure Storable (settings : Settings) (model : Model) : Prop where
  controller : ∀ assignment ∈ settings.controllerValues model, assignment.Fits
  channels : ∀ setting ∈ settings.channels, setting.Storable

theorem controllerWrites_settles (settings : Settings) (model : Model) :
    Settles ((settings.controllerValues model).mapM Assignment.write)
      (∀ assignment ∈ settings.controllerValues model, assignment.Fits)
      Error.IsValidation ((settings.controllerValues model).map Assignment.checked) := by
  refine Settles.mapM fun assignment member => ?_
  obtain ⟨range, known⟩ := controllerValues_known member
  exact assignment.write_settles known

theorem channelWrites_settles (few : settings.channels.length ≤ maxChannels) :
    Settles (settings.channels.zipIdx.mapM fun entry => entry.1.writes entry.2)
      (∀ setting ∈ settings.channels, setting.Storable) Error.IsValidation
      (settings.channels.zipIdx.map fun entry =>
        ServoField.all.map fun field => (entry.1.assignment entry.2 field).checked) := by
  have each : Settles (settings.channels.zipIdx.mapM fun entry => entry.1.writes entry.2)
      (∀ entry ∈ settings.channels.zipIdx, entry.1.Storable) Error.IsValidation
      (settings.channels.zipIdx.map fun entry =>
        ServoField.all.map fun field => (entry.1.assignment entry.2 field).checked) := by
    refine Settles.mapM fun entry member => ?_
    have bound := List.snd_lt_of_mem_zipIdx member
    exact entry.1.writes_settles (by omega)
  refine each.congr ⟨fun storable setting member => ?_, fun storable entry member => ?_⟩
  · obtain ⟨place, inside, rfl⟩ := List.getElem_of_mem member
    exact storable (settings.channels[place], place)
      (List.mk_mem_zipIdx_iff_getElem?.mpr (List.getElem?_eq_getElem inside))
  · exact storable entry.1 (List.fst_mem_of_mem_zipIdx member)

/-- Packed modes always fit. -/
theorem modeWrites_settles (settings : Settings) (model : Model) :
    Settles
      ((model.modeParameters.zip
        (model.family.modeValues (settings.channels.map (·.mode)))).mapM fun entry =>
          Assignment.write ⟨entry.1, entry.2.toNat⟩)
      True Error.IsValidation ((settings.modeAssignments model).map Assignment.checked) := by
  unfold modeAssignments
  rw [List.map_map]
  refine Settles.congr (Settles.mapM fun entry member => ?_)
    (iff_true_intro fun _ _ => True.intro)
  have fits : (Assignment.mk entry.1 entry.2.toNat).Fits :=
    modeAssignment_fits (List.mem_map_of_mem member)
  obtain ⟨range, known, _⟩ := id fits
  exact (Assignment.write_settles ⟨entry.1, entry.2.toNat⟩ known).congr
    (iff_true_intro fits)

theorem map_checked_assignments (settings : Settings) (model : Model) :
    (settings.assignments model).map Assignment.checked =
      (settings.controllerValues model).map Assignment.checked ++
        (settings.channels.zipIdx.map fun entry =>
          ServoField.all.map fun field =>
            (entry.1.assignment entry.2 field).checked).flatten ++
        (settings.modeAssignments model).map Assignment.checked := by
  unfold assignments channelAssignments
  rw [List.map_append, List.map_append, List.map_flatMap, List.flatMap_def]
  simp only [List.map_map]
  rfl

/-- With one entry per channel, the writes are those of all assignments, and a refusal
is always that of a bad value. -/
theorem writes_settles (count : settings.channels.length = model.channelCount) :
    Settles (settings.writes model) (settings.Storable model) Error.IsValidation
      ((settings.assignments model).map Assignment.checked) := by
  have controller := controllerWrites_settles settings model
  have channels := channelWrites_settles (Nat.le_trans (Nat.le_of_eq count) model.channelCount_le)
  have packed : Settles
      ((model.family.packModes (settings.channels.map (·.mode))).mapError Error.protocol)
      True Error.IsValidation
      (model.family.modeValues (settings.channels.map (·.mode))) := by
    rw [Model.packModes_eq (by rw [List.length_map, count])]
    exact Settles.ok _
  have modes := modeWrites_settles settings model
  have storable : settings.Storable model ↔
      (∀ assignment ∈ settings.controllerValues model, assignment.Fits) ∧
        (∀ setting ∈ settings.channels, setting.Storable) ∧ True ∧ True ∧ True := by
    constructor
    · intro accepted
      exact ⟨accepted.controller, accepted.channels, by simp⟩
    · rintro ⟨controllerFits, channelsFit, _⟩
      exact ⟨controllerFits, channelsFit⟩
  unfold writes
  rw [if_neg (not_not.mpr count), map_checked_assignments]
  refine Settles.congr (controller.bind fun _ => channels.bind fun _ =>
    packed.bind fun _ => modes.bind fun _ => ?_) storable.symm
  exact Settles.pure _

theorem assignments_fit
    (count : settings.channels.length = model.channelCount)
    (storable : settings.Storable model) :
    ∀ assignment ∈ settings.assignments model, assignment.Fits := by
  have small := model.channelCount_le
  intro assignment member
  unfold assignments at member
  rcases List.mem_append.mp member with front | mode
  · rcases List.mem_append.mp front with controller | channel
    · exact storable.controller assignment controller
    · obtain ⟨⟨setting, place⟩, used, inside⟩ := List.mem_flatMap.mp channel
      obtain ⟨field, _, rfl⟩ := List.mem_map.mp inside
      have bound := List.snd_lt_of_mem_zipIdx used
      have kept := storable.channels setting (List.fst_mem_of_mem_zipIdx used)
      exact (setting.assignment_fits_iff (by omega) field).mpr (kept.fields field _)
  · exact modeAssignment_fits mode

theorem assignments_checked
    (count : settings.channels.length = model.channelCount)
    (storable : settings.Storable model) :
    ∀ write ∈ (settings.assignments model).map Assignment.checked, write.Checked := by
  intro write member
  obtain ⟨assignment, inside, rfl⟩ := List.mem_map.mp member
  exact (assignments_fit count storable assignment inside).checked

theorem map_parameter_checked (count : settings.channels.length = model.channelCount) :
    ((settings.assignments model).map Assignment.checked).map (·.parameter) =
      model.writeOrder := by
  rw [← map_parameter_assignments count, List.map_map]
  exact List.map_congr_left fun assignment _ => assignment.parameter_checked

theorem writes_apart (count : settings.channels.length = model.channelCount) :
    (((settings.assignments model).map Assignment.checked).map (·.parameter)).Nodup := by
  rw [map_parameter_checked count]
  exact model.writeOrder_nodup

/-- Settings whose writes exist are storable, and the writes are those of all assignments. -/
theorem storable_of_writes {writes : List ParameterWrite}
    (accepted : settings.writes model = .ok writes) :
    settings.channels.length = model.channelCount ∧ settings.Storable model ∧
      writes = (settings.assignments model).map Assignment.checked := by
  by_cases count : settings.channels.length = model.channelCount
  · obtain ⟨storable, same⟩ := (writes_settles count).eq_ok_iff.mp accepted
    exact ⟨count, storable, same⟩
  · unfold Settings.writes at accepted
    rw [if_pos count] at accepted
    cases accepted

end Settings

end ServoLink
