import ServoLink.Proofs.Session.Calls
import ServoLink.Proofs.Session.Refusal

/-!
# Every call is well formed

Whatever a session is asked to do and whatever the device answers, each call is one that
firmware of the model understands: parameters are known and their values in range,
channels and blocks exist, and status is asked for with the request and the length that
belong to its kind.
-/

namespace ServoLink

/-! ## Well-formed calls -/

/-- The programs that a command may write. -/
def Command.programs : Command → List Program
  | .uploadScript program _ => [program]
  | .applySettings settings _ => settings.program.toList
  | _ => []

/-- The kind of status that a command asks for, if it asks for any: a reload fetches the
variables. -/
def Command.statusKind : Command → StatusKind
  | .readStatus kind => kind
  | _ => .deviceVariables

/-- A block of the image of some program on the model; code lies below the table. -/
inductive Program.HasBlock (model : Model) (program : Program) (block : ScriptBlock) : Prop where
  | code (image : ScriptImage) (built : ScriptImage.build program model = .ok image)
      (member : block ∈ image.codeBlocks)
      (below : block.index.toNat < model.tableBlock.toNat)
  | table (image : ScriptImage) (built : ScriptImage.build program model = .ok image)
      (member : block ∈ image.tableBlocks)
      (above : model.tableBlock.toNat ≤ block.index.toNat)

namespace Request

/-- What a request says when it goes to a device.  Nothing is sent for a request that
reads. -/
def Sends (model : Model) (command : Command) (setup : Setup) (payload : List UInt8) :
    Request → Prop
  | setParameter =>
      payload = [] ∧ ∃ range, (Parameter.mk setup.index.toUInt8).range = .ok range ∧
        (setup.index >>> 8).toNat = range.width ∧
        range.least ≤ setup.value ∧ setup.value ≤ range.greatest
  | writeScript =>
      setup.value = 0 ∧ payload.length = 16 ∧
        setup.index.toNat < model.tableBlock.toNat + 16 ∧
        ∃ program ∈ command.programs, program.HasBlock model ⟨setup.index, payload⟩
  | setTarget => payload = [] ∧ setup.index.toNat < model.channelCount
  | setServoVariable =>
      payload = [] ∧ (setup.index &&& ~~~0x80).toNat < model.channelCount ∧
        setup.index.toNat < 256 ∧
        (setup.index.toNat.testBit 7 = true ↔
          ∃ channel acceleration, command = .setAcceleration channel acceleration)
  | setPwm => payload = [] ∧ model.isCompact = false
  | getParameter | getVariables | getServoSettings | getStack | getCallStack => False
  | _ => payload = []

/-- What a request says when it asks for a reply of some length. -/
def Reads (model : Model) (command : Command) (setup : Setup) (length : Nat) :
    Request → Prop
  | getParameter =>
      setup.value = 0 ∧ ∃ (parameter : Parameter) (range : ParameterRange),
        parameter.range = .ok range ∧ setup.index = parameter.id.toUInt16 ∧ length = range.width
  | called =>
      setup.value = 0 ∧ setup.index = 0 ∧
        model.statusQuery command.statusKind = ⟨called, length⟩

theorem code_injective {first second : Request} (same : first.code = second.code) :
    first = second := by
  cases first <;> cases second <;> first | rfl | cases same

end Request

/-- A call that a command may make on a model: a vendor request that says what its code
asks for, or the read of the device descriptor. -/
inductive Call.WellFormed (model : Model) (command : Command) : Call → Prop where
  | send (setup : Setup) (payload : List UInt8)
      (vendor : setup.kind = .vendor)
      (known : ∃ called : Request, setup.request = called.code)
      (fits : ∀ called : Request, setup.request = called.code →
        called.Sends model command setup payload) :
      WellFormed model command (.send setup payload)
  | receive (setup : Setup) (length : Nat)
      (vendor : setup.kind = .vendor)
      (known : ∃ called : Request, setup.request = called.code)
      (fits : ∀ called : Request, setup.request = called.code →
        called.Reads model command setup length) :
      WellFormed model command (.receive setup length)
  | descriptor : WellFormed model command (.receive Controller.descriptorQuery 18)

/-! ## The calls, one kind after the other -/

namespace Call

variable {model : Model} {command : Command} {value index : UInt16}

theorem wellFormed_send
    {called : Request} {payload : List UInt8}
    (fits : called.Sends model command (called.setup value index) payload) :
    (Call.send (called.setup value index) payload).WellFormed model command := by
  refine .send _ _ rfl ⟨called, rfl⟩ fun other same => ?_
  rw [← Request.code_injective same]
  exact fits

theorem wellFormed_receive
    {called : Request} {length : Nat}
    (fits : called.Reads model command (called.setup value index) length) :
    (Call.receive (called.setup value index) length).WellFormed model command := by
  refine .receive _ _ rfl ⟨called, rfl⟩ fun other same => ?_
  rw [← Request.code_injective same]
  exact fits

theorem wellFormed_write {checked : ParameterWrite} (valid : checked.Checked) :
    (write checked).WellFormed model command := by
  have inside := valid.admits
  unfold ParameterRange.Admits at inside
  refine wellFormed_send ⟨rfl, checked.range, ?_, valid.widthField, ?_, ?_⟩
  · change (Parameter.mk checked.setup.index.toUInt8).range = _
    rw [valid.address]
    exact Parameter.range_eq_ok valid.known
  · exact UInt16.le_iff_toNat_le.mpr (Int.ofNat_le.mp inside.1)
  · exact UInt16.le_iff_toNat_le.mpr (Int.ofNat_le.mp inside.2)

theorem wellFormed_of_mem_queryCalls (parameter : Parameter) :
    ∀ call ∈ parameter.queryCalls, call.WellFormed model command := by
  apply Controller.forall_mem_queryCalls
  intro range known
  exact wellFormed_receive ⟨rfl, parameter, range, known, rfl, rfl⟩

theorem wellFormed_status (model : Model) (command : Command) :
    (status model command.statusKind).WellFormed model command := by
  have reads : (model.statusQuery command.statusKind).request ≠ .getParameter := by
    generalize command.statusKind = kind
    cases model <;> cases kind <;> decide
  apply wellFormed_receive
  unfold Request.Reads
  split
  · exact absurd ‹_› reads
  · exact ⟨rfl, rfl, rfl⟩

theorem wellFormed_block
    {program : Program} {image : ScriptImage} {written : ScriptBlock}
    (given : program ∈ command.programs)
    (built : ScriptImage.build program model = .ok image)
    (member : written ∈ image.blocks) :
    (block written).WellFormed model command := by
  obtain ⟨fits, rfl⟩ := ScriptImage.layout_of_build built
  have length := ScriptImage.data_length_of_mem_blocks member
  rcases List.mem_append.mp member with table | code
  · obtain ⟨above, below⟩ := ScriptImage.index_of_mem_tableBlocks table
    exact wellFormed_send
      ⟨rfl, length, below, program, given, .table _ built table above⟩
  · have below := ScriptImage.index_lt_of_mem_codeBlocks fits code
    exact wellFormed_send
      ⟨rfl, length, by change written.index.toNat < _; omega, program, given,
        .code _ built code below⟩

end Call

/-! ## The calls of a command -/

namespace Controller

variable {model : Model} {command : Command}

theorem wellFormed_of_mem_reloadCalls (fetches : command.statusKind = .deviceVariables) :
    ∀ call ∈ reloadCalls model, call.WellFormed model command := by
  apply forall_mem_reloadCalls
  · exact Call.wellFormed_send rfl
  · rw [← fetches]
    exact Call.wellFormed_status model command

theorem wellFormed_of_mem_uploadCalls
    {program : Program} {image : ScriptImage} {withChecksum : Bool}
    (fetches : command.statusKind = .deviceVariables)
    (given : program ∈ command.programs)
    (built : ScriptImage.build program model = .ok image) :
    ∀ call ∈ uploadCalls model program image withChecksum, call.WellFormed model command := by
  have closing : ∀ call ∈ closingCalls model program withChecksum,
      call.WellFormed model command :=
    forall_mem_closingCalls (Call.wellFormed_write (checksumAssignment_fits program).checked)
      (wellFormed_of_mem_reloadCalls fetches)
  simp only [uploadCalls, List.forall_mem_cons, List.forall_mem_append, List.forall_mem_map]
  refine ⟨Call.wellFormed_send rfl, Call.wellFormed_send rfl, ?_, closing⟩
  intro block member
  exact Call.wellFormed_block given built member

theorem wellFormed_of_mem_channelCalls
    {channel : UInt8} {called : Request} {value index : UInt16}
    (fits : channel.toNat < model.channelCount →
      called.Sends model command (called.setup value index) []) :
    ∀ call ∈ channelCalls model channel called value index, call.WellFormed model command := by
  apply forall_mem_channelCalls
  intro inside
  exact Call.wellFormed_send (fits inside)

/-! ### The bit that selects acceleration -/

theorem toNat_clearFlag {index : UInt16} (small : index.toNat < 256) :
    (index &&& ~~~0x80).toNat = index.toNat % 128 := by
  have masked : ∀ number : Fin 256, number.val &&& 65407 = number.val % 128 := by
    decide +kernel
  rw [UInt16.toNat_and]
  exact masked ⟨index.toNat, small⟩

theorem toNat_withFlag (channel : UInt8) (small : channel.toNat < 128) :
    (channel.toUInt16 ||| accelerationFlag).toNat = channel.toNat + 128 := by
  have joined := Nat.shiftLeft_add_eq_or_of_lt (i := 7) small 1
  have flag : accelerationFlag.toNat = 1 <<< 7 := rfl
  have value : 1 <<< 7 = 128 := rfl
  rw [UInt16.toNat_or, UInt8.toNat_toUInt16, flag, Nat.or_comm, ← joined, value]
  omega

theorem testBit_seven_iff {number : Nat} (small : number < 256) :
    number.testBit 7 = true ↔ 128 ≤ number := by
  rw [Nat.testBit_eq_decide_div_mod_eq, decide_eq_true_iff]
  change number / 128 % 2 = 1 ↔ _
  omega

theorem sends_setSpeed
    {channel : UInt8} (speed : UInt16) (known : channel.toNat < model.channelCount) :
    Request.setServoVariable.Sends model (.setSpeed channel speed)
      (Request.setServoVariable.setup speed channel.toUInt16) [] := by
  have few := model.channelCount_le
  have number : channel.toUInt16.toNat = channel.toNat := UInt8.toNat_toUInt16 channel
  have small : channel.toUInt16.toNat < 256 := by
    rw [number]
    exact channel.toNat_lt
  refine ⟨rfl, ?_, small, ?_⟩
  · change (channel.toUInt16 &&& ~~~0x80).toNat < _
    rw [toNat_clearFlag small, number]
    exact Nat.lt_of_le_of_lt (Nat.mod_le _ _) known
  · change channel.toUInt16.toNat.testBit 7 = true ↔ _
    rw [testBit_seven_iff small, number]
    constructor
    · intro flagged
      have below : channel.toNat < 24 := Nat.lt_of_lt_of_le known few
      omega
    · rintro ⟨_, _, same⟩
      cases same

theorem sends_setAcceleration
    {channel : UInt8} (acceleration : UInt16) (known : channel.toNat < model.channelCount) :
    Request.setServoVariable.Sends model (.setAcceleration channel acceleration)
      (Request.setServoVariable.setup acceleration (channel.toUInt16 ||| accelerationFlag))
      [] := by
  have few : channel.toNat < 24 := Nat.lt_of_lt_of_le known model.channelCount_le
  have number := toNat_withFlag channel (by omega)
  have small : (channel.toUInt16 ||| accelerationFlag).toNat < 256 := by omega
  refine ⟨rfl, ?_, small, ?_⟩
  · change ((channel.toUInt16 ||| accelerationFlag) &&& ~~~0x80).toNat < _
    rw [toNat_clearFlag small, number]
    omega
  · change (channel.toUInt16 ||| accelerationFlag).toNat.testBit 7 = true ↔ _
    rw [testBit_seven_iff small, number]
    exact iff_of_true (by omega) ⟨channel, acceleration, rfl⟩

theorem sends_setTarget
    {channel : UInt8} (target : UInt16) (known : channel.toNat < model.channelCount) :
    Request.setTarget.Sends model command
      (Request.setTarget.setup target channel.toUInt16) [] := by
  refine ⟨rfl, ?_⟩
  change channel.toUInt16.toNat < _
  rw [UInt8.toNat_toUInt16]
  exact known

/-- Every call of a command is well formed. -/
theorem wellFormed_of_mem_calls (controller : Controller) (command : Command) :
    ∀ call ∈ controller.calls command, call.WellFormed controller.model command := by
  have single {called : Request} {value index : UInt16}
      (fits : called.Sends controller.model command (called.setup value index) []) :
      ∀ call ∈ [Call.request called value index],
        call.WellFormed controller.model command :=
    List.forall_mem_singleton.mpr (Call.wellFormed_send fits)
  cases command with
  | setRawParameter parameter value =>
      apply forall_mem_callsAfter
      intro write made
      exact List.forall_mem_singleton.mpr
        (Call.wellFormed_write (ParameterWrite.checked_of_make made))
  | getRawParameter parameter => exact Call.wellFormed_of_mem_queryCalls parameter
  | applySettings settings upload =>
      rcases controller.calls_applySettings settings upload with
        refused | ⟨writes, checked, listed | ⟨program, image, present, built, listed⟩⟩
      · rw [refused]
        exact List.forall_mem_nil _
      · rw [listed, List.forall_mem_map]
        exact fun write member => Call.wellFormed_write (checked write member)
      · have given : program ∈ (Command.applySettings settings upload).programs :=
          Option.mem_toList.mpr present
        rw [listed, List.forall_mem_append, List.forall_mem_map]
        exact ⟨fun write member => Call.wellFormed_write (checked write member),
          wellFormed_of_mem_uploadCalls rfl given built⟩
  | readSettings =>
      intro call member
      obtain ⟨parameter, _, inside⟩ := List.mem_flatMap.mp member
      exact Call.wellFormed_of_mem_queryCalls parameter call inside
  | readStatus kind =>
      exact List.forall_mem_singleton.mpr (Call.wellFormed_status _ (.readStatus kind))
  | setTarget channel target =>
      exact wellFormed_of_mem_channelCalls fun known => sends_setTarget target known
  | setSpeed channel speed =>
      exact wellFormed_of_mem_channelCalls fun known => sends_setSpeed speed known
  | setAcceleration channel acceleration =>
      exact wellFormed_of_mem_channelCalls fun known => sends_setAcceleration acceleration known
  | eraseScript => exact single rfl
  | uploadScript program withChecksum =>
      apply forall_mem_callsAfter
      intro image built
      exact wellFormed_of_mem_uploadCalls rfl List.mem_cons_self built
  | restartScriptAt subroutine parameter =>
      cases parameter with
      | none => exact single rfl
      | some value => exact single rfl
  | restartScript => exact single rfl
  | setScriptState state => exact single rfl
  | clearErrors => exact single rfl
  | startBootloader => exact single rfl
  | setPwm dutyCycle period =>
      cases compact : controller.model.isCompact with
      | true => simp [calls, compact]
      | false =>
          have sent : controller.calls (.setPwm dutyCycle period) =
              [.request .setPwm dutyCycle period] := by
            simp [calls, compact]
          rw [sent]
          exact single ⟨rfl, compact⟩
  | disablePwm =>
      cases compact : controller.model.isCompact with
      | true => simp [calls, compact]
      | false =>
          have sent : controller.calls .disablePwm =
              channelCalls controller.model (pwmOffChannel controller.model) .setTarget 0
                (pwmOffChannel controller.model).toUInt16 := by
            simp [calls, compact]
          rw [sent]
          exact wellFormed_of_mem_channelCalls fun known => sends_setTarget 0 known
  | reload => exact wellFormed_of_mem_reloadCalls rfl
  | restoreDefaults =>
      unfold calls
      rw [List.forall_mem_cons]
      refine ⟨Call.wellFormed_send ?_, wellFormed_of_mem_reloadCalls rfl⟩
      exact ⟨rfl, _, rfl, by decide, by decide, by decide⟩
  | firmwareVersion => exact List.forall_mem_singleton.mpr .descriptor

end Controller

/-! ## The calls of a run -/

namespace Session

variable {δ : Type} [Transport δ]

/-- A command adds well-formed calls to those that a monitor has seen. -/
theorem monitored_perform (session : Session (Monitored δ)) (command : Command) :
    ∃ made, (session.perform command).2.line.device.calls = session.line.device.calls ++ made ∧
      ∀ call ∈ made, call.WellFormed session.controller.model command := by
  have within := (session.controller.perform_follows command).within
    (session.controller.wellFormed_of_mem_calls command)
  have extended {made : List Call} {last : Call}
      (before : ∀ call ∈ made, call.WellFormed session.controller.model command)
      (asked : last.WellFormed session.controller.model command) :
      ∀ call ∈ made ++ [last], call.WellFormed session.controller.model command :=
    List.forall_mem_append.mpr ⟨before, List.forall_mem_singleton.mpr asked⟩
  rw [perform_eq]
  refine Exchange.run_keeps
    (fun device : Monitored δ => ∃ made, device.calls = session.line.device.calls ++ made ∧
      ∀ call ∈ made, call.WellFormed session.controller.model command) within ?_ ?_ ?_
  · rintro setup payload device asked ⟨made, seen, before⟩
    refine ⟨made ++ [.send setup payload], ?_, extended before asked⟩
    change device.calls ++ _ = _
    rw [seen, List.append_assoc]
  · rintro setup length device asked ⟨made, seen, before⟩
    refine ⟨made ++ [.receive setup length], ?_, extended before asked⟩
    change device.calls ++ _ = _
    rw [seen, List.append_assoc]
  · exact ⟨[], (List.append_nil _).symm, List.forall_mem_nil _⟩

/-- The session whose device a monitor watches. -/
def bare (session : Session (Monitored δ)) : Session δ where
  controller := session.controller
  line := Monitored.bare session.line
  timeout := session.timeout

theorem bare_performAll (session : Session (Monitored δ)) (commands : List Command) :
    (session.performAll commands).bare = session.bare.performAll commands := by
  induction commands generalizing session with
  | nil =>
      rfl
  | cons command rest inductionHypothesis =>
      have step : (session.perform command).2.bare = (session.bare.perform command).2 := by
        rw [perform_eq, perform_eq]
        change _ = { session.bare with line :=
          ((session.controller.perform command).run (Monitored.bare session.line)).2 }
        rw [Monitored.run_bare]
        rfl
      rw [performAll_cons, inductionHypothesis, step]
      rfl

theorem monitored_performAll (session : Session (Monitored δ)) (commands : List Command) :
    ∃ segments : List (List Call),
      (session.performAll commands).line.device.calls =
        session.line.device.calls ++ segments.flatten ∧
      List.Forall₂ (fun command segment =>
          ∀ call ∈ segment, call.WellFormed session.controller.model command)
        commands segments := by
  induction commands generalizing session with
  | nil =>
      exact ⟨[], (List.append_nil _).symm, .nil⟩
  | cons command rest inductionHypothesis =>
      obtain ⟨made, seen, wellFormed⟩ := session.monitored_perform command
      obtain ⟨segments, later, each⟩ := inductionHypothesis (session.perform command).2
      refine ⟨made :: segments, ?_, .cons wellFormed each⟩
      rw [performAll_cons, later, seen, List.flatten_cons, List.append_assoc]

/-- A monitor on the device of any run sees well-formed calls only, those of each command
in turn, and the run is the same as without it. -/
theorem calls_wellFormed (session : Session δ) (commands : List Command) :
    (∃ segments : List (List Call),
      (session.monitored.performAll commands).line.device.calls = segments.flatten ∧
      List.Forall₂ (fun command segment =>
          ∀ call ∈ segment, call.WellFormed session.controller.model command)
        commands segments) ∧
    (session.monitored.performAll commands).bare = session.performAll commands :=
  ⟨session.monitored.monitored_performAll commands,
    session.monitored.bare_performAll commands⟩

end Session

end ServoLink
