import ServoLink.Proofs.Device.FaultyBus
import ServoLink.Proofs.Session.WellFormed

/-!
# Script memory at every point of a run

Commands may be interrupted at any transfer and followed by others.  Still, script memory
never holds blocks of two programs, and every block is written after the script has been
stopped and erased, with nothing between but blocks that have other numbers.

The first is an invariant of the device.  The second is a property of traces that a trace
has if two parts of it have it, so it follows from that of each command's calls.
-/

namespace ServoLink

/-! ## Traces in which blocks follow an erasure -/

/-- What comes before the write of a block: the script is stopped and erased, and then
only blocks with other numbers are written. -/
def Prepared (earlier : List Setup) (write : Setup) : Prop :=
  ∃ before stop erase writes, earlier = before ++ stop :: erase :: writes ∧
    (stop.request = Request.setScriptDone.code ∧ stop.value = 1) ∧
    erase.request = Request.eraseScript.code ∧
    (∀ setup ∈ writes, setup.request = Request.writeScript.code) ∧
    ((writes ++ [write]).map (·.index)).Nodup

/-- Every write of a block is prepared. -/
def Orderly (trace : List Setup) : Prop :=
  ∀ earlier write later, trace = earlier ++ write :: later →
    write.request = Request.writeScript.code → Prepared earlier write

section Trace

variable {trace more : List Setup}

theorem Prepared.append_left
    {earlier : List Setup} {write : Setup}
    (prepared : Prepared earlier write) (front : List Setup) :
    Prepared (front ++ earlier) write := by
  obtain ⟨before, stop, erase, writes, equal, rest⟩ := prepared
  exact ⟨front ++ before, stop, erase, writes, by rw [equal, List.append_assoc], rest⟩

theorem orderly_of_quiet
    (quiet : ∀ setup ∈ trace, setup.request ≠ Request.writeScript.code) : Orderly trace := by
  intro earlier write later equal writes
  have member : write ∈ trace := by
    rw [equal]
    exact List.mem_append_right earlier List.mem_cons_self
  exact absurd writes (quiet write member)

theorem orderly_of_isPrefix
    (orderly : Orderly trace) (inside : more <+: trace) : Orderly more := by
  obtain ⟨rest, whole⟩ := inside
  intro earlier write later equal writes
  apply orderly earlier write (later ++ rest) _ writes
  rw [← whole, equal, List.append_assoc]
  rfl

theorem Orderly.append (first : Orderly trace) (second : Orderly more) :
    Orderly (trace ++ more) := by
  intro earlier write later equal writes
  rcases List.append_eq_append_iff.mp equal with
    ⟨shared, early, late⟩ | ⟨shared, early, late⟩
  · rw [early]
    exact (second shared write later late writes).append_left trace
  · cases shared with
    | nil =>
        have same : earlier = trace := by rw [early, List.append_nil]
        rw [same, ← List.append_nil trace]
        exact (second [] write later late.symm writes).append_left trace
    | cons head rest =>
        obtain ⟨rfl, _⟩ := List.cons.inj late
        exact first earlier write rest early writes

/-- A script that is stopped, erased and rewritten. -/
theorem orderly_rewriting
    {stop erase : Setup} {writes : List Setup}
    (stops : stop.request = Request.setScriptDone.code ∧ stop.value = 1)
    (erases : erase.request = Request.eraseScript.code)
    (each : ∀ setup ∈ writes, setup.request = Request.writeScript.code)
    (apart : (writes.map (·.index)).Nodup) :
    Orderly (stop :: erase :: writes) := by
  intro earlier write later equal isWrite
  have notStop : Request.setScriptDone.code ≠ Request.writeScript.code := by decide
  have notErase : Request.eraseScript.code ≠ Request.writeScript.code := by decide
  match earlier with
  | [] =>
      obtain ⟨rfl, _⟩ := List.cons.inj equal
      exact absurd (stops.1.symm.trans isWrite) notStop
  | [_] =>
      obtain ⟨_, tail⟩ := List.cons.inj equal
      obtain ⟨rfl, _⟩ := List.cons.inj tail
      exact absurd (erases.symm.trans isWrite) notErase
  | _ :: _ :: done =>
      obtain ⟨rfl, tail⟩ := List.cons.inj equal
      obtain ⟨rfl, split⟩ := List.cons.inj tail
      have inside : done ++ [write] <+: writes := ⟨later, by rw [split, List.append_assoc]; rfl⟩
      refine ⟨[], _, _, done, rfl, stops, erases, fun setup member => ?_, ?_⟩
      · exact each setup (inside.subset (List.mem_append_left _ member))
      · exact (inside.sublist.map _).nodup apart

end Trace

/-! ## What commands do to the script -/

/-- The ways in which the calls of a command bear on script memory. -/
inductive ScriptUse (model : Model) (command : Command) : List Call → Prop where
  | spares (calls : List Call) (each : ∀ call ∈ calls, call.SparesScript) :
      ScriptUse model command calls
  | erases : ScriptUse model command [.request .eraseScript 0 0]
  | uploads (front : List Call) (program : Program) (image : ScriptImage) (withChecksum : Bool)
      (frontSpares : ∀ call ∈ front, call.SparesScript)
      (given : program ∈ command.programs)
      (built : ScriptImage.build program model = .ok image) :
      ScriptUse model command
        (front ++ Controller.uploadCalls model program image withChecksum)

namespace Controller

theorem sparesScript_of_mem_queryCalls (parameter : Parameter) :
    ∀ call ∈ parameter.queryCalls, call.SparesScript := by
  apply forall_mem_queryCalls
  intro range _
  have code : (Call.receive parameter.query range.width).setup.request =
      Request.getParameter.code := rfl
  constructor
  · rw [code]
    decide
  · rw [code]
    decide

section Uses

variable {model : Model} {command : Command} {called : Request}

theorem scriptUse_singleton
    {call : Call} (spares : call.SparesScript) :
    ScriptUse model command [call] :=
  .spares _ (List.forall_mem_singleton.mpr spares)

theorem scriptUse_request
    (notErase : called.code ≠ Request.eraseScript.code)
    (notWrite : called.code ≠ Request.writeScript.code) (value index : UInt16) :
    ScriptUse model command [.request called value index] :=
  scriptUse_singleton (Call.sparesScript_request notErase notWrite value index)

theorem scriptUse_channelCalls
    (notErase : called.code ≠ Request.eraseScript.code)
    (notWrite : called.code ≠ Request.writeScript.code)
    (channel : UInt8) (value index : UInt16) :
    ScriptUse model command (channelCalls model channel called value index) := by
  apply ScriptUse.spares
  apply forall_mem_channelCalls
  intro _
  exact Call.sparesScript_request notErase notWrite value index

end Uses

theorem scriptUse_calls (controller : Controller) (command : Command) :
    ScriptUse controller.model command (controller.calls command) := by
  have reload := sparesScript_of_mem_reloadCalls controller.model
  cases command with
  | setRawParameter parameter value =>
      apply ScriptUse.spares
      apply forall_mem_callsAfter
      intro write _
      exact List.forall_mem_singleton.mpr (Call.sparesScript_write write)
  | getRawParameter parameter => exact .spares _ (sparesScript_of_mem_queryCalls parameter)
  | applySettings settings upload =>
      rcases controller.calls_applySettings settings upload with
        refused | ⟨writes, _, listed | ⟨program, image, present, built, listed⟩⟩
      · rw [refused]
        exact .spares _ (List.forall_mem_nil _)
      · rw [listed]
        exact .spares _ (List.forall_mem_map.mpr fun write _ => Call.sparesScript_write write)
      · rw [listed]
        exact .uploads _ program image true
          (List.forall_mem_map.mpr fun write _ => Call.sparesScript_write write)
          (Option.mem_toList.mpr present) built
  | readSettings =>
      apply ScriptUse.spares
      intro call member
      obtain ⟨parameter, _, inside⟩ := List.mem_flatMap.mp member
      exact sparesScript_of_mem_queryCalls parameter call inside
  | readStatus kind => exact scriptUse_singleton (Call.sparesScript_status _ kind)
  | setTarget channel target => exact scriptUse_channelCalls (by decide) (by decide) _ _ _
  | setSpeed channel speed => exact scriptUse_channelCalls (by decide) (by decide) _ _ _
  | setAcceleration channel acceleration =>
      exact scriptUse_channelCalls (by decide) (by decide) _ _ _
  | eraseScript => exact .erases
  | uploadScript program withChecksum =>
      change ScriptUse _ _ (callsAfter (ScriptImage.build program controller.model) _)
      cases built : ScriptImage.build program controller.model with
      | error cause => exact .spares _ (List.forall_mem_nil _)
      | ok image =>
          exact .uploads [] program image withChecksum
            (List.forall_mem_nil _) List.mem_cons_self built
  | restartScriptAt subroutine parameter =>
      cases parameter with
      | none => exact scriptUse_request (by decide) (by decide) _ _
      | some value => exact scriptUse_request (by decide) (by decide) _ _
  | restartScript => exact scriptUse_request (by decide) (by decide) _ _
  | setScriptState state => exact scriptUse_request (by decide) (by decide) _ _
  | clearErrors => exact scriptUse_request (by decide) (by decide) _ _
  | startBootloader => exact scriptUse_request (by decide) (by decide) _ _
  | setPwm dutyCycle period =>
      change ScriptUse _ _ (if controller.model.isCompact then [] else _)
      split
      · exact .spares _ (List.forall_mem_nil _)
      · exact scriptUse_request (by decide) (by decide) _ _
  | disablePwm =>
      change ScriptUse _ _ (if controller.model.isCompact then [] else _)
      split
      · exact .spares _ (List.forall_mem_nil _)
      · exact scriptUse_channelCalls (by decide) (by decide) _ _ _
  | reload => exact .spares _ reload
  | restoreDefaults =>
      exact .spares _ (List.forall_mem_cons.mpr
        ⟨Call.sparesScript_request (by decide) (by decide) _ _, reload⟩)
  | firmwareVersion => exact scriptUse_singleton ⟨by decide, by decide⟩

end Controller

/-! ## The invariant -/

/-- Script memory is erased, or holds the first blocks of the image of one of these
programs and no other block. -/
def Simulator.Unmixed (device : Simulator) (model : Model) (programs : List Program) : Prop :=
  (∀ index, device.blocks index = none) ∨
    ∃ program ∈ programs, ∃ image count, ScriptImage.build program model = .ok image ∧
      device.HoldsBlocks ((image.tableBlocks ++ image.codeBlocks).take count)

/-- What holds of the device at every point of a run. -/
structure Simulator.Sound (device : Simulator) (model : Model) (programs : List Program) :
    Prop where
  unmixed : device.Unmixed model programs
  orderly : Orderly device.trace

namespace ScriptUse

variable {model : Model} {command : Command} {calls made : List Call}

theorem orderly_calls (use : ScriptUse model command calls) :
    Orderly (calls.map Call.setup) := by
  have quiet {calls : List Call} (spares : ∀ call ∈ calls, call.SparesScript) :
      Orderly (calls.map Call.setup) :=
    orderly_of_quiet (List.forall_mem_map.mpr fun call member => (spares call member).notWrite)
  cases use with
  | spares _ each => exact quiet each
  | erases => exact orderly_of_quiet (by decide)
  | uploads front program image withChecksum frontSpares given built =>
      obtain ⟨fits, rfl⟩ := ScriptImage.layout_of_build built
      let blocks := (ScriptImage.layout program model).blocks
      have rewriting : Orderly ((Call.request .setScriptDone 1 0).setup ::
          (Call.request .eraseScript 0 0).setup ::
            (blocks.map Call.block).map Call.setup) := by
        apply orderly_rewriting ⟨rfl, rfl⟩ rfl
        · simp only [List.forall_mem_map]
          exact fun _ _ => rfl
        · rw [List.map_map, List.map_map]
          exact ScriptImage.blocks_apart fits
      have closing := quiet (Controller.sparesScript_of_mem_closingCalls model program withChecksum)
      have joined := (quiet frontSpares).append (rewriting.append closing)
      unfold Controller.uploadCalls
      simp only [List.map_append, List.map_cons]
      exact joined

theorem unmixed_of_isPrefix
    {device : Simulator} {programs : List Program}
    (use : ScriptUse model command calls) (inside : made <+: calls)
    (before : device.Unmixed model programs) :
    (made.foldl Simulator.complete device).Unmixed model (programs ++ command.programs) := by
  have kept (same : (made.foldl Simulator.complete device).blocks = device.blocks) :
      (made.foldl Simulator.complete device).Unmixed model (programs ++ command.programs) := by
    unfold Simulator.Unmixed
    simp only [same, Simulator.holdsBlocks_congr same]
    apply before.imp_right
    rintro ⟨program, given, holds⟩
    exact ⟨program, List.mem_append_left _ given, holds⟩
  cases use with
  | spares _ each =>
      apply kept
      exact Simulator.foldl_complete_blocks fun call member => each call (inside.subset member)
  | erases =>
      have none : ∀ call ∈ [], Call.SparesScript call := List.forall_mem_nil _
      have rewritten : made <+:
          [] ++ .request .eraseScript 0 0 :: (([] : List ScriptBlock).map Call.block ++ []) :=
        inside
      rcases Simulator.blocks_of_isPrefix none none (List.forall_mem_nil _) List.nodup_nil
        rewritten with
        same | ⟨count, holds⟩
      · exact kept same
      · left
        intro index
        rw [Option.eq_none_iff_forall_not_mem]
        intro data written
        have member := (holds index data).mp written
        rw [List.take_nil] at member
        cases member
  | uploads front program image withChecksum frontSpares given built =>
      obtain ⟨fits, rfl⟩ := ScriptImage.layout_of_build built
      have stopSpares : ∀ call ∈ front ++ [.request .setScriptDone 1 0], call.SparesScript :=
        List.forall_mem_append.mpr ⟨frontSpares, List.forall_mem_singleton.mpr
          (Call.sparesScript_request (by decide) (by decide) 1 0)⟩
      have regrouped :
          front ++ Controller.uploadCalls model program (.layout program model) withChecksum =
            (front ++ [.request .setScriptDone 1 0]) ++ .request .eraseScript 0 0 ::
              ((ScriptImage.layout program model).blocks.map Call.block ++
                Controller.closingCalls model program withChecksum) := by
        rw [List.append_assoc]
        rfl
      rw [regrouped] at inside
      rcases Simulator.blocks_of_isPrefix stopSpares
        (Controller.sparesScript_of_mem_closingCalls model program withChecksum)
        (fun block => ScriptImage.data_length_of_mem_blocks) (ScriptImage.blocks_apart fits)
        inside with same | ⟨count, holds⟩
      · exact kept same
      · exact Or.inr ⟨program, List.mem_append_right _ given, _, count, built, holds⟩

/-- One command, completed or interrupted. -/
theorem sound_of_isPrefix
    {device : Simulator} {programs : List Program}
    (use : ScriptUse model command calls) (inside : made <+: calls)
    (before : device.Sound model programs) :
    (made.foldl Simulator.complete device).Sound model (programs ++ command.programs) where
  unmixed := use.unmixed_of_isPrefix inside before.unmixed
  orderly := by
    rw [Simulator.trace_foldl_complete]
    exact before.orderly.append (orderly_of_isPrefix use.orderly_calls (inside.map Call.setup))

end ScriptUse

theorem Simulator.Sound.mono
    {device : Simulator} {model : Model} {programs : List Program}
    (sound : device.Sound model programs) (more : List Program) :
    device.Sound model (programs ++ more) where
  unmixed := by
    apply sound.unmixed.imp_right
    rintro ⟨program, given, holds⟩
    exact ⟨program, List.mem_append_left _ given, holds⟩
  orderly := sound.orderly

theorem Simulator.sound_new (model : Model) : ({ product := model.product } : Simulator).Sound
    model [] where
  unmixed := Or.inl fun _ => rfl
  orderly := orderly_of_quiet (List.forall_mem_nil _)

/-! ## Runs -/

namespace Session

theorem sound_performAll
    {session : Session FaultyBus} {model : Model} {programs : List Program}
    (bound : session.controller.model = model)
    (now : session.line.device.device.Sound model programs)
    (before : ∀ point ∈ session.line.device.past, point.Sound model programs)
    (commands : List Command) :
    ∀ point ∈ (session.performAll commands).line.device.points,
      point.Sound model (programs ++ commands.flatMap Command.programs) := by
  induction commands generalizing session programs with
  | nil =>
      rw [List.flatMap_nil, List.append_nil]
      exact List.forall_mem_append.mpr ⟨before, List.forall_mem_singleton.mpr now⟩
  | cons command rest inductionHypothesis =>
      have use := session.controller.scriptUse_calls command
      rw [bound] at use
      obtain ⟨after, past⟩ := session.points_of_perform command
        (fun point member => (before point member).mono command.programs)
        fun made inside => use.sound_of_isPrefix inside now
      rw [performAll_cons, List.flatMap_cons, ← List.append_assoc]
      exact inductionHypothesis bound after past

/-- Start with a new controller, let any commands be carried out and any transfers fail.
At every point script memory is erased or holds the first blocks of one program, table
first, and each of its blocks was written after a stop and an erasure. -/
theorem script_never_mixed
    (model : Model) (config : SessionConfig) (counters : Option Counters)
    (faults : Nat → Option TransportError) (commands : List Command) :
    let run := (onFaultyBus model config counters faults).performAll commands
    ∀ point ∈ run.line.device.points,
      point.Unmixed model (commands.flatMap Command.programs) ∧ Orderly point.trace := by
  intro run point member
  have sound : ∀ point ∈ run.line.device.points,
      point.Sound model ([] ++ commands.flatMap Command.programs) :=
    sound_performAll rfl (Simulator.sound_new model) (List.forall_mem_nil _) commands
  exact ⟨(sound point member).unmixed, (sound point member).orderly⟩

/-- An upload that fails at its sixth block, and another one after it. -/
theorem script_never_mixed_after_timeout :
    let faults := fun number => if number = 7 then some TransportError.timeout else none
    let first : Command := .uploadScript { byteCode := [1, 2, 3] } true
    let commands : List Command := [first, .uploadScript { byteCode := [4, 5] } false]
    let bus := ((onFaultyBus .micro6 {} none faults).performAll commands).line.device
    ((onFaultyBus .micro6 {} none faults).perform first).1 = .error (.transport .timeout) ∧
      bus.device.Unmixed .micro6 (commands.flatMap Command.programs) ∧
      Orderly bus.device.trace := by
  intro faults first commands bus
  have failed : ((onFaultyBus .micro6 {} none faults).perform first).1 =
      .error (.transport .timeout) := by
    decide +kernel
  exact ⟨failed, script_never_mixed .micro6 {} none faults commands bus.device
    bus.device_mem_points⟩

end Session

end ServoLink
