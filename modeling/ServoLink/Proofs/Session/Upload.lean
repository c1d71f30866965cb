import ServoLink.Proofs.Device.ScriptMemory
import ServoLink.Proofs.Script.Table

/-!
# Script memory after an upload

Whatever a simulated controller held before, an upload that answers leaves in its script
memory the byte code from the first block on, the subroutine table in its place, and
nothing else.  Of the parameters it changes the checksum at most.
-/

namespace ServoLink

/-! ## A program in memory -/

/-- Script memory reads as this program, and as erased everywhere else. -/
structure Simulator.HoldsProgram (device : Simulator) (model : Model) (program : Program) :
    Prop where
  /-- The byte code, one terminator if there is room for it, and erased bytes up to the
  table. -/
  code : ∃ padding, device.scriptBytes 0 (16 * model.tableBlock.toNat) =
    program.byteCode ++
      (if program.byteCode.length < model.maxScriptLength then [quit] else []) ++
      List.replicate padding erased
  table : ∀ opcode, firstTableOpcode ≤ opcode →
    program.Slot erased opcode (slotOf (device.scriptBytes model.tableBlock 256) opcode)
  elsewhere : ∀ index : UInt16, model.tableBlock.toNat + 16 ≤ index.toNat →
    device.scriptBytes index 16 = List.replicate 16 erased

namespace Simulator

variable {device : Simulator} {model : Model} {program : Program}

theorem holdsBytes_code
    (holds : device.HoldsBlocks (ScriptImage.layout program model).blocks) :
    device.HoldsBytes 0 model.tableBlock.toNat (ScriptImage.layout program model).byteCode := by
  have small := model.tableBlock_le
  intro number inside data
  have index : (0 + UInt16.ofNat number).toNat = number := by
    rw [toNat_block_index (by change 0 + number < 65536; omega)]
    exact Nat.zero_add number
  rw [holds, ScriptImage.blocks, List.mem_append]
  apply or_iff_right
  intro inTable
  have above := (ScriptImage.index_of_mem_tableBlocks inTable).1
  change model.tableBlock.toNat ≤ (0 + UInt16.ofNat number).toNat at above
  omega

theorem holdsBytes_table
    (fits : program.Fits model)
    (holds : device.HoldsBlocks (ScriptImage.layout program model).blocks) :
    device.HoldsBytes model.tableBlock 16 (ScriptImage.layout program model).table := by
  have small := model.tableBlock_le
  intro number inside data
  have index := toNat_block_index
    (show model.tableBlock.toNat + number < 65536 by omega)
  rw [holds, ScriptImage.blocks, List.mem_append]
  apply or_iff_left
  intro inCode
  have below := ScriptImage.index_lt_of_mem_codeBlocks fits inCode
  change (model.tableBlock + UInt16.ofNat number).toNat < _ at below
  omega

theorem unwritten_elsewhere
    (fits : program.Fits model)
    (holds : device.HoldsBlocks (ScriptImage.layout program model).blocks)
    {index : UInt16} (beyond : model.tableBlock.toNat + 16 ≤ index.toNat) :
    device.blocks index = none := by
  rw [Option.eq_none_iff_forall_not_mem]
  intro data written
  rcases List.mem_append.mp ((holds index data).mp written) with inTable | inCode
  · have below := (ScriptImage.index_of_mem_tableBlocks inTable).2
    change index.toNat < _ at below
    omega
  · have below := ScriptImage.index_lt_of_mem_codeBlocks fits inCode
    change index.toNat < _ at below
    omega

/-- The blocks of a program's image read as the program. -/
theorem holdsProgram_of_holdsBlocks
    (fits : program.Fits model)
    (holds : device.HoldsBlocks (ScriptImage.layout program model).blocks) :
    device.HoldsProgram model program where
  code := by
    have small := model.tableBlock_le
    refine ⟨16 * model.tableBlock.toNat -
      (ScriptImage.layout program model).byteCode.length, ?_⟩
    rw [scriptBytes_of_holdsBytes (holdsBytes_code holds)
      (by change 0 + _ ≤ _; omega) (ScriptImage.codeBlockCount_le fits)]
    congr 1
    change (if _ then _ else _) = _
    split
    · rfl
    · exact (List.append_nil _).symm
  table := by
    have small := model.tableBlock_le
    intro opcode tested
    have length : (ScriptImage.layout program model).table.length = 256 :=
      subroutineTable_length _ _
    have read := scriptBytes_of_holdsBytes (holdsBytes_table fits holds) (by omega)
      (Nat.le_of_eq (ScriptImage.tableBlockCount program model))
    rw [length] at read
    change device.scriptBytes model.tableBlock 256 = _ ++ [] at read
    rw [read, List.append_nil]
    exact Program.slot_subroutineTable fits.placed erased tested
  elsewhere _ beyond := scriptBytes_of_unwritten (unwritten_elsewhere fits holds beyond)

end Simulator

/-! ## Uploading -/

namespace Session

variable {session : Session Simulator} {program : Program} {withChecksum : Bool}
  {answer : Answer}

/-- A command that answers has made all of its calls. -/
theorem device_of_answer
    {command : Command}
    (answered : (session.perform command).1 = .ok answer) :
    (session.perform command).2.line.device =
      (session.controller.calls command).foldl Simulator.complete session.line.device := by
  have follows := session.controller.perform_follows command
  obtain ⟨made, _, state, ended⟩ := follows.run_effects Simulator.effects session.line
  change ((session.controller.perform command).run session.line).1 = .ok answer at answered
  rw [answered] at ended
  rw [← ended.all_of_ok]
  exact state

theorem image_of_uploaded
    (answered : (session.perform (.uploadScript program withChecksum)).1 = .ok answer) :
    ∃ image, ScriptImage.build program session.controller.model = .ok image := by
  cases built : ScriptImage.build program session.controller.model with
  | ok image =>
      exact ⟨image, rfl⟩
  | error cause =>
      have stopped : session.controller.perform (.uploadScript program withChecksum) =
          .stop (.validation cause) := by
        change _ <$> session.controller.uploadScript program withChecksum = _
        unfold Controller.uploadScript
        rw [built]
        rfl
      rw [perform_of_stop stopped] at answered
      cases answered

/-- An upload that answers leaves its program and nothing else in script memory.  The
checksum is stored if it is asked for; no other parameter changes. -/
theorem memory_after_uploadScript
    (answered : (session.perform (.uploadScript program withChecksum)).1 = .ok answer) :
    let device := (session.perform (.uploadScript program withChecksum)).2.line.device
    device.HoldsProgram session.controller.model program ∧
      ∀ address, device.parameters address =
        if withChecksum ∧ address = Parameter.scriptCrc.id then program.checksum
        else session.line.device.parameters address := by
  intro device
  obtain ⟨image, built⟩ := image_of_uploaded answered
  obtain ⟨fits, rfl⟩ := ScriptImage.layout_of_build built
  have made : session.controller.calls (.uploadScript program withChecksum) =
      Controller.uploadCalls session.controller.model program
        (.layout program session.controller.model) withChecksum := by
    change callsAfter (ScriptImage.build program session.controller.model) _ = _
    rw [built]
    rfl
  have final := device_of_answer answered
  rw [made] at final
  constructor
  · apply Simulator.holdsProgram_of_holdsBlocks fits
    change device = _ at final
    rw [final]
    exact Simulator.holdsBlocks_of_rewritten [.request .setScriptDone 1 0]
      (Controller.sparesScript_of_mem_closingCalls _ _ _)
      (fun _ => ScriptImage.data_length_of_mem_blocks) (ScriptImage.blocks_apart fits)
  · intro address
    change device = _ at final
    rw [final]
    exact Controller.parameters_of_uploadCalls _ _ _ _ _ _

/-- Two subroutines of one opcode, uploaded to a controller whose script memory is full of
an earlier program. -/
theorem memory_after_uploadScript_micro6 :
    let full : Simulator :=
      { product := Model.micro6.product
        blocks := fun _ => some (List.replicate 16 7) }
    let session : Session Simulator :=
      { simulated .micro6 with line := { device := full } }
    let program : Program :=
      { byteCode := [1, 2, 3]
        subroutineAddresses := (NameMap.empty.insert "blink" 1).insert "wave" 2
        subroutineCommands :=
          (NameMap.empty.insert "blink" (.opcode 128)).insert "wave" (.opcode 128)
        checksum := 9 }
    let uploaded := session.perform (.uploadScript program true)
    uploaded.1 = .ok .nothing ∧ uploaded.2.line.device.HoldsProgram .micro6 program ∧
      uploaded.2.line.device.parameters Parameter.scriptCrc.id = 9 := by
  intro full session program uploaded
  have answered : (session.perform (.uploadScript program true)).1 = .ok .nothing := by
    decide +kernel
  obtain ⟨holds, parameters⟩ := memory_after_uploadScript answered
  exact ⟨answered, holds, parameters _⟩

end Session

end ServoLink
