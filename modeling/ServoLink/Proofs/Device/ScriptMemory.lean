import ServoLink.Proofs.Device.Simulator
import ServoLink.Proofs.Session.Calls

/-!
# The script memory of a simulated controller

Only two requests change script memory: one erases all of it, the other writes a block.
After an erasure and the writes of some blocks with different numbers, the memory holds
these blocks and no others; after the beginning of such a sequence of calls it is as it
was, or holds the first few of the blocks.
-/

namespace ServoLink

/-! ## What calls leave alone -/

/-- A call that neither erases script memory nor writes to it. -/
structure Call.SparesScript (call : Call) : Prop where
  notErase : call.setup.request ≠ Request.eraseScript.code
  notWrite : call.setup.request ≠ Request.writeScript.code

/-- A call that writes no parameter. -/
def Call.SparesParameters : Call → Prop
  | .send setup _ => setup.request ≠ Request.setParameter.code
  | .receive _ _ => True

namespace Simulator

/-- The device after a call that completes. -/
def complete (device : Simulator) : Call → Simulator
  | .send setup payload => (device.accept setup payload).record ⟨.toDevice, setup, payload⟩
  | .receive setup length => device.record ⟨.toHost, setup, device.reply setup length⟩

theorem failOn_of_failing
    {device : Simulator} {setup : Setup} (failing : device.failOn = some setup.request) :
    device.failOn ≠ none := by
  rw [failing]
  exact Option.some_ne_none _

theorem effects :
    Exchange.Effects (fun device : Simulator => device) complete
      fun device => device.failOn ≠ none where
  send := by
    intro setup payload device
    by_cases failing : device.failOn = some setup.request
    · right
      rw [send_of_refused failing]
      exact ⟨⟨_, rfl⟩, rfl, failOn_of_failing failing⟩
    · left
      rw [send_of_working failing]
      exact ⟨rfl, rfl⟩
  receive := by
    intro setup length device
    by_cases failing : device.failOn = some setup.request
    · right
      rw [receive_of_refused failing]
      exact ⟨⟨_, rfl⟩, rfl, failOn_of_failing failing⟩
    · left
      rw [receive_of_working failing]
      exact ⟨⟨_, rfl⟩, rfl⟩

section Spared

variable {device : Simulator} {call : Call} {calls : List Call}

theorem complete_blocks (spares : call.SparesScript) :
    (device.complete call).blocks = device.blocks := by
  cases call with
  | receive setup length =>
      rfl
  | send setup payload =>
      have notErase : setup.request ≠ 0xA0 := spares.notErase
      have notWrite : setup.request ≠ 0xA1 := spares.notWrite
      change (device.accept setup payload).blocks = _
      unfold accept
      by_cases parameter : setup.request = 0x82
      · rw [if_pos parameter]
        rfl
      · rw [if_neg parameter, if_neg notErase, if_neg notWrite]

theorem complete_parameters (spares : call.SparesParameters) :
    (device.complete call).parameters = device.parameters := by
  cases call with
  | receive setup length =>
      rfl
  | send setup payload =>
      have notWrite : setup.request ≠ 0x82 := spares
      change (device.accept setup payload).parameters = _
      unfold accept
      rw [if_neg notWrite]
      split
      · rfl
      · split <;> rfl

/-- What no call of some kind changes, no run of such calls changes. -/
theorem foldl_complete_keeps
    {β : Type} {part : Simulator → β} {spares : Call → Prop}
    (step : ∀ device call, spares call → part (complete device call) = part device)
    (each : ∀ call ∈ calls, spares call) : part (calls.foldl complete device) = part device := by
  induction calls generalizing device with
  | nil =>
      rfl
  | cons first rest inductionHypothesis =>
      obtain ⟨firstSpares, restSpare⟩ := List.forall_mem_cons.mp each
      rw [List.foldl_cons, inductionHypothesis restSpare, step device first firstSpares]

theorem foldl_complete_blocks (spares : ∀ call ∈ calls, call.SparesScript) :
    (calls.foldl complete device).blocks = device.blocks :=
  foldl_complete_keeps (fun _ _ => complete_blocks) spares

theorem foldl_complete_parameters (spares : ∀ call ∈ calls, call.SparesParameters) :
    (calls.foldl complete device).parameters = device.parameters :=
  foldl_complete_keeps (fun _ _ => complete_parameters) spares

end Spared

/-! ## The trace of a device -/

/-- The setup packets of all transfers so far. -/
def trace (device : Simulator) : List Setup :=
  device.log.map (·.setup)

theorem trace_complete (device : Simulator) (call : Call) :
    (device.complete call).trace = device.trace ++ [call.setup] := by
  have recorded (before : Simulator) (transfer : Transfer) :
      (before.record transfer).trace = before.trace ++ [transfer.setup] :=
    List.map_append
  cases call with
  | receive setup length =>
      exact recorded device _
  | send setup payload =>
      have accepted : (device.accept setup payload).trace = device.trace :=
        congrArg (List.map Transfer.setup) (device.accept_log setup payload)
      change ((device.accept setup payload).record _).trace = _
      rw [recorded, accepted]
      rfl

theorem trace_foldl_complete (device : Simulator) (calls : List Call) :
    (calls.foldl complete device).trace = device.trace ++ calls.map Call.setup := by
  induction calls generalizing device with
  | nil =>
      exact (List.append_nil _).symm
  | cons first rest inductionHypothesis =>
      rw [List.foldl_cons, inductionHypothesis, trace_complete, List.append_assoc]
      rfl

/-! ## Written blocks -/

/-- Script memory holds these blocks and no others. -/
def HoldsBlocks (device : Simulator) (blocks : List ScriptBlock) : Prop :=
  ∀ index data, device.blocks index = some data ↔ ⟨index, data⟩ ∈ blocks

section Written

variable {device : Simulator} {blocks written : List ScriptBlock} {block : ScriptBlock}

theorem holdsBlocks_congr {other : Simulator} (same : other.blocks = device.blocks) :
    other.HoldsBlocks blocks ↔ device.HoldsBlocks blocks := by
  unfold HoldsBlocks
  rw [same]

theorem holdsBlocks_erase : (device.complete (.request .eraseScript 0 0)).HoldsBlocks [] := by
  intro index data
  have empty : (device.complete (.request .eraseScript 0 0)).blocks index = none := rfl
  rw [empty]
  exact iff_of_false (Option.some_ne_none data).symm List.not_mem_nil

theorem blockOf_eq {data : List UInt8} (full : data.length = 16) : blockOf data = data := by
  unfold blockOf
  rw [List.take_of_length_le (Nat.le_of_eq full), full]
  exact List.append_nil data

theorem complete_block (full : block.data.length = 16) (index : UInt16) :
    (device.complete (.block block)).blocks index =
      if index = block.index then some block.data else device.blocks index := by
  change (if index = block.index then some (blockOf block.data) else device.blocks index) = _
  rw [blockOf_eq full]

theorem holdsBlocks_block
    (holds : device.HoldsBlocks written) (full : block.data.length = 16)
    (fresh : block.index ∉ written.map (·.index)) :
    (device.complete (.block block)).HoldsBlocks (written ++ [block]) := by
  intro index data
  rw [complete_block full, List.mem_append, List.mem_singleton]
  by_cases same : index = block.index
  · have notWritten : (⟨index, data⟩ : ScriptBlock) ∉ written := by
      intro member
      exact fresh (same ▸ List.mem_map_of_mem (f := fun block => block.index) member)
    rw [if_pos same, Option.some_inj]
    constructor
    · rintro rfl
      exact Or.inr (by rw [same])
    · rintro (member | equal)
      · exact absurd member notWritten
      · rw [← equal]
  · have different : (⟨index, data⟩ : ScriptBlock) ≠ block := by
      intro equal
      exact same (congrArg ScriptBlock.index equal)
    rw [if_neg same, holds index data]
    exact (or_iff_left different).symm

/-- Writing blocks with new numbers adds exactly these blocks. -/
theorem holdsBlocks_foldl
    (holds : device.HoldsBlocks written)
    (full : ∀ block ∈ blocks, block.data.length = 16)
    (apart : ((written ++ blocks).map (·.index)).Nodup) :
    ((blocks.map Call.block).foldl complete device).HoldsBlocks (written ++ blocks) := by
  induction blocks generalizing device written with
  | nil =>
      rw [List.append_nil]
      exact holds
  | cons first rest inductionHypothesis =>
      obtain ⟨firstFull, restFull⟩ := List.forall_mem_cons.mp full
      have regrouped : written ++ first :: rest = (written ++ [first]) ++ rest := by
        rw [List.append_assoc]
        rfl
      have fresh : first.index ∉ written.map (·.index) := by
        rw [List.map_append, List.map_cons] at apart
        intro old
        exact (List.nodup_append.mp apart).2.2 _ old _ List.mem_cons_self rfl
      rw [regrouped] at apart ⊢
      exact inductionHypothesis (holdsBlocks_block holds firstFull fresh) restFull apart

end Written

/-! ## Reading script memory -/

section Reading

variable {device : Simulator} {first : UInt16} {bytes : List UInt8} {limit : Nat}

/-- What the memory holds from a block on is what these bytes take there. -/
def HoldsBytes (device : Simulator) (first : UInt16) (limit : Nat) (bytes : List UInt8) :
    Prop :=
  ∀ number < limit, ∀ data, device.blocks (first + UInt16.ofNat number) = some data ↔
    ⟨first + UInt16.ofNat number, data⟩ ∈ blocksFrom first bytes

theorem blocks_of_holdsBytes
    (holds : device.HoldsBytes first limit bytes)
    (fits : first.toNat + limit ≤ 65536) (enough : blockCount bytes ≤ limit)
    {number : Nat} (inside : number < limit) :
    device.blocks (first + UInt16.ofNat number) =
      if number < blockCount bytes then some (blockData bytes number) else none := by
  apply Option.ext
  intro data
  rw [holds number inside data, mem_blocksFrom_at_iff fits enough inside]
  by_cases small : number < blockCount bytes
  · rw [if_pos small, Option.some_inj]
    exact (and_iff_right small).trans eq_comm
  · rw [if_neg small]
    exact iff_of_false (fun both => small both.1) (Option.some_ne_none data).symm

theorem scriptByte_of_holdsBytes
    (holds : device.HoldsBytes first limit bytes)
    (fits : first.toNat + limit ≤ 65536) (enough : blockCount bytes ≤ limit)
    {offset : Nat} (inside : offset < 16 * limit) :
    device.scriptByte first offset = bytes.getD offset erased := by
  have place : 16 * (offset / 16) + offset % 16 = offset := Nat.div_add_mod offset 16
  have remainder : offset % 16 < 16 := Nat.mod_lt offset (by decide)
  unfold scriptByte
  rw [blocks_of_holdsBytes holds fits enough (by omega)]
  by_cases small : offset / 16 < blockCount bytes
  · rw [if_pos small]
    have stored := blockData_getD bytes (offset / 16) remainder
    rw [place] at stored
    exact stored
  · rw [if_neg small]
    have beyond : bytes.length ≤ offset := by
      have bound := Nat.not_lt.mp (mt lt_blockCount_iff.mpr small)
      omega
    exact (List.getD_eq_default bytes erased beyond).symm

/-- A read over all these blocks gives the bytes, and erased ones behind them. -/
theorem scriptBytes_of_holdsBytes
    (holds : device.HoldsBytes first limit bytes)
    (fits : first.toNat + limit ≤ 65536) (enough : blockCount bytes ≤ limit) :
    device.scriptBytes first (16 * limit) =
      bytes ++ List.replicate (16 * limit - bytes.length) erased := by
  have length : bytes.length ≤ 16 * limit := by
    have bound := Nat.not_lt.mp (mt lt_blockCount_iff.mpr (Nat.not_lt.mpr enough))
    exact bound
  unfold scriptBytes
  apply List.ext_getElem
  · simp only [List.length_map, List.length_range, List.length_append, List.length_replicate]
    omega
  · intro offset inside within
    rw [List.length_map, List.length_range] at inside
    rw [List.getElem_map, List.getElem_range,
      scriptByte_of_holdsBytes holds fits enough inside,
      ← getD_append_replicate bytes (16 * limit - bytes.length) offset erased]
    exact List.getD_eq_getElem _ _ within

theorem scriptBytes_of_unwritten
    {index : UInt16} (unwritten : device.blocks index = none) :
    device.scriptBytes index 16 = List.replicate 16 erased := by
  unfold scriptBytes
  rw [List.eq_replicate_iff]
  refine ⟨by rw [List.length_map, List.length_range], ?_⟩
  intro byte member
  obtain ⟨offset, inside, rfl⟩ := List.mem_map.mp member
  have first : offset / 16 = 0 := Nat.div_eq_of_lt (List.mem_range.mp inside)
  have same : index + UInt16.ofNat 0 = index := UInt16.add_zero index
  unfold scriptByte
  rw [first, same, unwritten]
  rfl

end Reading

/-! ## Rewriting the script -/

section Rewriting

variable {device : Simulator} {blocks : List ScriptBlock} {tail made : List Call}

/-- After the calls of a rewriting, the memory holds its blocks. -/
theorem holdsBlocks_of_rewritten
    (front : List Call) (tailSpares : ∀ call ∈ tail, call.SparesScript)
    (full : ∀ block ∈ blocks, block.data.length = 16)
    (apart : (blocks.map (·.index)).Nodup) :
    ((front ++ .request .eraseScript 0 0 :: (blocks.map Call.block ++ tail)).foldl complete
      device).HoldsBlocks blocks := by
  rw [List.foldl_append, List.foldl_cons, List.foldl_append,
    holdsBlocks_congr (foldl_complete_blocks tailSpares)]
  exact holdsBlocks_foldl holdsBlocks_erase full apart

/-- After the first calls of a rewriting, the memory is as it was or holds the first
blocks. -/
theorem blocks_of_isPrefix
    {front : List Call} (frontSpares : ∀ call ∈ front, call.SparesScript)
    (tailSpares : ∀ call ∈ tail, call.SparesScript)
    (full : ∀ block ∈ blocks, block.data.length = 16)
    (apart : (blocks.map (·.index)).Nodup)
    (inside : made <+: front ++ .request .eraseScript 0 0 :: (blocks.map Call.block ++ tail)) :
    (made.foldl complete device).blocks = device.blocks ∨
      ∃ count, (made.foldl complete device).HoldsBlocks (blocks.take count) := by
  rw [List.prefix_iff_eq_take, List.take_append] at inside
  have before : ∀ call ∈ front.take made.length, call.SparesScript := fun call member =>
    frontSpares call (List.mem_of_mem_take member)
  rw [inside, List.foldl_append]
  -- The number of calls that were made from the erasure on.
  cases made.length - front.length with
  | zero =>
      left
      exact foldl_complete_blocks before
  | succ count =>
      right
      have after : ∀ call ∈ tail.take (count - blocks.length), call.SparesScript :=
        fun call member => tailSpares call (List.mem_of_mem_take member)
      have firstFull : ∀ block ∈ blocks.take count, block.data.length = 16 :=
        fun block member => full block (List.mem_of_mem_take member)
      have firstApart : ((blocks.take count).map (·.index)).Nodup :=
        ((List.take_sublist count blocks).map _).nodup apart
      refine ⟨count, ?_⟩
      rw [List.take_succ_cons, List.take_append, List.length_map, ← List.map_take]
      exact holdsBlocks_of_rewritten [] after firstFull firstApart

end Rewriting

end Simulator

/-! ## The calls of an upload -/

theorem Call.sparesScript_request
    {called : Request} (notErase : called.code ≠ Request.eraseScript.code)
    (notWrite : called.code ≠ Request.writeScript.code) (value index : UInt16) :
    (Call.request called value index).SparesScript :=
  ⟨notErase, notWrite⟩

theorem Call.sparesParameters_request
    {called : Request} (other : called.code ≠ Request.setParameter.code)
    (value index : UInt16) : (Call.request called value index).SparesParameters :=
  other

theorem Call.sparesScript_write (write : ParameterWrite) : (Call.write write).SparesScript := by
  have code : (Call.write write).setup.request = Request.setParameter.code := rfl
  constructor
  · rw [code]
    decide
  · rw [code]
    decide

theorem Call.sparesScript_status (model : Model) (kind : StatusKind) :
    (Call.status model kind).SparesScript := by
  change Call.SparesScript (.receive ((model.statusQuery kind).request.setup 0 0) _)
  cases model <;> cases kind <;> exact ⟨by decide, by decide⟩

theorem Call.sparesParameters_block (block : ScriptBlock) :
    (Call.block block).SparesParameters := by
  change Request.writeScript.code ≠ Request.setParameter.code
  decide

namespace Controller

variable (model : Model) (program : Program) (image : ScriptImage) (withChecksum : Bool)

theorem sparesScript_of_mem_reloadCalls : ∀ call ∈ reloadCalls model, call.SparesScript :=
  forall_mem_reloadCalls (Call.sparesScript_request (by decide) (by decide) 0 0)
    (Call.sparesScript_status model _)

theorem sparesParameters_of_mem_reloadCalls :
    ∀ call ∈ reloadCalls model, call.SparesParameters :=
  forall_mem_reloadCalls (Call.sparesParameters_request (by decide) 0 0) True.intro

theorem sparesScript_of_mem_closingCalls :
    ∀ call ∈ closingCalls model program withChecksum, call.SparesScript :=
  forall_mem_closingCalls (Call.sparesScript_write _) (sparesScript_of_mem_reloadCalls model)

/-- An upload changes no parameter but the checksum, and this one only if asked to. -/
theorem parameters_of_uploadCalls (device : Simulator) (address : UInt8) :
    ((uploadCalls model program image withChecksum).foldl Simulator.complete
        device).parameters address =
      if withChecksum ∧ address = Parameter.scriptCrc.id then program.checksum
      else device.parameters address := by
  let script : List Call :=
    .request .setScriptDone 1 0 :: .request .eraseScript 0 0 :: image.blocks.map Call.block
  have scriptSpares : ∀ call ∈ script, call.SparesParameters := by
    simp only [script, List.forall_mem_cons, List.forall_mem_map]
    exact ⟨Call.sparesParameters_request (by decide) 1 0,
      Call.sparesParameters_request (by decide) 0 0,
      fun block _ => Call.sparesParameters_block block⟩
  have split : uploadCalls model program image withChecksum =
      script ++ ((if withChecksum then [.write (checksumAssignment program).checked] else []) ++
        reloadCalls model) :=
    rfl
  rw [split, List.foldl_append, List.foldl_append,
    Simulator.foldl_complete_parameters (sparesParameters_of_mem_reloadCalls model)]
  cases withChecksum with
  | false =>
      simp only [Bool.false_eq_true, if_false, false_and, List.foldl_nil]
      rw [Simulator.foldl_complete_parameters scriptSpares]
  | true =>
      have fits := checksumAssignment_fits program
      have written :
          ((script.foldl Simulator.complete device).take
            (checksumAssignment program).checked).parameters address = _ :=
        Simulator.take_parameters fits.checked address
      rw [Assignment.parameter_checked, checksumAssignment_value,
        Simulator.foldl_complete_parameters scriptSpares] at written
      simp only [if_true, true_and, List.foldl_cons, List.foldl_nil]
      exact written

end Controller

end ServoLink
