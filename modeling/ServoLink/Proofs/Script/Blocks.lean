import Mathlib.Data.List.GetD
import Mathlib.Data.List.Nodup
import ServoLink.Proofs.Script.Image

/-!
# The blocks of an image

The blocks of some bytes are numbered without gaps and hold the bytes in order, with
erased ones behind the last.  The code of a program that fits ends below the table, so
no two blocks of an image have the same number.
-/

namespace ServoLink

/-! ## Blocks of bytes -/

section Blocks

variable {first : UInt16} {bytes : List UInt8} {block : ScriptBlock}

/-- The number of blocks that some bytes take. -/
def blockCount (bytes : List UInt8) : Nat :=
  (bytes.length + blockLength - 1) / blockLength

theorem lt_blockCount_iff {bytes : List UInt8} {number : Nat} :
    number < blockCount bytes ↔ 16 * number < bytes.length := by
  unfold blockCount blockLength
  omega

/-- One block's worth of bytes. -/
def blockData (bytes : List UInt8) (number : Nat) : List UInt8 :=
  padBlock ((bytes.drop (blockLength * number)).take blockLength)

theorem blocksFrom_eq (first : UInt16) (bytes : List UInt8) :
    blocksFrom first bytes = (List.range (blockCount bytes)).map fun number =>
      ⟨first + UInt16.ofNat number, blockData bytes number⟩ :=
  rfl

theorem mem_blocksFrom_iff :
    block ∈ blocksFrom first bytes ↔
      ∃ number < blockCount bytes,
        block = ⟨first + UInt16.ofNat number, blockData bytes number⟩ := by
  rw [blocksFrom_eq, List.mem_map]
  simp only [List.mem_range, eq_comm]

theorem blockData_length (bytes : List UInt8) (number : Nat) :
    (blockData bytes number).length = 16 := by
  have short : ((bytes.drop (blockLength * number)).take blockLength).length ≤ 16 :=
    List.length_take_le _ _
  unfold blockData padBlock
  rw [List.length_append, List.length_replicate]
  change _ + (16 - _) = 16
  omega

theorem getD_append_replicate (bytes : List UInt8) (count place : Nat) (filler : UInt8) :
    (bytes ++ List.replicate count filler).getD place filler = bytes.getD place filler := by
  by_cases inside : place < bytes.length
  · rw [List.getD_append _ _ _ _ inside]
  · have beyond : bytes.length ≤ place := Nat.le_of_not_lt inside
    rw [List.getD_append_right _ _ _ _ beyond, List.getD_eq_default bytes filler beyond,
      List.getD_eq_getElem?_getD]
    exact List.getElem?_getD_replicate_default_eq filler count _

/-- A block holds the bytes from its place on. -/
theorem blockData_getD
    (bytes : List UInt8) (number : Nat) {place : Nat} (inside : place < 16) :
    (blockData bytes number).getD place erased = bytes.getD (16 * number + place) erased := by
  have within : place < blockLength := inside
  unfold blockData padBlock
  rw [getD_append_replicate]
  simp only [List.getD_eq_getElem?_getD, List.getElem?_take_of_lt within, List.getElem?_drop]
  rfl

theorem toNat_block_index
    {number : Nat} (fits : first.toNat + number < 65536) :
    (first + UInt16.ofNat number).toNat = first.toNat + number := by
  rw [UInt16.toNat_add, UInt16.toNat_ofNat']
  omega

/-- Which block of some bytes has a number. -/
theorem mem_blocksFrom_at_iff
    {limit number : Nat} {data : List UInt8}
    (fits : first.toNat + limit ≤ 65536) (enough : blockCount bytes ≤ limit)
    (inside : number < limit) :
    ⟨first + UInt16.ofNat number, data⟩ ∈ blocksFrom first bytes ↔
      number < blockCount bytes ∧ data = blockData bytes number := by
  rw [mem_blocksFrom_iff]
  constructor
  · rintro ⟨other, small, equal⟩
    have sameIndex : first + UInt16.ofNat number = first + UInt16.ofNat other :=
      congrArg ScriptBlock.index equal
    have sameNumber : number = other := by
      have equal := congrArg UInt16.toNat sameIndex
      rw [toNat_block_index (by omega), toNat_block_index (by omega)] at equal
      exact Nat.add_left_cancel equal
    subst sameNumber
    exact ⟨small, congrArg ScriptBlock.data equal⟩
  · rintro ⟨small, rfl⟩
    exact ⟨number, small, rfl⟩

theorem blocksFrom_indices
    (first : UInt16) (bytes : List UInt8) (fits : first.toNat + blockCount bytes ≤ 65536) :
    (blocksFrom first bytes).map (·.index.toNat) =
      (List.range (blockCount bytes)).map (first.toNat + ·) := by
  rw [blocksFrom_eq, List.map_map]
  apply List.map_congr_left
  intro number member
  have bound := List.mem_range.mp member
  exact toNat_block_index (by omega)

end Blocks

/-! ## Images -/

theorem Model.maxScriptLength_eq (model : Model) :
    model.maxScriptLength = 16 * model.tableBlock.toNat := by
  cases model <;> rfl

theorem Model.tableBlock_le (model : Model) : model.tableBlock.toNat ≤ 512 := by
  cases model <;> decide

namespace TableEntry

theorem store_length (table : List UInt8) (entry : TableEntry) :
    (store table entry).length = table.length := by
  unfold store
  rw [List.length_set, List.length_set]

theorem foldl_store_length (entries : List TableEntry) (table : List UInt8) :
    (entries.foldl store table).length = table.length := by
  induction entries generalizing table with
  | nil =>
      rfl
  | cons first rest inductionHypothesis =>
      rw [List.foldl_cons, inductionHypothesis, store_length]

end TableEntry

theorem subroutineTable_length (unused : UInt8) (entries : List TableEntry) :
    (subroutineTable unused entries).length = 256 := by
  unfold subroutineTable
  rw [TableEntry.foldl_store_length, List.length_replicate]
  rfl

namespace ScriptImage

/-- All blocks of an image, in the order in which they are written. -/
def blocks (image : ScriptImage) : List ScriptBlock :=
  image.tableBlocks ++ image.codeBlocks

section Layout

variable {program : Program} {model : Model}

theorem layout_of_build {image : ScriptImage} (built : build program model = .ok image) :
    program.Fits model ∧ image = layout program model :=
  (build_settles program model).eq_ok_iff.mp built

theorem byteCode_length_le (fits : program.Fits model) :
    (layout program model).byteCode.length ≤ 16 * model.tableBlock.toNat := by
  have length := fits.length
  rw [← model.maxScriptLength_eq]
  unfold layout
  dsimp only
  split
  · rw [List.length_append]
    exact Nat.succ_le_of_lt ‹_›
  · exact length

theorem codeBlockCount_le (fits : program.Fits model) :
    blockCount (layout program model).byteCode ≤ model.tableBlock.toNat := by
  have length := byteCode_length_le fits
  unfold blockCount blockLength
  omega

theorem tableBlockCount (program : Program) (model : Model) :
    blockCount (layout program model).table = 16 := by
  unfold blockCount
  rw [show (layout program model).table.length = 256 from subroutineTable_length _ _]
  rfl

theorem codeBlocks_indices (fits : program.Fits model) :
    (layout program model).codeBlocks.map (·.index.toNat) =
      List.range (blockCount (layout program model).byteCode) := by
  have count := codeBlockCount_le fits
  have small := model.tableBlock_le
  have indices := blocksFrom_indices 0 (layout program model).byteCode
    (by change 0 + _ ≤ _; omega)
  have zero : (0 : UInt16).toNat = 0 := rfl
  simp only [zero, Nat.zero_add, List.map_id'] at indices
  exact indices

theorem tableBlocks_indices (program : Program) (model : Model) :
    (layout program model).tableBlocks.map (·.index.toNat) =
      (List.range 16).map (model.tableBlock.toNat + ·) := by
  have count := tableBlockCount program model
  have small := model.tableBlock_le
  rw [← count]
  exact blocksFrom_indices _ _ (by
    change model.tableBlock.toNat + blockCount (layout program model).table ≤ _
    omega)

theorem index_lt_of_mem_codeBlocks
    (fits : program.Fits model) {block : ScriptBlock}
    (member : block ∈ (layout program model).codeBlocks) :
    block.index.toNat < model.tableBlock.toNat := by
  have count := codeBlockCount_le fits
  have listed := List.mem_map_of_mem (f := fun block => block.index.toNat) member
  rw [codeBlocks_indices fits, List.mem_range] at listed
  omega

theorem index_of_mem_tableBlocks
    {block : ScriptBlock} (member : block ∈ (layout program model).tableBlocks) :
    model.tableBlock.toNat ≤ block.index.toNat ∧
      block.index.toNat < model.tableBlock.toNat + 16 := by
  have listed := List.mem_map_of_mem (f := fun block => block.index.toNat) member
  rw [tableBlocks_indices, List.mem_map] at listed
  obtain ⟨number, small, equal⟩ := listed
  have bound := List.mem_range.mp small
  omega

theorem data_length_of_mem_blocks
    {block : ScriptBlock} (member : block ∈ (layout program model).blocks) :
    block.data.length = 16 := by
  rcases List.mem_append.mp member with table | code
  · obtain ⟨number, _, rfl⟩ := mem_blocksFrom_iff.mp table
    exact blockData_length _ number
  · obtain ⟨number, _, rfl⟩ := mem_blocksFrom_iff.mp code
    exact blockData_length _ number

/-- No two blocks of an image have the same number. -/
theorem blocks_apart (fits : program.Fits model) :
    ((layout program model).blocks.map (·.index)).Nodup := by
  have numbers : ((layout program model).blocks.map (·.index.toNat)).Nodup := by
    have table : ((List.range 16).map (model.tableBlock.toNat + ·)).Nodup :=
      List.nodup_range.map (fun _ _ => Nat.add_left_cancel)
    unfold blocks
    rw [List.map_append, tableBlocks_indices, codeBlocks_indices fits]
    apply table.append List.nodup_range
    intro number inTable inCode
    have count := codeBlockCount_le fits
    have below := List.mem_range.mp inCode
    obtain ⟨offset, _, equal⟩ := List.mem_map.mp inTable
    omega
  have mapped : (layout program model).blocks.map (·.index.toNat) =
      ((layout program model).blocks.map (·.index)).map UInt16.toNat := by
    rw [List.map_map]
    rfl
  rw [mapped] at numbers
  exact numbers.of_map UInt16.toNat

end Layout

end ScriptImage

end ServoLink
