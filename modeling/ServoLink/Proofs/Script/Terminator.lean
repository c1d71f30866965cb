import ServoLink.Proofs.Script.Blocks

/-!
# Where a script ends

The blocks of an image put together are its bytes with some erased ones behind them.  The last
byte in front of the table that is not erased is the terminator of a script that has one, so
script memory determines the byte code, whatever bytes the code itself ends in.
-/

namespace ServoLink

/-! ## Blocks put together -/

section Blocks

variable {first : UInt16} {bytes : List UInt8}

theorem flatMap_blockData (bytes : List UInt8) (count : Nat) :
    (List.range count).flatMap (blockData bytes) =
      bytes.take (16 * count) ++ List.replicate (16 * count - bytes.length) erased := by
  induction count with
  | zero =>
      simp
  | succ count inductionHypothesis =>
      have next : 16 * (count + 1) = 16 * count + 16 := Nat.mul_succ 16 count
      have block : blockData bytes count =
          (bytes.drop (16 * count)).take 16 ++
            List.replicate (16 - ((bytes.drop (16 * count)).take 16).length) erased :=
        rfl
      rw [List.range_succ, List.flatMap_append, List.flatMap_singleton, inductionHypothesis,
        block, next, List.take_add]
      by_cases inside : 16 * count ≤ bytes.length
      · have whole : 16 * count - bytes.length = 0 := Nat.sub_eq_zero_of_le inside
        have padding : 16 - ((bytes.drop (16 * count)).take 16).length =
            16 * count + 16 - bytes.length := by
          rw [List.length_take, List.length_drop]
          omega
        rw [whole, List.replicate_zero, List.append_nil, padding, ← List.append_assoc]
      · have beyond : bytes.length ≤ 16 * count := Nat.le_of_not_le inside
        have padding : 16 * count + 16 - bytes.length = 16 * count - bytes.length + 16 := by
          omega
        rw [List.drop_eq_nil_of_le beyond, padding, List.replicate_add]
        simp

theorem flatMap_blocksFrom (first : UInt16) (bytes : List UInt8) :
    (blocksFrom first bytes).flatMap (·.data) =
      bytes ++ List.replicate (16 * blockCount bytes - bytes.length) erased := by
  have enough : bytes.length ≤ 16 * blockCount bytes :=
    Nat.not_lt.mp (mt lt_blockCount_iff.mpr (Nat.lt_irrefl (blockCount bytes)))
  rw [blocksFrom_eq, List.flatMap_map]
  change (List.range (blockCount bytes)).flatMap (blockData bytes) = _
  rw [flatMap_blockData, List.take_of_length_le enough]

theorem padding_lt (bytes : List UInt8) : 16 * blockCount bytes - bytes.length < 16 := by
  unfold blockCount blockLength
  omega

end Blocks

/-! ## Reading blocks -/

/-- The byte at a place of script memory that holds these blocks and nothing else. -/
def ScriptBlock.byteAt (blocks : List ScriptBlock) (place : Nat) : UInt8 :=
  match blocks.find? fun block => block.index.toNat = place / blockLength with
  | some block => block.data.getD (place % blockLength) erased
  | none => erased

/-- All bytes in front of the table, in script memory that holds these blocks and nothing
else. -/
def Model.codeRegion (model : Model) (blocks : List ScriptBlock) : List UInt8 :=
  (List.range model.maxScriptLength).map (ScriptBlock.byteAt blocks)

theorem byteAt_blocksFrom
    {bytes : List UInt8} (fits : blockCount bytes ≤ 65536) (place : Nat) :
    ScriptBlock.byteAt (blocksFrom 0 bytes) place = bytes.getD place erased := by
  have index (number : Nat) (inside : number < blockCount bytes) :
      (0 + UInt16.ofNat number).toNat = number := by
    rw [UInt16.zero_add, UInt16.toNat_ofNat']
    exact Nat.mod_eq_of_lt (by omega)
  have remainder : place % 16 < 16 := Nat.mod_lt place (by decide)
  have parts : 16 * (place / blockLength) + place % 16 = place := Nat.div_add_mod place 16
  unfold ScriptBlock.byteAt
  cases found : (blocksFrom 0 bytes).find? fun block => block.index.toNat = place / blockLength with
  | none =>
      have absent := List.find?_eq_none.mp found
      have beyond : bytes.length ≤ place := by
        by_contra inside
        have small : place / 16 < blockCount bytes := lt_blockCount_iff.mpr (by omega)
        have member := mem_blocksFrom_iff.mpr
          ⟨place / 16, small, (rfl : (⟨0 + _, _⟩ : ScriptBlock) = _)⟩
        exact absent _ member (decide_eq_true (index _ small))
      exact (List.getD_eq_default bytes erased beyond).symm
  | some block =>
      obtain ⟨number, small, rfl⟩ := mem_blocksFrom_iff.mp (List.mem_of_find?_eq_some found)
      have same := List.find?_some found
      simp only [decide_eq_true_eq] at same
      rw [index number small] at same
      subst same
      exact (blockData_getD bytes _ remainder).trans (by rw [parts])

/-! ## The end of a script -/

/-- What stands in front of the last byte that is not erased. -/
def beforeTerminator (region : List UInt8) : List UInt8 :=
  (region.reverse.dropWhile (· = erased)).tail.reverse

theorem beforeTerminator_eq (code : List UInt8) (padding : Nat) :
    beforeTerminator (code ++ [quit] ++ List.replicate padding erased) = code := by
  have stops : ([quit] ++ code.reverse).dropWhile (· = erased) = [quit] ++ code.reverse := by
    rw [List.singleton_append, List.dropWhile_cons_of_neg (by decide)]
  unfold beforeTerminator
  rw [List.reverse_append, List.reverse_append, List.reverse_replicate, List.reverse_singleton,
    List.dropWhile_append_of_pos (by simp), stops]
  simp

namespace ScriptImage

variable {program : Program} {model : Model}

theorem codeRegion_codeBlocks (fits : program.Fits model) :
    model.codeRegion (layout program model).codeBlocks =
      (layout program model).byteCode ++
        List.replicate (model.maxScriptLength - (layout program model).byteCode.length)
          erased := by
  have length := byteCode_length_le fits
  have count := codeBlockCount_le fits
  have small := model.tableBlock_le
  rw [← model.maxScriptLength_eq] at length
  unfold Model.codeRegion
  apply List.ext_getElem
  · simp only [List.length_map, List.length_range, List.length_append, List.length_replicate]
    omega
  · intro place inside within
    rw [List.getElem_map, List.getElem_range, ← List.getD_eq_getElem _ erased within,
      getD_append_replicate]
    exact byteAt_blocksFrom (by omega) place

/-- The byte code of a program that is shorter than its region can be read back from it. -/
theorem beforeTerminator_codeRegion
    (fits : program.Fits model) (short : program.byteCode.length < model.maxScriptLength) :
    beforeTerminator (model.codeRegion (layout program model).codeBlocks) = program.byteCode := by
  have terminated : (layout program model).byteCode = program.byteCode ++ [quit] := if_pos short
  rw [codeRegion_codeBlocks fits, terminated, beforeTerminator_eq]

/-- The code blocks of an image are numbered without gaps up to the table and hold the byte
code, the table blocks hold the table, and the code region tells where the code ends. -/
theorem codeBlocks_unambiguous
    {image : ScriptImage} (built : build program model = .ok image) :
    (image.byteCode =
        program.byteCode ++
          if program.byteCode.length < model.maxScriptLength then [quit] else []) ∧
      (∃ padding < blockLength,
        image.codeBlocks.flatMap (·.data) =
          image.byteCode ++ List.replicate padding erased) ∧
      image.codeBlocks.map (·.index.toNat) = List.range image.codeBlocks.length ∧
      (∀ block ∈ image.codeBlocks, block.index.toNat < model.tableBlock.toNat) ∧
      image.tableBlocks.map (·.index.toNat) =
        (List.range 16).map (model.tableBlock.toNat + ·) ∧
      image.tableBlocks.flatMap (·.data) = image.table ∧
      ∀ other otherImage,
        build other model = .ok otherImage →
          program.byteCode.length < model.maxScriptLength →
            other.byteCode.length < model.maxScriptLength →
              model.codeRegion image.codeBlocks = model.codeRegion otherImage.codeBlocks →
                program.byteCode = other.byteCode := by
  obtain ⟨fits, rfl⟩ := layout_of_build built
  have tableSize : (layout program model).table.length = 256 := subroutineTable_length _ _
  refine ⟨?_, ⟨_, padding_lt _, flatMap_blocksFrom _ _⟩, ?_,
    fun _ => index_lt_of_mem_codeBlocks fits, tableBlocks_indices program model, ?_, ?_⟩
  · unfold layout
    dsimp only
    split <;> simp
  · rw [codeBlocks_indices fits]
    simp [codeBlocks, blocksFrom_eq]
  · have whole := flatMap_blocksFrom model.tableBlock (layout program model).table
    rw [tableBlockCount, tableSize] at whole
    exact whole.trans (List.append_nil _)
  · intro other otherImage otherBuilt short otherShort same
    obtain ⟨otherFits, rfl⟩ := layout_of_build otherBuilt
    rw [← beforeTerminator_codeRegion fits short, same,
      beforeTerminator_codeRegion otherFits otherShort]

/-- A script that ends in the terminator's byte leaves other code in memory than the same
script without this byte. -/
theorem codeBlocks_unambiguous_micro6 :
    let stopping : Program := { byteCode := [5, 0] }
    let plain : Program := { byteCode := [5] }
    build stopping .micro6 = .ok (layout stopping .micro6) ∧
      build plain .micro6 = .ok (layout plain .micro6) ∧
      Model.micro6.codeRegion (layout stopping .micro6).codeBlocks ≠
        Model.micro6.codeRegion (layout plain .micro6).codeBlocks := by
  intro stopping plain
  have built := (build_settles stopping .micro6).accept ⟨by decide, fun _ => nofun⟩
  have plainBuilt := (build_settles plain .micro6).accept ⟨by decide, fun _ => nofun⟩
  refine ⟨built, plainBuilt, fun same => ?_⟩
  obtain ⟨-, -, -, -, -, -, determined⟩ := codeBlocks_unambiguous built
  have equal := determined plain _ plainBuilt (by decide) (by decide) same
  exact absurd equal (by decide)

end ScriptImage

end ServoLink
