import ServoLink.Model
import ServoLink.Script.Program
import ServoLink.Word

namespace ServoLink

/-! ## Script memory -/

/-- The instruction that ends a script. -/
def quit : UInt8 := 0x00

/-- The number of bytes in a block of script memory. -/
def blockLength : Nat := 16

/-- What script memory reads as where nothing has been written. -/
def erased : UInt8 := 0xFF

/-- The subroutine table has two bytes for each opcode from 128 on. -/
def subroutineTableLength : Nat := 256

/-- The least opcode that indexes the subroutine table. -/
def firstTableOpcode : UInt8 := 128

/-- One block of script memory. -/
structure ScriptBlock where
  index : UInt16
  data : List UInt8
  deriving DecidableEq, Repr

/-- A block's worth of bytes, filled up with erased ones. -/
def padBlock (bytes : List UInt8) : List UInt8 :=
  bytes ++ List.replicate (blockLength - bytes.length) erased

/-- The blocks that hold `bytes` from block `first` on. -/
def blocksFrom (first : UInt16) (bytes : List UInt8) : List ScriptBlock :=
  (List.range ((bytes.length + blockLength - 1) / blockLength)).map fun number =>
    ⟨first + UInt16.ofNat number,
      padBlock ((bytes.drop (blockLength * number)).take blockLength)⟩

/-! ## The subroutine table -/

/-- An opcode with the address it stands for. -/
structure TableEntry where
  opcode : UInt8
  address : UInt16
  deriving DecidableEq, Repr

/-- The table entry of one addressed subroutine; a subroutine that is only called
needs none. -/
def Program.tableEntry (program : Program) (name : String) (address : UInt16) :
    Except ValidationError (Option TableEntry) :=
  match program.subroutineCommands.get? name with
  | none => .error (.unknownSubroutine name)
  | some .callOnly => .ok none
  | some (.opcode code) =>
      if code < firstTableOpcode then
        .error (.subroutineOpcode name code)
      else
        .ok (some ⟨code, address⟩)

/-- The table entries of a program in the order of the subroutines' names. -/
def Program.tableEntries (program : Program) : Except ValidationError (List TableEntry) := do
  let found ← program.subroutineAddresses.entries.mapM fun entry =>
    program.tableEntry entry.1 entry.2
  return found.filterMap id

/-- Stores an address in the two bytes of its opcode. -/
def TableEntry.store (table : List UInt8) (entry : TableEntry) : List UInt8 :=
  let slot := 2 * (entry.opcode.toNat - firstTableOpcode.toNat)
  (table.set slot entry.address.toUInt8).set (slot + 1) (entry.address >>> 8).toUInt8

/-- A table of `unused` bytes with the entries stored in order, so that a later entry
of an opcode replaces an earlier one. -/
def subroutineTable (unused : UInt8) (entries : List TableEntry) : List UInt8 :=
  entries.foldl TableEntry.store (List.replicate subroutineTableLength unused)

/-! ## Images -/

/-- A program laid out for one model. -/
structure ScriptImage where
  /-- The byte code, with its terminator where there is room for one. -/
  byteCode : List UInt8
  table : List UInt8
  tableBlock : UInt16
  deriving DecidableEq, Repr

namespace ScriptImage

/-- The image of a program.  A script that is too long is reported before any fault
of a subroutine, and of two faulty subroutines the one whose name comes first. -/
def build (program : Program) (model : Model) : Except ValidationError ScriptImage := do
  let length := program.byteCode.length
  if model.maxScriptLength < length then
    throw (.scriptTooLong length model.maxScriptLength)
  let entries ← program.tableEntries
  return {
    byteCode :=
      if length < model.maxScriptLength then program.byteCode ++ [quit] else program.byteCode
    table := subroutineTable erased entries
    tableBlock := model.tableBlock }

def codeBlocks (image : ScriptImage) : List ScriptBlock :=
  blocksFrom 0 image.byteCode

def tableBlocks (image : ScriptImage) : List ScriptBlock :=
  blocksFrom image.tableBlock image.table

end ScriptImage

end ServoLink
