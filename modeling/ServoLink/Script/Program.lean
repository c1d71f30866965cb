import ServoLink.NameMap

namespace ServoLink

/-! ## Compiled scripts -/

/-- How byte code reaches a subroutine: through a one-byte opcode that indexes the
subroutine table, or only through calls that carry the address. -/
inductive SubroutineCommand where
  | opcode (code : UInt8)
  | callOnly
  deriving DecidableEq, Repr

/-- A compiled script with its subroutines by name. -/
structure Program where
  byteCode : List UInt8 := []
  subroutineAddresses : NameMap UInt16 := .empty
  subroutineCommands : NameMap SubroutineCommand := .empty
  checksum : UInt16 := 0
  deriving DecidableEq, Repr, Inhabited

end ServoLink
