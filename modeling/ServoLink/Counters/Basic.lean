namespace ServoLink

/-! ## Transfer counters -/

/-- What a session has done so far.  The counters of a session are words of 64 bits.  A transfer
adds at most one to each, so none of them overflows in a run whose log fits in memory, and natural
numbers count the same. -/
structure Counters where
  controlOut : Nat := 0
  controlIn : Nat := 0
  parameterWrites : Nat := 0
  scriptBlocks : Nat := 0
  deriving DecidableEq, Repr, Inhabited

/-- What a transfer to the device counts as, besides a transfer. -/
inductive Tally where
  | parameterWrite
  | scriptBlock
  deriving DecidableEq, Repr

namespace Counters

/-- Counts a completed transfer to the device. -/
def sent (counters : Counters) (tally : Option Tally) : Counters :=
  let counted := { counters with controlOut := counters.controlOut + 1 }
  match tally with
  | none => counted
  | some .parameterWrite => { counted with parameterWrites := counted.parameterWrites + 1 }
  | some .scriptBlock => { counted with scriptBlocks := counted.scriptBlocks + 1 }

/-- Counts a completed transfer from the device. -/
def received (counters : Counters) : Counters :=
  { counters with controlIn := counters.controlIn + 1 }

end Counters

end ServoLink
