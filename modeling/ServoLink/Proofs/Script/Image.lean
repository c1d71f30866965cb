import ServoLink.Proofs.Check
import ServoLink.Script.Checksum

/-!
# Which programs have an image

A program has an image on a model exactly when its byte code fits and the table has a
place for each of its addressed subroutines.  Its checksum asks for the second of these
only, so a program that has an image has a checksum.
-/

namespace ServoLink

/-! ## The subroutine table -/

namespace Program

/-- The table can not hold the subroutine: it has no command, or one of an opcode that
indexes no table entry. -/
def Misplaced (program : Program) (name : String) : Prop :=
  program.subroutineCommands.get? name = none ∨
    ∃ code, program.subroutineCommands.get? name = some (.opcode code) ∧
      code < firstTableOpcode

/-- The table entry of a subroutine that is not misplaced. -/
def placed? (program : Program) (name : String) (address : UInt16) : Option TableEntry :=
  match program.subroutineCommands.get? name with
  | some (.opcode code) => some ⟨code, address⟩
  | _ => none

/-- All table entries, if no subroutine is misplaced. -/
def placed (program : Program) : List TableEntry :=
  (program.subroutineAddresses.entries.map fun entry =>
    program.placed? entry.1 entry.2).filterMap id

def AllPlaced (program : Program) : Prop :=
  ∀ entry ∈ program.subroutineAddresses.entries, ¬ program.Misplaced entry.1

variable (program : Program)

theorem tableEntry_settles (name : String) (address : UInt16) :
    Settles (program.tableEntry name address) (¬ program.Misplaced name) (fun _ => True)
      (program.placed? name address) := by
  unfold tableEntry Misplaced placed?
  cases found : program.subroutineCommands.get? name with
  | none =>
      exact ⟨fun kept => absurd (Or.inl rfl) kept, fun _ => ⟨_, rfl, True.intro⟩⟩
  | some command =>
      cases command with
      | callOnly =>
          exact (Settles.ok none).congr (by simp)
      | opcode code =>
          by_cases low : code < firstTableOpcode
          · simp only [low, if_true]
            refine ⟨fun kept => absurd ?_ kept, fun _ => ⟨_, rfl, True.intro⟩⟩
            exact Or.inr ⟨code, rfl, low⟩
          · simp only [low, if_false]
            refine (Settles.ok _).congr (iff_of_true True.intro ?_)
            rintro (missing | ⟨other, same, below⟩)
            · cases missing
            · cases same
              exact low below

theorem tableEntries_settles :
    Settles program.tableEntries program.AllPlaced (fun _ => True) program.placed := by
  have entries := Settles.mapM fun entry (_ : entry ∈ program.subroutineAddresses.entries) =>
    program.tableEntry_settles entry.1 entry.2
  refine (entries.bind fun _ => Settles.pure program.placed).congr ?_
  exact and_iff_left True.intro

/-- The length of the byte code plays no part in a checksum. -/
theorem computeChecksum_settles :
    Settles program.computeChecksum program.AllPlaced (fun _ => True)
      (crc16 (subroutineTable 0 program.placed ++ program.byteCode)) := by
  have message : Settles program.checkedMessage program.AllPlaced (fun _ => True)
      (subroutineTable 0 program.placed ++ program.byteCode) := by
    refine (program.tableEntries_settles.bind fun _ =>
      Settles.pure (subroutineTable 0 program.placed ++ program.byteCode)).congr ?_
    exact and_iff_left True.intro
  exact message.map crc16

/-- A program that script memory of a model has room and places for. -/
structure Fits (program : Program) (model : Model) : Prop where
  length : program.byteCode.length ≤ model.maxScriptLength
  placed : program.AllPlaced

end Program

/-! ## Images -/

namespace ScriptImage

def layout (program : Program) (model : Model) : ScriptImage where
  byteCode :=
    if program.byteCode.length < model.maxScriptLength then program.byteCode ++ [quit]
    else program.byteCode
  table := subroutineTable erased program.placed
  tableBlock := model.tableBlock

theorem build_settles (program : Program) (model : Model) :
    Settles (build program model) (program.Fits model) (fun _ => True)
      (layout program model) := by
  have fits : program.Fits model ↔
      program.byteCode.length ≤ model.maxScriptLength ∧ program.AllPlaced :=
    ⟨fun fit => ⟨fit.length, fit.placed⟩, fun both => ⟨both.1, both.2⟩⟩
  unfold build
  by_cases long : model.maxScriptLength < program.byteCode.length
  · simp only [long, if_true]
    refine ⟨fun fit => absurd fit.length (Nat.not_le.mpr long), fun _ => ?_⟩
    exact ⟨_, rfl, True.intro⟩
  · simp only [long, if_false]
    refine (program.tableEntries_settles.bind fun _ =>
      Settles.pure (layout program model)).congr ?_
    simp only [fits, Nat.not_lt.mp long, true_and, and_true]

end ScriptImage

end ServoLink
