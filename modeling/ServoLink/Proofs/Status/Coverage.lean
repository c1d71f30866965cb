import Mathlib.Tactic.ByContra
import ServoLink.Proofs.Status.Indexed

/-!
# The length of a reply decides

A reply to a status query is decoded exactly if it has the length that was asked for, and
the report then has an entry for everything that the model has of its kind.
-/

namespace ServoLink

/-! ## What a report holds -/

/-- The record in the reply to a status query. -/
def Model.statusReply (model : Model) (kind : StatusKind) : Reply :=
  match model.family with
  | .compact => .variablesAndServoStatus
  | .extended =>
      match kind with
      | .deviceVariables => .deviceVariables
      | .servos => .servoStatusArray
      | .stack => .stack
      | .callStack => .callStack

/-- Everything that the model has of the report's kind is in the report.  Only compact
controllers report their stacks with the variables. -/
def StatusReport.Covers (model : Model) : StatusReport → Prop
  | deviceVariables record =>
      match model.family with
      | .compact =>
          record.stack.length = model.stackSize ∧
            record.callStack.length = model.callStackSize
      | .extended => record.stack = [] ∧ record.callStack = []
  | servos channels => channels.length = model.channelCount
  | stack slots => slots.length = model.stackSize
  | callStack addresses => addresses.length = model.callStackSize

/-! ## Records of the right length -/

section Records

variable {buffer : List UInt8}

theorem decodeAll_of_length
    {count : Nat} (right : buffer.length = count * servoStatusLength) :
    ∃ servos, ServoStatus.decodeAll buffer count = .ok servos ∧ servos.length = count := by
  unfold ServoStatus.decodeAll
  rw [expectLength_of_eq _ right]
  exact ⟨_, rfl, by rw [List.length_map, List.length_range]⟩

theorem decodeExtended_of_length (right : buffer.length = extendedVariablesLength) :
    ∃ record, Variables.decodeExtended buffer = .ok record ∧
      record.stack = [] ∧ record.callStack = [] := by
  unfold Variables.decodeExtended
  rw [expectLength_of_eq _ right]
  exact ⟨_, rfl, rfl, rfl⟩

theorem decodeCompact_of_length (right : buffer.length = compactVariablesLength) :
    ∃ record, Variables.decodeCompact buffer = .ok record ∧
      record.stack.length = 32 ∧ record.callStack.length = 10 := by
  unfold Variables.decodeCompact
  rw [expectLength_of_eq _ right]
  exact ⟨_, rfl, by rw [List.length_map, List.length_range],
    by rw [List.length_map, List.length_range]⟩

/-- The combined record divides into parts of the right lengths. -/
theorem length_compactParts
    {count : Nat}
    (right : buffer.length = compactVariablesLength + count * servoStatusLength) :
    (buffer.take compactVariablesLength).length = compactVariablesLength ∧
      (buffer.drop compactVariablesLength).length = count * servoStatusLength := by
  constructor
  · rw [List.length_take, right, Nat.min_eq_left (Nat.le_add_right _ _)]
  · rw [List.length_drop, right, Nat.add_sub_cancel_left]

theorem decodeCompactStatus_of_length
    {count : Nat}
    (right : buffer.length = compactVariablesLength + count * servoStatusLength) :
    ∃ record servos, decodeCompactStatus buffer count = .ok (record, servos) ∧
      record.stack.length = 32 ∧ record.callStack.length = 10 ∧
      servos.length = count := by
  obtain ⟨front, rest⟩ := length_compactParts right
  obtain ⟨record, decoded, stack, callStack⟩ := decodeCompact_of_length front
  obtain ⟨servos, following, length⟩ := decodeAll_of_length rest
  refine ⟨record, servos, ?_, stack, callStack, length⟩
  unfold decodeCompactStatus
  rw [expectLength_of_eq _ right, decoded, following]
  rfl

theorem wordsOf_length {size : Nat} (right : buffer.length = 2 * size) :
    (wordsOf buffer).length = size := by
  rw [Indexed.wordsOf_eq, List.length_map, List.length_range, right,
    Nat.mul_div_cancel_left _ (by decide)]

theorem decodeCallStack_of_length {size : Nat} (right : buffer.length = 2 * size) :
    ∃ addresses, decodeCallStack buffer size = .ok addresses ∧ addresses.length = size := by
  unfold decodeCallStack
  rw [expectLength_of_eq _ right]
  exact ⟨_, rfl, wordsOf_length right⟩

theorem decodeStack_of_length {size : Nat} (right : buffer.length = 2 * size) :
    ∃ slots, decodeStack buffer size = .ok slots ∧ slots.length = size := by
  unfold decodeStack
  rw [expectLength_of_eq _ right]
  exact ⟨_, rfl, by rw [List.length_map, wordsOf_length right]⟩

end Records

/-! ## Replies to a query -/

namespace Model

variable {model : Model} {kind : StatusKind} {buffer : List UInt8}

/-- A reply of the queried length holds a report of the queried kind. -/
theorem decodeStatus_of_length
    (right : buffer.length = (model.statusQuery kind).length) :
    ∃ report, model.decodeStatus kind buffer = .ok report ∧ report.kind = kind ∧
      report.Covers model := by
  unfold decodeStatus
  unfold statusQuery at right
  cases family : model.family with
  | compact =>
      rw [family] at right
      obtain ⟨record, servos, decoded, stack, callStack, length⟩ :=
        decodeCompactStatus_of_length right
      have slots : model.stackSize = 32 := by
        unfold stackSize
        rw [family]
      have addresses : model.callStackSize = 10 := by
        unfold callStackSize
        rw [family]
      rw [← slots] at stack
      rw [← addresses] at callStack
      rw [decoded]
      cases kind with
      | deviceVariables =>
          refine ⟨.deviceVariables record, rfl, rfl, ?_⟩
          unfold StatusReport.Covers
          rw [family]
          exact ⟨stack, callStack⟩
      | servos => exact ⟨.servos servos, rfl, rfl, length⟩
      | stack => exact ⟨.stack record.stack, rfl, rfl, stack⟩
      | callStack => exact ⟨.callStack record.callStack, rfl, rfl, callStack⟩
  | extended =>
      rw [family] at right
      cases kind with
      | deviceVariables =>
          obtain ⟨record, decoded, empty⟩ := decodeExtended_of_length right
          refine ⟨.deviceVariables record, congrArg (StatusReport.deviceVariables <$> ·) decoded,
            rfl, ?_⟩
          unfold StatusReport.Covers
          rw [family]
          exact empty
      | servos =>
          obtain ⟨servos, decoded, length⟩ := decodeAll_of_length right
          exact ⟨.servos servos, congrArg (StatusReport.servos <$> ·) decoded, rfl, length⟩
      | stack =>
          obtain ⟨slots, decoded, length⟩ := decodeStack_of_length right
          exact ⟨.stack slots, congrArg (StatusReport.stack <$> ·) decoded, rfl, length⟩
      | callStack =>
          obtain ⟨addresses, decoded, length⟩ := decodeCallStack_of_length right
          exact ⟨.callStack addresses, congrArg (StatusReport.callStack <$> ·) decoded, rfl,
            length⟩

theorem decodeStatus_of_ne
    (wrong : buffer.length ≠ (model.statusQuery kind).length) :
    model.decodeStatus kind buffer =
      .error (.shortRead (model.statusReply kind) (model.statusQuery kind).length
        buffer.length) := by
  unfold decodeStatus statusReply
  unfold statusQuery at wrong ⊢
  cases family : model.family with
  | compact =>
      rw [family] at wrong
      unfold decodeCompactStatus
      rw [expectLength_of_ne _ wrong]
      rfl
  | extended =>
      rw [family] at wrong
      cases kind with
      | deviceVariables =>
          unfold Variables.decodeExtended
          rw [expectLength_of_ne _ wrong]
          rfl
      | servos =>
          unfold ServoStatus.decodeAll
          rw [expectLength_of_ne _ wrong]
          rfl
      | stack =>
          unfold decodeStack
          rw [expectLength_of_ne _ wrong]
          rfl
      | callStack =>
          unfold decodeCallStack
          rw [expectLength_of_ne _ wrong]
          rfl

theorem decodeStatus_ok_iff :
    (∃ report, model.decodeStatus kind buffer = .ok report) ↔
      buffer.length = (model.statusQuery kind).length := by
  constructor
  · rintro ⟨report, decoded⟩
    by_contra wrong
    rw [decodeStatus_of_ne wrong] at decoded
    cases decoded
  · intro right
    obtain ⟨report, decoded, _⟩ := decodeStatus_of_length right
    exact ⟨report, decoded⟩

theorem report_of_decodeStatus
    {report : StatusReport} (decoded : model.decodeStatus kind buffer = .ok report) :
    report.kind = kind ∧ report.Covers model := by
  obtain ⟨found, again, right⟩ :=
    decodeStatus_of_length (decodeStatus_ok_iff.mp ⟨report, decoded⟩)
  rw [decoded] at again
  cases again
  exact right

end Model

end ServoLink
