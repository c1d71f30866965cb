import ServoLink.Proofs.Check
import ServoLink.Proofs.Status.Decoding

/-!
# Decoding without a stray index

`Indexed` decoders look up every byte by its index, and an index past the end of the
buffer is a fault that no reply may cause.  They read a reply field by field and record by
record.  Each of them answers as the decoder of the library does, so none of them ever
meets the fault: the length of a buffer has been checked before its bytes are used.
-/

namespace ServoLink

/-- A decoder that answers, or that meets an index past the end of its buffer. -/
abbrev Indexed (α : Type) := ExceptT ProtocolError Option α

namespace Indexed

variable {α β : Type} {buffer : List UInt8}

/-- An answer, which is a result or an error that is reported. -/
def answer (outcome : Except ProtocolError α) : Indexed α :=
  ExceptT.mk (some outcome)

def byteAt (buffer : List UInt8) (offset : Nat) : Indexed UInt8 :=
  ExceptT.lift buffer[offset]?

def wordAt (buffer : List UInt8) (offset : Nat) : Indexed UInt16 := do
  return wordOfBytes (← byteAt buffer offset) (← byteAt buffer (offset + 1))

/-- The two parts of a buffer, which has to reach as far as the cut. -/
def splitAt (buffer : List UInt8) (place : Nat) : Indexed (List UInt8 × List UInt8) :=
  ExceptT.lift (if place ≤ buffer.length then some (buffer.take place, buffer.drop place)
    else none)

/-- The consecutive parts of a buffer that have exactly `width` bytes. -/
def chunks (buffer : List UInt8) (width : Nat) : List (List UInt8) :=
  (List.range (buffer.length / width)).map fun number =>
    (buffer.drop (number * width)).take width

/-! ## Records -/

def servoStatus (buffer : List UInt8) : Indexed ServoStatus := do
  answer (expectLength .servoStatus buffer servoStatusLength)
  return {
    position := ← wordAt buffer 0
    target := ← wordAt buffer 2
    speed := ← wordAt buffer 4
    acceleration := ← byteAt buffer 6 }

def servoStatuses (buffer : List UInt8) (count : Nat) : Indexed (List ServoStatus) := do
  answer (expectLength .servoStatusArray buffer (count * servoStatusLength))
  (chunks buffer servoStatusLength).mapM servoStatus

def extendedVariables (buffer : List UInt8) : Indexed Variables := do
  answer (expectLength .deviceVariables buffer extendedVariablesLength)
  return {
    stackPointer := ← byteAt buffer 0
    callStackPointer := ← byteAt buffer 1
    errors := ⟨← wordAt buffer 2⟩
    programCounter := some (← wordAt buffer 4)
    scriptDone := ← byteAt buffer 6
    performanceFlags := some ⟨← byteAt buffer 7⟩
    stack := []
    callStack := [] }

def compactVariables (buffer : List UInt8) : Indexed Variables := do
  answer (expectLength .deviceVariables buffer compactVariablesLength)
  let stack ← (List.range 32).mapM fun slot => wordAt buffer (10 + 2 * slot)
  let callStack ← (List.range 10).mapM fun slot => wordAt buffer (74 + 2 * slot)
  return {
    stackPointer := ← byteAt buffer 0
    callStackPointer := ← byteAt buffer 1
    errors := ⟨← wordAt buffer 2⟩
    programCounter := none
    scriptDone := ← byteAt buffer 94
    performanceFlags := none
    stack := stack.map UInt16.toInt16
    callStack }

def compactStatus (buffer : List UInt8) (count : Nat) :
    Indexed (Variables × List ServoStatus) := do
  answer (expectLength .variablesAndServoStatus buffer
    (compactVariablesLength + count * servoStatusLength))
  let (front, rest) ← splitAt buffer compactVariablesLength
  return (← compactVariables front, ← servoStatuses rest count)

def stack (buffer : List UInt8) (size : Nat) : Indexed (List Int16) := do
  answer (expectLength .stack buffer (2 * size))
  (chunks buffer 2).mapM fun slot => UInt16.toInt16 <$> wordAt slot 0

def callStack (buffer : List UInt8) (size : Nat) : Indexed (List UInt16) := do
  answer (expectLength .callStack buffer (2 * size))
  (chunks buffer 2).mapM fun slot => wordAt slot 0

/-- The report in the reply to a status query. -/
def report (model : Model) (kind : StatusKind) (buffer : List UInt8) :
    Indexed StatusReport :=
  match model.family with
  | .compact => do
      let (record, servos) ← compactStatus buffer model.channelCount
      return match kind with
        | .deviceVariables => .deviceVariables record
        | .servos => .servos servos
        | .stack => .stack record.stack
        | .callStack => .callStack record.callStack
  | .extended =>
      match kind with
      | .deviceVariables => StatusReport.deviceVariables <$> extendedVariables buffer
      | .servos => StatusReport.servos <$> servoStatuses buffer model.channelCount
      | .stack => StatusReport.stack <$> stack buffer model.stackSize
      | .callStack => StatusReport.callStack <$> callStack buffer model.callStackSize

/-! ## Answers -/

theorem pure_eq_answer (result : α) : (pure result : Indexed α) = answer (.ok result) :=
  rfl

/-- Two steps that answer make a decoder that answers. -/
theorem bind_answer
    {first : Indexed α} {after : α → Indexed β}
    {outcome : Except ProtocolError α} {rest : α → Except ProtocolError β}
    (begins : first = answer outcome)
    (continues : ∀ result, outcome = .ok result → after result = answer (rest result)) :
    first >>= after = answer (outcome >>= rest) := by
  rw [begins]
  cases outcome with
  | ok result => exact continues result rfl
  | error cause => rfl

theorem map_answer
    (f : α → β) {decoder : Indexed α} {outcome : Except ProtocolError α}
    (answers : decoder = answer outcome) : f <$> decoder = answer (f <$> outcome) := by
  rw [answers]
  cases outcome <;> rfl

theorem mapM_answer
    {step : α → Indexed β} {value : α → β} {items : List α}
    (each : ∀ item ∈ items, step item = answer (.ok (value item))) :
    items.mapM step = answer (.ok (items.map value)) :=
  mapM_of_pure each

/-- A decoder that checks the length answers if it does so for buffers of that length. -/
theorem afterLength_answer
    {reply : Reply} {expected : Nat} {after : Unit → Indexed α}
    {rest : Unit → Except ProtocolError α}
    (continues : buffer.length = expected → after () = answer (rest ())) :
    answer (expectLength reply buffer expected) >>= after =
      answer (expectLength reply buffer expected >>= rest) :=
  bind_answer rfl fun _ accepted => continues (eq_of_expectLength_ok accepted)

theorem byteAt_eq {offset : Nat} (inside : offset < buffer.length) :
    byteAt buffer offset = pure (buffer.getD offset 0) := by
  unfold byteAt
  rw [List.getD_eq_getElem?_getD, List.getElem?_eq_getElem inside]
  rfl

theorem wordAt_eq {offset : Nat} (inside : offset + 1 < buffer.length) :
    wordAt buffer offset = pure (ServoLink.wordAt buffer offset) := by
  unfold wordAt
  rw [byteAt_eq inside, byteAt_eq (Nat.lt_of_succ_lt inside), pure_bind, pure_bind]
  rfl

theorem splitAt_eq {place : Nat} (inside : place ≤ buffer.length) :
    splitAt buffer place = pure (buffer.take place, buffer.drop place) := by
  unfold splitAt
  rw [if_pos inside]
  rfl

/-! ## Records answer -/

theorem servoStatus_eq (buffer : List UInt8) :
    servoStatus buffer = answer (ServoStatus.decode buffer) := by
  refine afterLength_answer fun right => ?_
  have seven : buffer.length = 7 := right
  rw [wordAt_eq (by omega), wordAt_eq (by omega), wordAt_eq (by omega),
    byteAt_eq (by omega)]
  simp only [pure_bind]
  rfl

theorem chunk_length
    {width count number : Nat} (right : buffer.length = count * width)
    (bound : number < count) :
    ((buffer.drop (number * width)).take width).length = width := by
  have room : (number + 1) * width ≤ count * width := Nat.mul_le_mul_right width bound
  rw [Nat.succ_mul] at room
  rw [List.length_take, List.length_drop]
  omega

theorem getD_take {width offset : Nat} (inside : offset < width) :
    (buffer.take width).getD offset 0 = buffer.getD offset 0 := by
  simp only [List.getD_eq_getElem?_getD, List.getElem?_take_of_lt inside]

theorem wordAt_take {width offset : Nat} (inside : offset + 1 < width) :
    ServoLink.wordAt (buffer.take width) offset = ServoLink.wordAt buffer offset := by
  unfold ServoLink.wordAt
  rw [getD_take inside, getD_take (Nat.lt_of_succ_lt inside)]

theorem ofBuffer_take (buffer : List UInt8) :
    ServoStatus.ofBuffer (buffer.take servoStatusLength) = ServoStatus.ofBuffer buffer := by
  unfold ServoStatus.ofBuffer servoStatusLength
  rw [wordAt_take (by decide), wordAt_take (by decide), wordAt_take (by decide),
    getD_take (by decide)]

theorem chunks_eq
    {width count : Nat} (positive : 0 < width) (right : buffer.length = count * width) :
    chunks buffer width =
      (List.range count).map fun number => (buffer.drop (number * width)).take width := by
  unfold chunks
  rw [right, Nat.mul_div_cancel _ positive]

theorem servoStatuses_eq (buffer : List UInt8) (count : Nat) :
    servoStatuses buffer count = answer (ServoStatus.decodeAll buffer count) := by
  refine afterLength_answer fun right => ?_
  rw [chunks_eq (by decide) right, List.mapM_map]
  refine mapM_answer fun number member => ?_
  have width := chunk_length right (List.mem_range.mp member)
  change servoStatus _ = _
  rw [servoStatus_eq]
  unfold ServoStatus.decode
  rw [expectLength_of_eq _ width, ofBuffer_take]
  rfl

theorem extendedVariables_eq (buffer : List UInt8) :
    extendedVariables buffer = answer (Variables.decodeExtended buffer) := by
  refine afterLength_answer fun right => ?_
  have eight : buffer.length = 8 := right
  rw [byteAt_eq (by omega), byteAt_eq (by omega), wordAt_eq (by omega),
    wordAt_eq (by omega), byteAt_eq (by omega), byteAt_eq (by omega)]
  simp only [pure_bind]
  rfl

theorem compactVariables_eq (buffer : List UInt8) :
    compactVariables buffer = answer (Variables.decodeCompact buffer) := by
  refine afterLength_answer fun right => ?_
  have length : buffer.length = 96 := right
  have slots : (List.range 32).mapM (fun slot => wordAt buffer (10 + 2 * slot)) =
      pure ((List.range 32).map fun slot => ServoLink.wordAt buffer (10 + 2 * slot)) :=
    mapM_answer fun slot member => by
      have bound := List.mem_range.mp member
      exact wordAt_eq (by omega)
  have addresses : (List.range 10).mapM (fun slot => wordAt buffer (74 + 2 * slot)) =
      pure ((List.range 10).map fun slot => ServoLink.wordAt buffer (74 + 2 * slot)) :=
    mapM_answer fun slot member => by
      have bound := List.mem_range.mp member
      exact wordAt_eq (by omega)
  rw [slots, addresses, byteAt_eq (by omega), byteAt_eq (by omega), wordAt_eq (by omega),
    byteAt_eq (by omega)]
  simp only [pure_bind, List.map_map]
  rfl

theorem compactStatus_eq (buffer : List UInt8) (count : Nat) :
    compactStatus buffer count = answer (decodeCompactStatus buffer count) := by
  refine afterLength_answer fun right => ?_
  rw [splitAt_eq (by rw [right]; exact Nat.le_add_right _ _), pure_bind]
  refine bind_answer (compactVariables_eq _) fun record _ => ?_
  refine bind_answer (servoStatuses_eq _ count) fun servos _ => ?_
  exact pure_eq_answer _

/-! ## Stacks answer -/

theorem wordsOf_eq (buffer : List UInt8) :
    wordsOf buffer =
      (List.range (buffer.length / 2)).map fun slot =>
        ServoLink.wordAt buffer (slot * 2) := by
  induction buffer using wordsOf.induct with
  | case1 low high rest inductionHypothesis =>
      have half : (low :: high :: rest).length / 2 = rest.length / 2 + 1 := by
        simp only [List.length_cons]
        omega
      rw [wordsOf, half, List.range_succ_eq_map, List.map_cons, List.map_map,
        inductionHypothesis]
      refine congrArg (wordOfBytes low high :: ·) (List.map_congr_left fun slot _ => ?_)
      simp only [Function.comp, Nat.succ_mul]
      rfl
  | case2 buffer short =>
      match buffer, short with
      | [], _ => rfl
      | [last], _ => simp [wordsOf]
      | low :: high :: rest, short => exact absurd rfl (short low high rest)

theorem getD_drop (buffer : List UInt8) (start offset : Nat) :
    (buffer.drop start).getD offset 0 = buffer.getD (start + offset) 0 := by
  simp only [List.getD_eq_getElem?_getD, List.getElem?_drop]

theorem wordAt_drop (buffer : List UInt8) (start offset : Nat) :
    ServoLink.wordAt (buffer.drop start) offset = ServoLink.wordAt buffer (start + offset) := by
  unfold ServoLink.wordAt
  rw [getD_drop, getD_drop, Nat.add_assoc]

/-- The words of a buffer with an even length, slot by slot. -/
theorem slot_eq
    {size slot : Nat} (right : buffer.length = size * 2) (bound : slot < size) :
    wordAt ((buffer.drop (slot * 2)).take 2) 0 =
      answer (.ok (ServoLink.wordAt buffer (slot * 2))) := by
  have width := chunk_length right bound
  rw [wordAt_eq (by omega), wordAt_take (by decide), wordAt_drop, Nat.add_zero]
  rfl

theorem callStack_eq (buffer : List UInt8) (size : Nat) :
    callStack buffer size = answer (decodeCallStack buffer size) := by
  refine afterLength_answer fun right => ?_
  rw [Nat.mul_comm] at right
  rw [chunks_eq (by decide) right, List.mapM_map]
  change _ = answer (.ok (wordsOf buffer))
  rw [wordsOf_eq, right, Nat.mul_div_cancel _ (by decide)]
  exact mapM_answer fun slot member => slot_eq right (List.mem_range.mp member)

theorem stack_eq (buffer : List UInt8) (size : Nat) :
    stack buffer size = answer (decodeStack buffer size) := by
  refine afterLength_answer fun right => ?_
  rw [Nat.mul_comm] at right
  rw [chunks_eq (by decide) right, List.mapM_map]
  change _ = answer (.ok ((wordsOf buffer).map UInt16.toInt16))
  rw [wordsOf_eq, right, Nat.mul_div_cancel _ (by decide), List.map_map]
  refine mapM_answer fun slot member => ?_
  rw [Function.comp, map_answer _ (slot_eq right (List.mem_range.mp member))]
  rfl

/-- No reply to a status query makes its decoder look past the end of the reply. -/
theorem report_eq (model : Model) (kind : StatusKind) (buffer : List UInt8) :
    report model kind buffer = answer (model.decodeStatus kind buffer) := by
  unfold report Model.decodeStatus
  cases model.family with
  | compact =>
      exact bind_answer (compactStatus_eq buffer _) fun _ _ => pure_eq_answer _
  | extended =>
      cases kind with
      | deviceVariables => exact map_answer _ (extendedVariables_eq buffer)
      | servos => exact map_answer _ (servoStatuses_eq buffer _)
      | stack => exact map_answer _ (stack_eq buffer _)
      | callStack => exact map_answer _ (callStack_eq buffer _)

end Indexed

end ServoLink
