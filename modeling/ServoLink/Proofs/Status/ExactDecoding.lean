import ServoLink.Proofs.Status.Coverage
import ServoLink.Proofs.Status.Segments

/-!
# Status records and their bytes

Each status record is laid out from segments that tile its buffer.  A decoder answers with
a record exactly if the segments of the record stand in the buffer, so decoding and laying
out undo each other.  The combined record of a compact controller has seven bytes that no
field uses; its decoder looks at all bytes but these.
-/

namespace ServoLink

variable {α : Type} {buffer : List UInt8}

/-! ## The segments of a record -/

namespace Segment

variable {start : Nat}

def words (start : Nat) (values : List UInt16) : List Segment :=
  row (fun offset value => [word offset value]) 2 start values

def signedWords (start : Nat) (values : List Int16) : List Segment :=
  row (fun offset value => [word offset value.toUInt16]) 2 start values

def servo (start : Nat) (record : ServoStatus) : List Segment :=
  [word start record.position, word (start + 2) record.target, word (start + 4) record.speed,
    byte (start + 6) record.acceleration]

def servos (start : Nat) (records : List ServoStatus) : List Segment :=
  row servo servoStatusLength start records

theorem tile_words (start : Nat) (values : List UInt16) :
    Tile start (start + 2 * values.length) (words start values) :=
  tile_row fun _ _ => ⟨rfl, rfl⟩

theorem tile_signedWords (start : Nat) (values : List Int16) :
    Tile start (start + 2 * values.length) (signedWords start values) :=
  tile_row fun _ _ => ⟨rfl, rfl⟩

theorem tile_servos (start : Nat) (records : List ServoStatus) :
    Tile start (start + servoStatusLength * records.length) (servos start records) :=
  tile_row fun _ _ => ⟨rfl, rfl, rfl, rfl, rfl⟩

theorem words_standsIn_iff {values : List UInt16}
    (inside : start + 2 * values.length ≤ buffer.length) :
    (∀ segment ∈ words start values, segment.StandsIn buffer) ↔
      (List.range values.length).map (fun slot => wordAt buffer (start + 2 * slot)) = values := by
  refine row_standsIn_iff fun slot bound value => ?_
  rw [List.forall_mem_singleton, word_standsIn_iff (by omega)]

theorem signedWords_standsIn_iff {values : List Int16}
    (inside : start + 2 * values.length ≤ buffer.length) :
    (∀ segment ∈ signedWords start values, segment.StandsIn buffer) ↔
      (List.range values.length).map
        (fun slot => (wordAt buffer (start + 2 * slot)).toInt16) = values := by
  refine row_standsIn_iff fun slot bound value => ?_
  rw [List.forall_mem_singleton, word_standsIn_iff (by omega)]
  constructor
  · intro equal
    rw [equal]
    rfl
  · rintro rfl
    rfl

theorem servo_standsIn_iff {record : ServoStatus} (inside : start + 6 < buffer.length) :
    (∀ segment ∈ servo start record, segment.StandsIn buffer) ↔
      ServoStatus.ofBuffer (buffer.drop start) = record := by
  unfold servo ServoStatus.ofBuffer
  simp only [List.forall_mem_cons, List.not_mem_nil, false_implies, implies_true, and_true]
  rw [word_standsIn_iff (by omega), word_standsIn_iff (by omega), word_standsIn_iff (by omega),
    byte_standsIn_iff (by omega)]
  simp only [Indexed.wordAt_drop, Indexed.getD_drop, Nat.add_zero]
  cases record
  simp

theorem servos_standsIn_iff {records : List ServoStatus}
    (inside : start + servoStatusLength * records.length ≤ buffer.length) :
    (∀ segment ∈ servos start records, segment.StandsIn buffer) ↔
      (List.range records.length).map (fun channel =>
        ServoStatus.ofBuffer (buffer.drop (start + servoStatusLength * channel))) = records := by
  refine row_standsIn_iff fun channel bound record => ?_
  apply servo_standsIn_iff
  unfold servoStatusLength at inside ⊢
  omega

end Segment

/-! ## Decoders that lose nothing -/

/-- Decoding takes the buffers of one length and no others.  On them it undoes, and is undone
by, laying out the records of one shape from segments that tile the buffer. -/
structure DecodesExactly
    (decode : List UInt8 → Except ProtocolError α) (size : Nat) (shape : α → Prop)
    (segments : α → List Segment) : Prop where
  tile : ∀ record, shape record → Segment.Tile 0 size (segments record)
  length : ∀ buffer record, decode buffer = .ok record → buffer.length = size
  decode_layOut : ∀ record, shape record →
    decode (Segment.layOut size (segments record)) = .ok record
  layOut_decode : ∀ buffer, buffer.length = size →
    ∃ record, shape record ∧ decode buffer = .ok record ∧
      Segment.layOut size (segments record) = buffer

/-- A decoder that checks the length and then reads a record. -/
theorem decodesExactly_of_read
    {decode : List UInt8 → Except ProtocolError α} {size : Nat} {shape : α → Prop}
    {segments : α → List Segment} (reply : Reply) (read : List UInt8 → α)
    (decodes : ∀ buffer, decode buffer = (do
      expectLength reply buffer size
      return read buffer))
    (tile : ∀ record, shape record → Segment.Tile 0 size (segments record))
    (shaped : ∀ buffer, buffer.length = size → shape (read buffer))
    (reads : ∀ buffer record, buffer.length = size → shape record →
      ((∀ segment ∈ segments record, segment.StandsIn buffer) ↔ read buffer = record)) :
    DecodesExactly decode size shape segments := by
  have accepted (buffer : List UInt8) (right : buffer.length = size) :
      decode buffer = .ok (read buffer) := by
    rw [decodes, expectLength_of_eq _ right]
    rfl
  refine ⟨tile, ?_, ?_, ?_⟩
  · intro buffer record decoded
    by_contra wrong
    rw [decodes, expectLength_of_ne _ wrong] at decoded
    cases decoded
  · intro record proper
    have right := Segment.length_layOut (tile record proper)
    rw [accepted _ right]
    exact congrArg Except.ok ((reads _ record right proper).mp
      (Segment.standsIn_layOut (tile record proper)))
  · intro buffer right
    refine ⟨read buffer, shaped buffer right, accepted buffer right, Eq.symm ?_⟩
    rw [Segment.eq_layOut_iff (tile _ (shaped buffer right))]
    exact ⟨right, (reads buffer _ right (shaped buffer right)).mpr rfl⟩

/-! ## Extended controllers -/

theorem decodeAll_exactly (count : Nat) :
    DecodesExactly (ServoStatus.decodeAll · count) (count * servoStatusLength)
      (·.length = count) (Segment.servos 0) := by
  refine decodesExactly_of_read .servoStatusArray _ (fun _ => rfl) ?_ ?_ ?_
  · rintro records rfl
    simpa [Nat.mul_comm] using Segment.tile_servos 0 records
  · intro buffer right
    simp
  · rintro buffer records right rfl
    rw [Segment.servos_standsIn_iff (by rw [right, Nat.zero_add, Nat.mul_comm])]
    simp only [Nat.zero_add, Nat.mul_comm]

theorem decodeCallStack_exactly (size : Nat) :
    DecodesExactly (decodeCallStack · size) (2 * size) (·.length = size)
      (Segment.words 0) := by
  refine decodesExactly_of_read .callStack _ (fun _ => rfl) ?_ ?_ ?_
  · rintro addresses rfl
    simpa using Segment.tile_words 0 addresses
  · intro buffer right
    exact wordsOf_length right
  · rintro buffer addresses right rfl
    rw [Segment.words_standsIn_iff (by rw [right, Nat.zero_add]), Indexed.wordsOf_eq, right,
      Nat.mul_div_cancel_left _ (by decide)]
    simp only [Nat.zero_add, Nat.mul_comm]

theorem decodeStack_exactly (size : Nat) :
    DecodesExactly (decodeStack · size) (2 * size) (·.length = size)
      (Segment.signedWords 0) := by
  refine decodesExactly_of_read .stack _ (fun _ => rfl) ?_ ?_ ?_
  · rintro slots rfl
    simpa using Segment.tile_signedWords 0 slots
  · intro buffer right
    rw [List.length_map]
    exact wordsOf_length right
  · rintro buffer slots right rfl
    rw [Segment.signedWords_standsIn_iff (by rw [right, Nat.zero_add]), Indexed.wordsOf_eq,
      right, Nat.mul_div_cancel_left _ (by decide), List.map_map]
    simp only [Nat.zero_add, Nat.mul_comm]
    rfl

/-- The variables that extended controllers report. -/
structure Variables.IsExtended (record : Variables) : Prop where
  programCounter : record.programCounter.isSome
  performanceFlags : record.performanceFlags.isSome
  stack : record.stack = []
  callStack : record.callStack = []

def Variables.extendedSegments (record : Variables) : List Segment :=
  [.byte 0 record.stackPointer, .byte 1 record.callStackPointer, .word 2 record.errors.bits,
    .word 4 (record.programCounter.getD 0), .byte 6 record.scriptDone,
    .byte 7 (record.performanceFlags.getD ⟨0⟩).bits]

theorem decodeExtended_exactly :
    DecodesExactly Variables.decodeExtended extendedVariablesLength Variables.IsExtended
      Variables.extendedSegments := by
  refine decodesExactly_of_read .deviceVariables _ (fun _ => rfl) ?_ ?_ ?_
  · intro record _
    exact ⟨rfl, rfl, rfl, rfl, rfl, rfl, rfl⟩
  · intro buffer _
    exact ⟨rfl, rfl, rfl, rfl⟩
  · rintro buffer ⟨pointer, callPointer, ⟨errors⟩, counter, done, flags, stack, callStack⟩ right
      ⟨hasCounter, hasFlags, rfl, rfl⟩
    have eight : buffer.length = 8 := right
    obtain ⟨counter, rfl⟩ := Option.isSome_iff_exists.mp hasCounter
    obtain ⟨⟨flags⟩, rfl⟩ := Option.isSome_iff_exists.mp hasFlags
    unfold Variables.extendedSegments
    simp only [List.forall_mem_cons, List.not_mem_nil, false_implies, implies_true, and_true,
      Option.getD_some]
    rw [Segment.byte_standsIn_iff (by omega), Segment.byte_standsIn_iff (by omega),
      Segment.word_standsIn_iff (by omega), Segment.word_standsIn_iff (by omega),
      Segment.byte_standsIn_iff (by omega), Segment.byte_standsIn_iff (by omega)]
    simp

/-! ## Compact controllers -/

/-- The variables that compact controllers report. -/
structure Variables.IsCompact (record : Variables) : Prop where
  programCounter : record.programCounter = none
  performanceFlags : record.performanceFlags = none
  stack : record.stack.length = 32
  callStack : record.callStack.length = 10

def combinedLength (count : Nat) : Nat :=
  compactVariablesLength + count * servoStatusLength

/-- Places of the combined record that belong to no field. -/
def IsUnused (place : Nat) : Prop :=
  4 ≤ place ∧ place < 10 ∨ place = 95

/-- The fields of the combined record, with any bytes in the places of no use. -/
def combinedSegments
    (record : Variables) (servos : List ServoStatus) (gap : List UInt8) (last : UInt8) :
    List Segment :=
  [.byte 0 record.stackPointer, .byte 1 record.callStackPointer, .word 2 record.errors.bits,
      ⟨4, gap⟩] ++
    Segment.signedWords 10 record.stack ++ Segment.words 74 record.callStack ++
    [.byte 94 record.scriptDone, .byte 95 last] ++
    Segment.servos compactVariablesLength servos

/-- The fields of the combined record without the bytes of no use. -/
def usedSegments (record : Variables) (servos : List ServoStatus) : List Segment :=
  [.byte 0 record.stackPointer, .byte 1 record.callStackPointer, .word 2 record.errors.bits] ++
    (Segment.signedWords 10 record.stack ++ Segment.words 74 record.callStack ++
      [.byte 94 record.scriptDone]) ++
    Segment.servos compactVariablesLength servos

section Combined

variable {record : Variables} {servos : List ServoStatus} {gap : List UInt8} {last : UInt8}
  {count : Nat} {segment : Segment}

theorem combined_standsIn_iff :
    (∀ segment ∈ combinedSegments record servos gap last, segment.StandsIn buffer) ↔
      (∀ segment ∈ usedSegments record servos, segment.StandsIn buffer) ∧
        (Segment.mk 4 gap).StandsIn buffer ∧ (Segment.byte 95 last).StandsIn buffer := by
  simp only [combinedSegments, usedSegments, List.forall_mem_append, List.forall_mem_cons,
    List.not_mem_nil, false_implies, implies_true, and_true]
  tauto

theorem tile_head (record : Variables) :
    Segment.Tile 0 4 [.byte 0 record.stackPointer, .byte 1 record.callStackPointer,
      .word 2 record.errors.bits] :=
  ⟨rfl, rfl, rfl, rfl⟩

theorem tile_body (compact : record.IsCompact) :
    Segment.Tile 10 95 (Segment.signedWords 10 record.stack ++ Segment.words 74 record.callStack ++
      [.byte 94 record.scriptDone]) := by
  have stack := Segment.tile_signedWords 10 record.stack
  have callStack := Segment.tile_words 74 record.callStack
  rw [compact.stack] at stack
  rw [compact.callStack] at callStack
  have done : Segment.Tile 94 95 [.byte 94 record.scriptDone] := ⟨rfl, rfl⟩
  exact (stack.append callStack).append done

theorem tile_rest (length : servos.length = count) :
    Segment.Tile 96 (combinedLength count) (Segment.servos compactVariablesLength servos) := by
  have tile := Segment.tile_servos compactVariablesLength servos
  rw [length, Nat.mul_comm] at tile
  exact tile

theorem tile_combined
    (compact : record.IsCompact) (length : servos.length = count) (six : gap.length = 6) :
    Segment.Tile 0 (combinedLength count) (combinedSegments record servos gap last) := by
  have unused : Segment.Tile 4 10 [⟨4, gap⟩] := ⟨rfl, show 4 + gap.length = 10 by rw [six]⟩
  have final : Segment.Tile 95 96 [.byte 95 last] := ⟨rfl, rfl⟩
  have front := (tile_head record).append unused
  have whole := ((front.append (tile_body compact)).append final).append (tile_rest length)
  simpa [combinedSegments] using whole

/-- The fields leave exactly the places of no use free. -/
theorem exists_used_iff
    (compact : record.IsCompact) (length : servos.length = count) {place : Nat} :
    (∃ segment ∈ usedSegments record servos,
        segment.offset ≤ place ∧ place < segment.offset + segment.bytes.length) ↔
      place < combinedLength count ∧ ¬ IsUnused place := by
  have head := tile_head record
  have body := tile_body compact
  have rest := tile_rest length
  have stop : 96 ≤ combinedLength count := Nat.le_add_right _ _
  unfold IsUnused usedSegments
  constructor
  · rintro ⟨segment, member, above, below⟩
    rcases List.mem_append.mp member with front | back
    · rcases List.mem_append.mp front with inHead | inBody
      · have bounds := head.bounds inHead
        omega
      · have bounds := body.bounds inBody
        omega
    · have bounds := rest.bounds back
      omega
  · rintro ⟨inside, used⟩
    by_cases early : place < 4
    · obtain ⟨segment, member, covers⟩ := head.exists_segment (Nat.zero_le place) early
      exact ⟨segment, List.mem_append_left _ (List.mem_append_left _ member), covers⟩
    · by_cases late : 96 ≤ place
      · obtain ⟨segment, member, covers⟩ := rest.exists_segment late inside
        exact ⟨segment, List.mem_append_right _ member, covers⟩
      · obtain ⟨segment, member, covers⟩ :=
          body.exists_segment (show 10 ≤ place by omega) (show place < 95 by omega)
        exact ⟨segment, List.mem_append_left _ (List.mem_append_right _ member), covers⟩

/-- The variables at the head of a combined record. -/
def Variables.ofCombined (buffer : List UInt8) : Variables where
  stackPointer := buffer.getD 0 0
  callStackPointer := buffer.getD 1 0
  errors := ⟨wordAt buffer 2⟩
  programCounter := none
  scriptDone := buffer.getD 94 0
  performanceFlags := none
  stack := (List.range 32).map fun slot => (wordAt buffer (10 + 2 * slot)).toInt16
  callStack := (List.range 10).map fun slot => wordAt buffer (74 + 2 * slot)

/-- The servo records behind the variables of a combined record. -/
def servosOfCombined (buffer : List UInt8) (count : Nat) : List ServoStatus :=
  (List.range count).map fun channel =>
    .ofBuffer (buffer.drop (compactVariablesLength + servoStatusLength * channel))

theorem isCompact_ofCombined (buffer : List UInt8) : (Variables.ofCombined buffer).IsCompact :=
  ⟨rfl, rfl, by simp [Variables.ofCombined], by simp [Variables.ofCombined]⟩

theorem length_servosOfCombined (buffer : List UInt8) (count : Nat) :
    (servosOfCombined buffer count).length = count := by
  simp [servosOfCombined]

theorem ofCombined_take (buffer : List UInt8) :
    Variables.ofCombined (buffer.take 96) = Variables.ofCombined buffer := by
  unfold Variables.ofCombined
  rw [Indexed.getD_take (by decide), Indexed.getD_take (by decide),
    Indexed.getD_take (by decide), Indexed.wordAt_take (by decide)]
  congr 1
  · refine List.map_congr_left fun slot member => ?_
    have bound := List.mem_range.mp member
    rw [Indexed.wordAt_take (by omega)]
  · refine List.map_congr_left fun slot member => ?_
    have bound := List.mem_range.mp member
    exact Indexed.wordAt_take (by omega)

theorem decodeCompactStatus_of_combinedLength (right : buffer.length = combinedLength count) :
    decodeCompactStatus buffer count =
      .ok (Variables.ofCombined buffer, servosOfCombined buffer count) := by
  have whole : buffer.length = compactVariablesLength + count * servoStatusLength := right
  obtain ⟨front, rest⟩ := length_compactParts whole
  have record : Variables.decodeCompact (buffer.take compactVariablesLength) =
      .ok (Variables.ofCombined buffer) := by
    rw [← ofCombined_take]
    unfold Variables.decodeCompact
    rw [expectLength_of_eq _ front]
    rfl
  have servos : ServoStatus.decodeAll (buffer.drop compactVariablesLength) count =
      .ok (servosOfCombined buffer count) := by
    unfold ServoStatus.decodeAll servosOfCombined
    rw [expectLength_of_eq _ rest]
    simp only [List.drop_drop, Nat.mul_comm servoStatusLength]
    rfl
  unfold decodeCompactStatus
  rw [expectLength_of_eq _ whole, record, servos]
  rfl

theorem used_standsIn_iff
    (right : buffer.length = combinedLength count) (compact : record.IsCompact)
    (length : servos.length = count) :
    (∀ segment ∈ usedSegments record servos, segment.StandsIn buffer) ↔
      Variables.ofCombined buffer = record ∧ servosOfCombined buffer count = servos := by
  have total : buffer.length = 96 + count * 7 := right
  simp only [usedSegments, List.forall_mem_append, List.forall_mem_cons, List.not_mem_nil,
    false_implies, implies_true, and_true]
  rw [Segment.byte_standsIn_iff (by omega), Segment.byte_standsIn_iff (by omega),
    Segment.word_standsIn_iff (by omega), Segment.byte_standsIn_iff (by omega),
    Segment.signedWords_standsIn_iff (by rw [compact.stack]; omega),
    Segment.words_standsIn_iff (by rw [compact.callStack]; omega),
    Segment.servos_standsIn_iff (by rw [length, right, combinedLength, Nat.mul_comm]),
    compact.stack, compact.callStack, length]
  obtain ⟨pointer, callPointer, ⟨errors⟩, counter, done, flags, stack, callStack⟩ := record
  obtain ⟨rfl, rfl, -, -⟩ := compact
  simp only [Variables.ofCombined, servosOfCombined, Variables.mk.injEq, ErrorFlags.mk.injEq,
    true_and]
  tauto

theorem decodeCompactStatus_eq_ok_iff
    (right : buffer.length = combinedLength count) (compact : record.IsCompact)
    (length : servos.length = count) :
    decodeCompactStatus buffer count = .ok (record, servos) ↔
      ∀ segment ∈ usedSegments record servos, segment.StandsIn buffer := by
  rw [decodeCompactStatus_of_combinedLength right, used_standsIn_iff right compact length,
    Except.ok.injEq, Prod.mk.injEq]

/-- Buffers decode equally if they differ in places of no use only. -/
theorem decodeCompactStatus_eq_iff
    {first second : List UInt8} (firstRight : first.length = combinedLength count)
    (secondRight : second.length = combinedLength count) :
    decodeCompactStatus first count = decodeCompactStatus second count ↔
      ∀ place, ¬ IsUnused place → first[place]? = second[place]? := by
  have compact := isCompact_ofCombined second
  have length := length_servosOfCombined second count
  have stands := (decodeCompactStatus_eq_ok_iff secondRight compact length).mp
    (decodeCompactStatus_of_combinedLength secondRight)
  rw [decodeCompactStatus_of_combinedLength secondRight,
    decodeCompactStatus_eq_ok_iff firstRight compact length]
  constructor
  · intro also place used
    by_cases inside : place < combinedLength count
    · obtain ⟨segment, member, above, below⟩ :=
        (exists_used_iff compact length).mpr ⟨inside, used⟩
      obtain ⟨offset, rfl⟩ := Nat.exists_eq_add_of_le above
      have bound : offset < segment.bytes.length := Nat.lt_of_add_lt_add_left below
      rw [Segment.standsIn_iff_getElem?.mp (also segment member) offset bound,
        Segment.standsIn_iff_getElem?.mp (stands segment member) offset bound]
    · have beyond := Nat.le_of_not_lt inside
      rw [List.getElem?_eq_none (by rwa [firstRight]),
        List.getElem?_eq_none (by rwa [secondRight])]
  · intro agree segment member
    refine Segment.standsIn_iff_getElem?.mpr fun offset bound => ?_
    have covered := (exists_used_iff compact length).mp
      ⟨segment, member, Nat.le_add_right _ offset, Nat.add_lt_add_left bound _⟩
    rw [agree _ covered.2, Segment.standsIn_iff_getElem?.mp (stands segment member) offset bound]

end Combined

/-- Every combined record can be laid out, whatever bytes are put in the places of no use, and
every buffer is laid out in this way.  Only the places of no use are lost. -/
structure CombinedDecodesExactly (count : Nat) : Prop where
  tile : ∀ record servos gap last,
    record.IsCompact → servos.length = count → gap.length = 6 →
      Segment.Tile 0 (combinedLength count) (combinedSegments record servos gap last)
  decode_layOut : ∀ record servos gap last,
    record.IsCompact → servos.length = count → gap.length = 6 →
      decodeCompactStatus
          (Segment.layOut (combinedLength count) (combinedSegments record servos gap last)) count =
        .ok (record, servos)
  layOut_decode : ∀ buffer, buffer.length = combinedLength count →
    ∃ record servos gap last,
      record.IsCompact ∧ servos.length = count ∧ gap.length = 6 ∧
        decodeCompactStatus buffer count = .ok (record, servos) ∧
        Segment.layOut (combinedLength count) (combinedSegments record servos gap last) = buffer
  decode_eq_iff : ∀ first second,
    first.length = combinedLength count → second.length = combinedLength count →
      (decodeCompactStatus first count = decodeCompactStatus second count ↔
        ∀ place, ¬ IsUnused place → first[place]? = second[place]?)

theorem decodeCompactStatus_exactly (count : Nat) : CombinedDecodesExactly count where
  tile _ _ _ _ := tile_combined
  decode_layOut record servos gap last compact length six := by
    have tile : Segment.Tile 0 (combinedLength count)
        (combinedSegments record servos gap last) := tile_combined compact length six
    rw [decodeCompactStatus_eq_ok_iff (Segment.length_layOut tile) compact length]
    exact (combined_standsIn_iff.mp (Segment.standsIn_layOut tile)).1
  layOut_decode buffer right := by
    have total : buffer.length = 96 + count * 7 := right
    have compact := isCompact_ofCombined buffer
    have length := length_servosOfCombined buffer count
    have six : ((buffer.drop 4).take 6).length = 6 := by
      rw [List.length_take, List.length_drop]
      omega
    have decoded := decodeCompactStatus_of_combinedLength right
    refine ⟨_, _, (buffer.drop 4).take 6, buffer.getD 95 0, compact, length, six, decoded,
      Eq.symm ?_⟩
    rw [Segment.eq_layOut_iff (tile_combined compact length six), combined_standsIn_iff]
    refine ⟨right, (decodeCompactStatus_eq_ok_iff right compact length).mp decoded, ?_, ?_⟩
    · exact List.take_prefix 6 _
    · exact (Segment.byte_standsIn_iff (by omega)).mpr rfl
  decode_eq_iff _ _ := decodeCompactStatus_eq_iff

/-! ## All records -/

/-- Status records and their bytes determine each other, apart from the seven bytes of the
combined record that are of no use.  All four kinds of status of a compact controller are
parts of the one combined record. -/
theorem status_decodes_exactly (count size : Nat) :
    DecodesExactly Variables.decodeExtended extendedVariablesLength Variables.IsExtended
        Variables.extendedSegments ∧
      DecodesExactly (ServoStatus.decodeAll · count) (count * servoStatusLength)
        (·.length = count) (Segment.servos 0) ∧
      DecodesExactly (decodeStack · size) (2 * size) (·.length = size)
        (Segment.signedWords 0) ∧
      DecodesExactly (decodeCallStack · size) (2 * size) (·.length = size)
        (Segment.words 0) ∧
      CombinedDecodesExactly count ∧
      ∀ model : Model, model.family = .compact →
        ∀ buffer, buffer.length = combinedLength model.channelCount →
          ∃ record servos,
            decodeCompactStatus buffer model.channelCount = .ok (record, servos) ∧
              model.decodeStatus .deviceVariables buffer = .ok (.deviceVariables record) ∧
              model.decodeStatus .servos buffer = .ok (.servos servos) ∧
              model.decodeStatus .stack buffer = .ok (.stack record.stack) ∧
              model.decodeStatus .callStack buffer = .ok (.callStack record.callStack) := by
  refine ⟨decodeExtended_exactly, decodeAll_exactly count, decodeStack_exactly size,
    decodeCallStack_exactly size, decodeCompactStatus_exactly count, ?_⟩
  intro model compact buffer right
  have decoded := decodeCompactStatus_of_combinedLength right
  refine ⟨_, _, decoded, ?_, ?_, ?_, ?_⟩ <;>
    · unfold Model.decodeStatus
      rw [compact, decoded]
      rfl

/-- A combined record with other bytes than zeros in the places of no use, and a stack with a
negative slot. -/
theorem status_decodes_exactly_micro6 :
    let record : Variables :=
      { stackPointer := 2
        callStackPointer := 1
        errors := ⟨0x100⟩
        programCounter := none
        scriptDone := 1
        performanceFlags := none
        stack := -5 :: List.replicate 31 300
        callStack := List.replicate 10 0xBEEF }
    let servos : List ServoStatus := List.replicate 6 ⟨6000, 7000, 20, 3⟩
    let buffer := Segment.layOut (combinedLength 6)
      (combinedSegments record servos (List.replicate 6 0xAB) 0xCD)
    decodeCompactStatus buffer 6 = .ok (record, servos) ∧
      Model.micro6.decodeStatus .stack buffer = .ok (.stack record.stack) := by
  intro record servos buffer
  obtain ⟨-, -, -, -, combined, facets⟩ := status_decodes_exactly 6 126
  have compact : record.IsCompact := ⟨rfl, rfl, rfl, rfl⟩
  have decoded := combined.decode_layOut record servos (List.replicate 6 0xAB) 0xCD compact rfl rfl
  have length : buffer.length = combinedLength Model.micro6.channelCount :=
    Segment.length_layOut (combined.tile record servos _ _ compact rfl rfl)
  obtain ⟨found, others, again, -, -, stack, -⟩ := facets .micro6 rfl buffer length
  cases decoded.symm.trans again
  exact ⟨decoded, stack⟩

end ServoLink
