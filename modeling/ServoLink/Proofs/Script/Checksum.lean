import ServoLink.Proofs.Script.CyclicCheck
import ServoLink.Proofs.Script.Faults

/-!
# What a script checksum covers

The checksum of a script is the cyclic check of one message: the subroutine table, with zeros
where it is unused, and the byte code without a terminator.  The slots of its table and its
byte code determine this message, and a change of two neighbouring bytes of it is always
detected.
-/

namespace ServoLink

/-! ## Tables by their slots -/

section Tables

variable {first second : List UInt8}

/-- A table is determined by its slots. -/
theorem eq_of_slotOf (firstSize : first.length = 256) (secondSize : second.length = 256)
    (same : ∀ opcode, firstTableOpcode ≤ opcode → slotOf first opcode = slotOf second opcode) :
    first = second := by
  have base : firstTableOpcode.toNat = 128 := rfl
  have pairs (number : Nat) (inside : number < 128) :
      (first.drop (2 * number)).take 2 = (second.drop (2 * number)).take 2 := by
    have value : (UInt8.ofNat (128 + number)).toNat = 128 + number := by
      rw [UInt8.toNat_ofNat']
      exact Nat.mod_eq_of_lt (by omega)
    have slots := same (UInt8.ofNat (128 + number)) (by
      rw [UInt8.le_iff_toNat_le, value, base]
      exact Nat.le_add_right _ _)
    unfold slotOf at slots
    rwa [value, base, Nat.add_sub_cancel_left] at slots
  apply List.ext_getElem?
  intro place
  by_cases inside : place < 256
  · have parts : 2 * (place / 2) + place % 2 = place := Nat.div_add_mod place 2
    have odd : place % 2 < 2 := Nat.mod_lt place (by decide)
    have read (table : List UInt8) :
        table[place]? = ((table.drop (2 * (place / 2))).take 2)[place % 2]? := by
      rw [List.getElem?_take_of_lt odd, List.getElem?_drop, parts]
    rw [read first, read second, pairs (place / 2) (by omega)]
  · rw [List.getElem?_eq_none (by omega), List.getElem?_eq_none (by omega)]

end Tables

/-! ## The message -/

namespace Program

variable {program other : Program}

theorem le_of_utf8Bytes_le {first second : String}
    (before : utf8Bytes first ≤ utf8Bytes second) : first ≤ second :=
  String.not_lt.mp fun after => List.not_lt.mpr before (utf8Bytes_lt after)

theorem address_unique {name : String} {address further : UInt16}
    (listed : (name, address) ∈ program.subroutineAddresses.entries)
    (again : (name, further) ∈ program.subroutineAddresses.entries) : address = further := by
  have names : (program.subroutineAddresses.entries.map Prod.fst).Nodup := by
    refine (List.pairwise_map.mpr program.subroutineAddresses.ordered).imp ?_
    rintro first second before rfl
    exact String.lt_irrefl first before
  exact congrArg Prod.snd (List.inj_on_of_nodup_map names listed again rfl)

theorem Slot.unique {unused opcode : UInt8} {bytes others : List UInt8}
    (slot : program.Slot unused opcode bytes) (again : program.Slot unused opcode others) :
    bytes = others := by
  cases slot with
  | used name address addressed command greatest =>
      cases again with
      | used further place listed same last =>
          have names : name = further := String.le_antisymm
            (le_of_utf8Bytes_le (last _ addressed command))
            (le_of_utf8Bytes_le (greatest _ listed same))
          subst names
          rw [address_unique addressed listed]
      | free absent => exact absurd command (absent _ addressed)
  | free absent =>
      cases again with
      | used further place listed same last => exact absurd same (absent _ listed)
      | free _ => rfl

/-- A message that the checksum of a program covers: a table with the program's slots and zeros
where it is unused, and the byte code. -/
def CheckedOver (program : Program) (message : List UInt8) : Prop :=
  ∃ table : List UInt8, table.length = subroutineTableLength ∧
    (∀ opcode, firstTableOpcode ≤ opcode → program.Slot 0 opcode (slotOf table opcode)) ∧
    message = table ++ program.byteCode

theorem CheckedOver.unique {message further : List UInt8}
    (covered : program.CheckedOver message) (again : program.CheckedOver further) :
    message = further := by
  obtain ⟨table, size, slots, rfl⟩ := covered
  obtain ⟨copy, copySize, copySlots, rfl⟩ := again
  have same : table = copy := eq_of_slotOf size copySize fun opcode tested =>
    (slots opcode tested).unique (copySlots opcode tested)
  rw [same]

theorem CheckedOver.length {message : List UInt8} (covered : program.CheckedOver message) :
    message.length = 256 + program.byteCode.length := by
  obtain ⟨table, size, -, rfl⟩ := covered
  rw [List.length_append, size]
  rfl

theorem checkedOver_of_placed (placed : program.AllPlaced) :
    program.CheckedOver (subroutineTable 0 program.placed ++ program.byteCode) :=
  ⟨_, subroutineTable_length _ _, fun _ => slot_subroutineTable placed 0, rfl⟩

theorem computeChecksum_of_checkedOver {message : List UInt8} (placed : program.AllPlaced)
    (covered : program.CheckedOver message) :
    program.computeChecksum = .ok (bitwiseCrc message) := by
  rw [program.computeChecksum_settles.accept placed, crc16_eq_bitwiseCrc,
    covered.unique (checkedOver_of_placed placed)]

/-- Slots are all that the names of the subroutines contribute. -/
theorem CheckedOver.of_same_slots {message : List UInt8} (covered : program.CheckedOver message)
    (sameCode : program.byteCode = other.byteCode)
    (sameSlots : ∀ opcode, firstTableOpcode ≤ opcode → ∀ bytes,
      program.Slot 0 opcode bytes → other.Slot 0 opcode bytes) :
    other.CheckedOver message := by
  obtain ⟨table, size, slots, rfl⟩ := covered
  exact ⟨table, size, fun opcode tested => sameSlots opcode tested _ (slots opcode tested),
    by rw [sameCode]⟩

theorem SameDemands.computeChecksum_eq (same : program.SameDemands other)
    (sameCode : program.byteCode = other.byteCode) :
    program.computeChecksum = other.computeChecksum := by
  unfold computeChecksum checkedMessage
  rw [same.tableEntries_eq, sameCode]

/-- The checksum of a program is the bitwise check of the one message that it covers.  It
depends on nothing else, and it tells apart any two such messages of one length that differ in
two neighbouring bytes only. -/
theorem computeChecksum_exactly (placed : program.AllPlaced) :
    (∃ message, program.CheckedOver message ∧
        (∀ further, program.CheckedOver further → further = message) ∧
        program.computeChecksum = .ok (bitwiseCrc message)) ∧
      (∀ other : Program, other.AllPlaced → program.byteCode = other.byteCode →
        (∀ opcode, firstTableOpcode ≤ opcode → ∀ bytes,
          program.Slot 0 opcode bytes → other.Slot 0 opcode bytes) →
        program.computeChecksum = other.computeChecksum) ∧
      (∀ other, program.SameDemands other → program.byteCode = other.byteCode →
        program.computeChecksum = other.computeChecksum) ∧
      ∀ (other : Program) (message otherMessage : List UInt8) (place : Nat),
        other.AllPlaced → program.byteCode.length = other.byteCode.length →
        program.CheckedOver message → other.CheckedOver otherMessage →
        message ≠ otherMessage →
        (∀ index, index ≠ place → index ≠ place + 1 →
          message[index]? = otherMessage[index]?) →
        ∃ sum otherSum, program.computeChecksum = .ok sum ∧
          other.computeChecksum = .ok otherSum ∧ sum ≠ otherSum := by
  have covered := checkedOver_of_placed placed
  refine ⟨⟨_, covered, fun _ again => again.unique covered,
    computeChecksum_of_checkedOver placed covered⟩, ?_, fun _ => SameDemands.computeChecksum_eq,
    ?_⟩
  · intro other otherPlaced sameCode sameSlots
    rw [computeChecksum_of_checkedOver placed covered, computeChecksum_of_checkedOver otherPlaced
      (covered.of_same_slots sameCode sameSlots)]
  · intro other message otherMessage place otherPlaced sameLength covered otherCovered different
      agree
    refine ⟨_, _, computeChecksum_of_checkedOver placed covered,
      computeChecksum_of_checkedOver otherPlaced otherCovered, fun same => different ?_⟩
    have lengths : message.length = otherMessage.length := by
      rw [covered.length, otherCovered.length, sameLength]
    exact eq_of_bitwiseCrc_of_agree lengths (by rw [covered.length]; omega) agree same

/-- A subroutine that is moved to another address. -/
theorem computeChecksum_exactly_of_moved :
    let commands : NameMap SubroutineCommand := .ofList [("nod", .opcode 130), ("wave", .callOnly)]
    let program : Program :=
      { byteCode := [16, 32, 48]
        subroutineAddresses := .ofList [("nod", 300), ("wave", 9)]
        subroutineCommands := commands }
    let moved : Program :=
      { program with subroutineAddresses := .ofList [("nod", 2), ("wave", 9)] }
    program.AllPlaced ∧ moved.AllPlaced ∧
      ∃ sum movedSum, program.computeChecksum = .ok sum ∧
        moved.computeChecksum = .ok movedSum ∧ sum ≠ movedSum := by
  intro commands program moved
  have nod : commands.get? "nod" = some (.opcode 130) := by decide +kernel
  have wave : commands.get? "wave" = some .callOnly := by decide +kernel
  have kept (checked : Program) (same : checked.subroutineCommands = commands) :
      ¬ checked.Misplaced "nod" ∧ ¬ checked.Misplaced "wave" := by
    refine ⟨not_misplaced (by rw [same, nod]) ?_, not_misplaced (by rw [same, wave]) (by simp)⟩
    rintro code ⟨⟩
    decide
  have placed : program.AllPlaced := by
    rw [AllPlaced, show program.subroutineAddresses.entries = [("nod", 300), ("wave", 9)] by
      decide +kernel]
    simpa using kept program rfl
  have movedPlaced : moved.AllPlaced := by
    rw [AllPlaced, show moved.subroutineAddresses.entries = [("nod", 2), ("wave", 9)] by
      decide +kernel]
    simpa using kept moved rfl
  have slots : program.placed = [⟨130, 300⟩] ∧ moved.placed = [⟨130, 2⟩] := by decide +kernel
  have covered := checkedOver_of_placed placed
  have movedCovered := checkedOver_of_placed movedPlaced
  have place : 2 * ((130 : UInt8).toNat - firstTableOpcode.toNat) = 4 := rfl
  obtain ⟨blank, size, table⟩ : ∃ blank : List UInt8, blank.length = 256 ∧
      ∀ address, subroutineTable 0 [⟨130, address⟩] =
        (blank.set 4 address.toUInt8).set 5 (address >>> 8).toUInt8 := by
    refine ⟨List.replicate subroutineTableLength 0, List.length_replicate, fun address => ?_⟩
    simp only [subroutineTable, List.foldl_cons, List.foldl_nil, TableEntry.store, place]
  rw [slots.1, table] at covered
  rw [slots.2, table] at movedCovered
  obtain ⟨-, -, -, detects⟩ := computeChecksum_exactly placed
  refine ⟨placed, movedPlaced, detects moved _ _ 4 movedPlaced rfl covered movedCovered
    (fun same => ?_) fun index notLow notHigh => ?_⟩
  · have lowBytes := congrArg (·[4]?) same
    simp [List.getElem?_append, size] at lowBytes
  · simp [List.getElem?_append, List.getElem?_set_ne, notLow.symm, notHigh.symm, moved, program]

end Program

end ServoLink
