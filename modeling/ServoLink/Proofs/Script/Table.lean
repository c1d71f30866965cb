import ServoLink.Proofs.Script.Blocks
import ServoLink.Proofs.Text.ByteOrder

/-!
# The slots of a subroutine table

Each table opcode has a slot of two bytes.  After all entries have been stored, the slot
holds the last address that was stored for its opcode; as the entries come in the order
of the subroutines' names, this is the address of the greatest name with that opcode.
-/

namespace ServoLink

/-- The two bytes of a table that belong to an opcode. -/
def slotOf (table : List UInt8) (opcode : UInt8) : List UInt8 :=
  (table.drop (2 * (opcode.toNat - firstTableOpcode.toNat))).take 2

theorem take_two_drop {table : List UInt8} {place : Nat} (inside : place + 1 < table.length) :
    (table.drop place).take 2 = [table[place], table[place + 1]] := by
  rw [List.drop_eq_getElem_cons (by omega), List.drop_eq_getElem_cons inside]
  rfl

theorem place_lt_table (opcode : UInt8) :
    2 * (opcode.toNat - firstTableOpcode.toNat) + 1 < 256 := by
  have bound := opcode.toNat_lt
  have base : firstTableOpcode.toNat = 128 := rfl
  omega

/-! ## Storing entries -/

namespace TableEntry

variable {table : List UInt8} {entry : TableEntry} {opcode : UInt8}

theorem slotOf_store_self (size : table.length = 256) :
    slotOf (store table entry) entry.opcode = wordBytes entry.address := by
  have inside := place_lt_table entry.opcode
  unfold slotOf
  rw [take_two_drop (by rw [store_length, size]; exact inside)]
  simp [store, wordBytes]

theorem slotOf_store_other
    (size : table.length = 256) (known : firstTableOpcode ≤ entry.opcode)
    (tested : firstTableOpcode ≤ opcode) (different : entry.opcode ≠ opcode) :
    slotOf (store table entry) opcode = slotOf table opcode := by
  have inside := place_lt_table opcode
  have apart : entry.opcode.toNat ≠ opcode.toNat := by
    intro same
    exact different (UInt8.toNat_inj.mp same)
  have base : firstTableOpcode.toNat = 128 := rfl
  have above := UInt8.le_iff_toNat_le.mp known
  have tested := UInt8.le_iff_toNat_le.mp tested
  unfold slotOf
  rw [take_two_drop (by rw [store_length, size]; exact inside),
    take_two_drop (by rw [size]; exact inside)]
  unfold store
  simp only [List.getElem_set]
  rw [if_neg (by omega), if_neg (by omega), if_neg (by omega), if_neg (by omega)]

/-- The last entry of an opcode decides what its slot holds. -/
theorem slotOf_foldl_store
    {entries : List TableEntry} (known : ∀ entry ∈ entries, firstTableOpcode ≤ entry.opcode)
    (tested : firstTableOpcode ≤ opcode) (size : table.length = 256) :
    slotOf (entries.foldl store table) opcode =
      ((entries.filter fun entry => entry.opcode = opcode).getLast?.map fun entry =>
        wordBytes entry.address).getD (slotOf table opcode) := by
  induction entries generalizing table with
  | nil =>
      simp
  | cons first rest inductionHypothesis =>
      obtain ⟨firstKnown, restKnown⟩ := List.forall_mem_cons.mp known
      rw [List.foldl_cons, inductionHypothesis restKnown (by rw [store_length, size])]
      by_cases same : first.opcode = opcode
      · rw [List.filter_cons_of_pos (by simpa using same), ← same, slotOf_store_self size,
          List.getLast?_cons]
        cases (rest.filter fun entry => entry.opcode = first.opcode).getLast? <;> simp
      · rw [List.filter_cons_of_neg (by simpa using same),
          slotOf_store_other size firstKnown tested same]

end TableEntry

theorem slotOf_unused (unused opcode : UInt8) :
    slotOf (List.replicate subroutineTableLength unused) opcode = [unused, unused] := by
  have inside := place_lt_table opcode
  unfold slotOf
  rw [take_two_drop (by rw [List.length_replicate]; exact inside)]
  simp

/-! ## The table of a program -/

namespace Program

/-- The addressed subroutines that are called through an opcode, in the order of their
names. -/
def callees (program : Program) (opcode : UInt8) : List (String × UInt16) :=
  program.subroutineAddresses.entries.filter fun entry =>
    program.subroutineCommands.get? entry.1 = some (.opcode opcode)

variable {program : Program} {opcode : UInt8}

theorem mem_callees_iff {entry : String × UInt16} :
    entry ∈ program.callees opcode ↔
      entry ∈ program.subroutineAddresses.entries ∧
        program.subroutineCommands.get? entry.1 = some (.opcode opcode) := by
  simp [callees]

theorem filter_placed :
    (program.placed.filter fun entry => entry.opcode = opcode) =
      (program.callees opcode).map fun entry => ⟨opcode, entry.2⟩ := by
  unfold placed callees
  induction program.subroutineAddresses.entries with
  | nil =>
      rfl
  | cons first rest inductionHypothesis =>
      rw [List.map_cons, List.filterMap_cons, List.filter_cons]
      unfold placed? at inductionHypothesis ⊢
      cases program.subroutineCommands.get? first.1 with
      | none =>
          simpa using inductionHypothesis
      | some command =>
          cases command with
          | callOnly =>
              simpa using inductionHypothesis
          | opcode code =>
              by_cases same : code = opcode
              · subst same
                simpa using inductionHypothesis
              · simpa [same] using inductionHypothesis

theorem le_opcode_of_mem_placed (allPlaced : program.AllPlaced) :
    ∀ entry ∈ program.placed, firstTableOpcode ≤ entry.opcode := by
  intro entry member
  obtain ⟨found, listed, equal⟩ := List.mem_filterMap.mp member
  obtain ⟨⟨name, address⟩, addressed, rfl⟩ := List.mem_map.mp listed
  have kept := allPlaced (name, address) addressed
  simp only [placed?, id_eq] at equal
  split at equal
  next code command =>
    cases equal
    exact UInt8.not_lt.mp fun low => kept (Or.inr ⟨code, command, low⟩)
  next => cases equal

/-- What the slot of an opcode holds: the address of the greatest name, in byte order, whose
command is the opcode, or unused bytes if there is no such name. -/
inductive Slot (program : Program) (unused opcode : UInt8) : List UInt8 → Prop where
  | used (name : String) (address : UInt16)
      (addressed : (name, address) ∈ program.subroutineAddresses.entries)
      (command : program.subroutineCommands.get? name = some (.opcode opcode))
      (greatest : ∀ other ∈ program.subroutineAddresses.entries,
        program.subroutineCommands.get? other.1 = some (.opcode opcode) →
          utf8Bytes other.1 ≤ utf8Bytes name) :
      Slot program unused opcode (wordBytes address)
  | free
      (absent : ∀ entry ∈ program.subroutineAddresses.entries,
        program.subroutineCommands.get? entry.1 ≠ some (.opcode opcode)) :
      Slot program unused opcode [unused, unused]

theorem le_of_getLast?_callees
    {last : String × UInt16} (final : (program.callees opcode).getLast? = some last) :
    ∀ entry ∈ program.callees opcode, entry.1 ≤ last.1 := by
  have ordered : (program.callees opcode).Pairwise fun first second => first.1 < second.1 :=
    program.subroutineAddresses.ordered.filter _
  obtain ⟨before, split⟩ := List.getLast?_eq_some_iff.mp final
  rw [split] at ordered ⊢
  intro entry member
  rcases List.mem_append.mp member with earlier | equal
  · exact String.not_lt.mp <| String.lt_asymm
      ((List.pairwise_append.mp ordered).2.2 entry earlier last List.mem_cons_self)
  · have same : entry = last := List.mem_singleton.mp equal
    exact String.not_lt.mp (same ▸ String.lt_irrefl entry.1)

/-- The slots of a program's table, for opcodes that the table has. -/
theorem slot_subroutineTable
    (allPlaced : program.AllPlaced) (unused : UInt8) (tested : firstTableOpcode ≤ opcode) :
    program.Slot unused opcode (slotOf (subroutineTable unused program.placed) opcode) := by
  have size : (List.replicate subroutineTableLength unused).length = 256 :=
    List.length_replicate
  unfold subroutineTable
  rw [TableEntry.slotOf_foldl_store (le_opcode_of_mem_placed allPlaced) tested size,
    filter_placed, List.getLast?_map, slotOf_unused]
  cases final : (program.callees opcode).getLast? with
  | none =>
      have empty := List.getLast?_eq_none_iff.mp final
      refine .free fun entry addressed command => ?_
      have member := mem_callees_iff.mpr ⟨addressed, command⟩
      rw [empty] at member
      cases member
  | some last =>
      obtain ⟨addressed, command⟩ := mem_callees_iff.mp (List.mem_of_getLast? final)
      refine .used last.1 last.2 addressed command fun other otherAddressed otherCommand => ?_
      exact utf8Bytes_le (le_of_getLast?_callees final other
        (mem_callees_iff.mpr ⟨otherAddressed, otherCommand⟩))

end Program

end ServoLink
