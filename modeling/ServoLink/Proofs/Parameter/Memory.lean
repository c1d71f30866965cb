import Mathlib.Data.List.Perm.Basic
import Mathlib.Data.List.Pairwise
import ServoLink.Proofs.Parameter.Write

/-!
# Parameters in a memory of bytes

A write stores its bytes from the address of its parameter on.  The bytes of different
parameters do not overlap, so writes of different parameters commute, and what was written
is read back whatever the order.
-/

namespace ServoLink

/-! ## Memory -/

/-- A memory of bytes, by address. -/
abbrev ByteMemory := Nat → UInt8

namespace ByteMemory

/-- The memory with some bytes stored from an address on. -/
def store (memory : ByteMemory) (address : Nat) (bytes : List UInt8) : ByteMemory := fun place =>
  if address ≤ place then bytes[place - address]?.getD (memory place) else memory place

def load (memory : ByteMemory) (address width : Nat) : List UInt8 :=
  (List.range width).map fun distance => memory (address + distance)

variable {memory : ByteMemory} {address other width : Nat} {bytes others : List UInt8}

theorem store_outside {place : Nat}
    (outside : place < address ∨ address + bytes.length ≤ place) :
    memory.store address bytes place = memory place := by
  unfold store
  by_cases above : address ≤ place
  · have past : bytes.length ≤ place - address := by omega
    rw [if_pos above, List.getElem?_eq_none past, Option.getD_none]
  · rw [if_neg above]

theorem store_inside {distance : Nat} (inside : distance < bytes.length) :
    memory.store address bytes (address + distance) = bytes[distance] := by
  unfold store
  rw [if_pos (Nat.le_add_right address distance), Nat.add_sub_cancel_left,
    List.getElem?_eq_getElem inside, Option.getD_some]

theorem load_store : (memory.store address bytes).load address bytes.length = bytes := by
  apply List.ext_getElem
  · rw [load, List.length_map, List.length_range]
  · intro place _ inside
    simp only [load, List.getElem_map, List.getElem_range, store_inside inside]

theorem load_store_of_apart
    (apart : other + width ≤ address ∨ address + bytes.length ≤ other) :
    (memory.store address bytes).load other width = memory.load other width := by
  apply List.map_congr_left
  intro distance member
  have inside := List.mem_range.mp member
  exact store_outside (by omega)

/-- Stores to places that do not overlap commute. -/
theorem store_comm
    (apart : other + others.length ≤ address ∨ address + bytes.length ≤ other) :
    (memory.store address bytes).store other others =
      (memory.store other others).store address bytes := by
  funext place
  by_cases first : place < address ∨ address + bytes.length ≤ place
  · rw [store_outside first]
    by_cases second : place < other ∨ other + others.length ≤ place
    · rw [store_outside second, store_outside second, store_outside first]
    · obtain ⟨distance, rfl⟩ := Nat.exists_eq_add_of_le (show other ≤ place by omega)
      have inside : distance < others.length := by omega
      rw [store_inside inside, store_inside inside]
  · have second : place < other ∨ other + others.length ≤ place := by omega
    rw [store_outside second]
    obtain ⟨distance, rfl⟩ := Nat.exists_eq_add_of_le (show address ≤ place by omega)
    have inside : distance < bytes.length := by omega
    rw [store_inside inside, store_inside inside]

end ByteMemory

/-! ## Places of parameters -/

/-- No byte belongs to both of two ranges of parameters. -/
def ParameterRange.Apart (one other : ParameterRange) : Prop :=
  one.parameter.id.toNat + one.width ≤ other.parameter.id.toNat ∨
    other.parameter.id.toNat + other.width ≤ one.parameter.id.toNat

theorem ServoField.offset_of_ofOffset? {distance : Nat} {field : ServoField}
    (found : ServoField.ofOffset? distance = some field) : field.offset = distance := by
  simpa using List.find?_some found

namespace Parameter

variable {parameter first second : Parameter} {range firstRange secondRange : ParameterRange}

/-- A parameter with a field and a channel is the one of that field and channel. -/
theorem eq_servo_of_servo? {found : ServoField × Nat} (servo : parameter.servo? = some found) :
    found.2 < maxChannels ∧ parameter = .servo found.1 found.2 := by
  simp only [servo?] at servo
  by_cases low : parameter.id.toNat < 30
  · rw [if_pos low] at servo
    cases servo
  · rw [if_neg low] at servo
    by_cases bound : (parameter.id.toNat - 30) / servoParameterBytes < maxChannels
    · rw [if_pos bound] at servo
      obtain ⟨field, fieldAt, rfl⟩ := Option.map_eq_some_iff.mp servo
      refine ⟨bound, eq_of_id_toNat ?_⟩
      rw [id_servo_toNat field bound, ServoField.offset_of_ofOffset? fieldAt]
      simp only [servoParameterBytes]
      omega
    · rw [if_neg bound] at servo
      cases servo

/-- A known parameter stands in the table, or it is a field of a channel. -/
theorem table_or_servo (known : parameter.range? = some range) :
    (∃ row ∈ table, row.parameter = parameter ∧ row.width = range.width) ∨
      ∃ field channel, channel < maxChannels ∧ parameter = .servo field channel ∧
        range = field.limits parameter := by
  unfold range? at known
  cases row : parameter.row? with
  | some found =>
      rw [row] at known
      cases known
      have names : found.parameter = parameter := by simpa using List.find?_some row
      exact Or.inl ⟨found, List.mem_of_find?_eq_some row, names, rfl⟩
  | none =>
      rw [row] at known
      obtain ⟨found, servo, rfl⟩ := Option.map_eq_some_iff.mp known
      obtain ⟨bound, same⟩ := eq_servo_of_servo? servo
      exact Or.inr ⟨found.1, found.2, bound, same, rfl⟩

theorem table_below_channels : ∀ row ∈ table, row.parameter.id.toNat + row.width ≤ 30 := by
  decide

theorem table_apart : ∀ one ∈ table, ∀ other ∈ table, one.parameter ≠ other.parameter →
    one.parameter.id.toNat + one.width ≤ other.parameter.id.toNat ∨
      other.parameter.id.toNat + other.width ≤ one.parameter.id.toNat := by
  decide +kernel

theorem offset_add_width_le (field : ServoField) (parameter : Parameter) :
    field.offset + (field.limits parameter).width ≤ servoParameterBytes := by
  cases field <;> exact Nat.le_of_ble_eq_true rfl

theorem fields_apart {one other : ServoField} (different : one ≠ other)
    (first second : Parameter) :
    one.offset + (one.limits first).width ≤ other.offset ∨
      other.offset + (other.limits second).width ≤ one.offset := by
  cases one <;> cases other <;>
    first
      | exact absurd rfl different
      | exact Or.inl (Nat.le_of_ble_eq_true rfl)
      | exact Or.inr (Nat.le_of_ble_eq_true rfl)

/-- The channels have nine addresses each, which is room for all fields of a channel. -/
theorem servo_apart
    {one other : ServoField} {channel beside : Nat}
    (bound : channel < maxChannels) (besideBound : beside < maxChannels)
    (different : one ≠ other ∨ channel ≠ beside) :
    (one.limits (.servo one channel)).Apart (other.limits (.servo other beside)) := by
  have names (field : ServoField) (parameter : Parameter) :
      (field.limits parameter).parameter = parameter := (limits_wellFormed field parameter).names
  have within := offset_add_width_le one (.servo one channel)
  have otherWithin := offset_add_width_le other (.servo other beside)
  unfold ParameterRange.Apart
  rw [names, names, id_servo_toNat one bound, id_servo_toNat other besideBound]
  unfold servoParameterBytes at within otherWithin ⊢
  by_cases same : channel = beside
  · have fields := fields_apart (different.resolve_right fun apart => apart same)
      (.servo one channel) (.servo other beside)
    omega
  · omega

/-- Different parameters have no byte in common. -/
theorem ranges_apart (different : first ≠ second)
    (known : first.range? = some firstRange) (otherKnown : second.range? = some secondRange) :
    firstRange.Apart secondRange := by
  have name := (wellFormed_of_range? known).names
  have otherName := (wellFormed_of_range? otherKnown).names
  rcases table_or_servo known with ⟨row, member, rfl, width⟩ | ⟨one, channel, bound, rfl, rfl⟩
  · have below := table_below_channels row member
    rcases table_or_servo otherKnown with
      ⟨other, besides, rfl, otherWidth⟩ | ⟨other, beside, otherBound, rfl, rfl⟩
    · have apart := table_apart row member other besides different
      rw [ParameterRange.Apart, name, otherName, ← width, ← otherWidth]
      exact apart
    · rw [ParameterRange.Apart, name, otherName, id_servo_toNat other otherBound, ← width]
      omega
  · rcases table_or_servo otherKnown with
      ⟨row, member, rfl, width⟩ | ⟨other, beside, otherBound, rfl, rfl⟩
    · have below := table_below_channels row member
      rw [ParameterRange.Apart, name, otherName, id_servo_toNat one bound, ← width]
      omega
    · apply servo_apart bound otherBound
      by_contra both
      push Not at both
      exact different (by rw [both.1, both.2])

end Parameter

/-! ## Writes -/

namespace ParameterWrite

/-- The memory after a write has stored its bytes. -/
def storeIn (memory : ByteMemory) (write : ParameterWrite) : ByteMemory :=
  memory.store write.parameter.id.toNat write.bytes

def storeAll (memory : ByteMemory) (writes : List ParameterWrite) : ByteMemory :=
  writes.foldl storeIn memory

/-- The bytes that are stored in the place of a parameter. -/
def loaded (memory : ByteMemory) (write : ParameterWrite) : List UInt8 :=
  memory.load write.parameter.id.toNat write.range.width

variable {memory : ByteMemory} {write one other : ParameterWrite}
  {writes shuffled : List ParameterWrite}

theorem Checked.length_bytes (checked : write.Checked) :
    write.bytes.length = write.range.width := by
  change ((wordBytes write.value).take write.range.width).length = _
  rw [List.length_take]
  rcases checked.width with width | width <;> rw [width] <;> rfl

theorem Checked.decode_bytes (checked : write.Checked) :
    write.parameter.decode write.bytes = .ok write.value := by
  unfold bytes
  rw [Parameter.decode_wordBytes checked.known, checked.narrowed_value]

theorem Checked.apart
    (checked : one.Checked) (otherChecked : other.Checked)
    (different : one.parameter ≠ other.parameter) : one.range.Apart other.range :=
  Parameter.ranges_apart different checked.known otherChecked.known

theorem loaded_storeIn (checked : write.Checked) :
    write.loaded (storeIn memory write) = write.bytes := by
  unfold loaded storeIn
  rw [← checked.length_bytes, ByteMemory.load_store]

theorem loaded_storeIn_of_apart (otherChecked : other.Checked)
    (apart : one.range.Apart other.range) :
    one.loaded (storeIn memory other) = one.loaded memory := by
  apply ByteMemory.load_store_of_apart
  rw [otherChecked.length_bytes]
  exact apart

theorem storeIn_comm (checked : one.Checked) (otherChecked : other.Checked)
    (apart : one.range.Apart other.range) :
    storeIn (storeIn memory one) other = storeIn (storeIn memory other) one := by
  apply ByteMemory.store_comm
  rw [checked.length_bytes, otherChecked.length_bytes]
  exact apart.symm

/-- Writes of other parameters leave the bytes of a parameter alone. -/
theorem loaded_storeAll_of_apart (checked : ∀ other ∈ writes, other.Checked)
    (apart : ∀ other ∈ writes, write.range.Apart other.range) :
    write.loaded (storeAll memory writes) = write.loaded memory := by
  induction writes generalizing memory with
  | nil =>
      rfl
  | cons first rest inductionHypothesis =>
      rw [List.forall_mem_cons] at checked apart
      change write.loaded (storeAll (storeIn memory first) rest) = _
      rw [inductionHypothesis checked.2 apart.2, loaded_storeIn_of_apart checked.1 apart.1]

section Independent

variable (checked : ∀ write ∈ writes, write.Checked)
  (apart : writes.Pairwise fun one other => one.range.Apart other.range)

include checked apart

/-- What each write has stored is found after all of them. -/
theorem loaded_storeAll (member : write ∈ writes) :
    write.loaded (storeAll memory writes) = write.bytes := by
  induction writes generalizing memory with
  | nil =>
      cases member
  | cons first rest inductionHypothesis =>
      rw [List.forall_mem_cons] at checked
      rw [List.pairwise_cons] at apart
      change write.loaded (storeAll (storeIn memory first) rest) = _
      rcases List.mem_cons.mp member with rfl | inside
      · rw [loaded_storeAll_of_apart checked.2 apart.1, loaded_storeIn checked.1]
      · exact inductionHypothesis checked.2 apart.2 inside

/-- Writes that do not overlap store the same in any order. -/
theorem storeAll_perm (perm : shuffled.Perm writes) :
    storeAll memory shuffled = storeAll memory writes := by
  have symmetric : Std.Symm fun one other : ParameterWrite => one.range.Apart other.range :=
    ⟨fun _ _ => Or.symm⟩
  refine (perm.symm.foldl_eq' ?_ memory).symm
  intro one member other inside current
  by_cases same : one = other
  · rw [same]
  · exact storeIn_comm (checked one member) (checked other inside)
      (apart.forall member inside same)

end Independent

end ParameterWrite

end ServoLink
