import Mathlib.Algebra.Ring.Nat
import ServoLink.Parameter.Range

/-!
# The parameter table

Every parameter of the table has the range of its row, and every field of a channel
has the limits of that field.  The addresses of different fields are different, and
lie above those of the table.
-/

namespace ServoLink

/-- The values that a range admits. -/
def ParameterRange.Admits (range : ParameterRange) (value : Int) : Prop :=
  range.least.toNat ≤ value ∧ value ≤ range.greatest.toNat

namespace Parameter

theorem eq_of_id_toNat {first second : Parameter}
    (equal : first.id.toNat = second.id.toNat) : first = second := by
  cases first
  cases second
  exact congrArg Parameter.mk (UInt8.toNat_inj.mp equal)

/-! ## Parameters of the whole controller -/

theorem row?_of_mem_table : ∀ row ∈ table, row.parameter.row? = some row := by
  decide

theorem range?_of_mem_table {row : ParameterRow} (member : row ∈ table) :
    row.parameter.range? = some ⟨row.parameter, row.width, row.least, row.greatest⟩ := by
  unfold range?
  rw [row?_of_mem_table row member]

theorem id_lt_of_mem_table : ∀ row ∈ table, row.parameter.id.toNat < 30 := by
  decide

/-! ## Parameters of a channel -/

theorem offset_lt (field : ServoField) : field.offset < servoParameterBytes := by
  cases field <;> decide

theorem ofOffset?_offset (field : ServoField) :
    ServoField.ofOffset? field.offset = some field := by
  cases field <;> rfl

theorem id_servo_toNat
    (field : ServoField) {channel : Nat} (bound : channel < maxChannels) :
    (servo field channel).id.toNat = 30 + field.offset + channel * servoParameterBytes := by
  have small := offset_lt field
  unfold maxChannels at bound
  unfold servoParameterBytes at small ⊢
  simp only [servo, servoParameterBytes, UInt8.toNat_ofNat']
  omega

theorem row?_eq_none_of_le {parameter : Parameter} (bound : 30 ≤ parameter.id.toNat) :
    parameter.row? = none := by
  refine List.find?_eq_none.mpr fun row member equal => ?_
  have same : row.parameter = parameter := by simpa using equal
  have below := id_lt_of_mem_table row member
  rw [same] at below
  omega

theorem servo?_servo
    (field : ServoField) {channel : Nat} (bound : channel < maxChannels) :
    (servo field channel).servo? = some (field, channel) := by
  have small := offset_lt field
  have address := id_servo_toNat field bound
  have quotient :
      ((servo field channel).id.toNat - 30) / servoParameterBytes = channel := by
    rw [address]
    unfold servoParameterBytes at small ⊢
    omega
  have remainder :
      ((servo field channel).id.toNat - 30) % servoParameterBytes = field.offset := by
    rw [address]
    unfold servoParameterBytes at small ⊢
    omega
  have above : ¬ (servo field channel).id.toNat < 30 := by
    omega
  unfold servo?
  simp only [above, if_false, quotient, remainder, bound, if_true]
  rw [ofOffset?_offset]
  rfl

theorem range?_servo
    (field : ServoField) {channel : Nat} (bound : channel < maxChannels) :
    (servo field channel).range? = some (field.limits (servo field channel)) := by
  have above : 30 ≤ (servo field channel).id.toNat := by
    rw [id_servo_toNat field bound]
    omega
  unfold range?
  rw [row?_eq_none_of_le above, servo?_servo field bound]
  rfl

theorem servo_injective
    {first second : ServoField} {channel other : Nat}
    (bound : channel < maxChannels) (otherBound : other < maxChannels)
    (equal : servo first channel = servo second other) :
    first = second ∧ channel = other := by
  have found := servo?_servo first bound
  rw [equal, servo?_servo second otherBound] at found
  simpa [eq_comm] using found

/-! ## Every parameter -/

/-- A range names its own parameter, is one or two bytes wide, and admits only values
that fit its width. -/
structure WellFormed (parameter : Parameter) (range : ParameterRange) : Prop where
  names : range.parameter = parameter
  width : range.width = 1 ∨ range.width = 2
  fits : range.greatest.toNat < 256 ^ range.width

theorem limits_wellFormed (field : ServoField) (parameter : Parameter) :
    WellFormed parameter (field.limits parameter) := by
  cases field <;>
    exact ⟨rfl, by simp [ServoField.limits], by simp [ServoField.limits, positionMax]⟩

theorem wellFormed_of_mem_table :
    ∀ row ∈ table, (row.width = 1 ∨ row.width = 2) ∧
      row.greatest.toNat < 256 ^ row.width := by
  decide

theorem wellFormed_of_range? {parameter : Parameter} {range : ParameterRange}
    (known : parameter.range? = some range) : WellFormed parameter range := by
  unfold range? at known
  split at known
  next row found =>
    cases known
    obtain ⟨width, fits⟩ := wellFormed_of_mem_table row (List.mem_of_find?_eq_some found)
    exact ⟨rfl, width, fits⟩
  next =>
    obtain ⟨found, _, equal⟩ := Option.map_eq_some_iff.mp known
    subst equal
    exact limits_wellFormed found.1 parameter

end Parameter

end ServoLink
