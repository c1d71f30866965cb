import ServoLink.Parameter.Write
import ServoLink.Proofs.Check
import ServoLink.Proofs.Parameter.Range
import ServoLink.Proofs.Word

/-!
# Checked writes

A write is made exactly for a value that its parameter admits.  Its setup packet
carries the parameter's address and width beside the value, and the value fits that
width.  The bytes of a reply are read back as the word that they hold.
-/

namespace ServoLink

def Error.IsValidation (error : Error) : Prop :=
  ∃ cause, error = .validation cause

theorem Settles.validation
    {α : Type} {check : Except ValidationError α} {accepted : Prop}
    {refusal : ValidationError → Prop} {result : α}
    (verdict : Settles check accepted refusal result) :
    Settles (check.mapError Error.validation) accepted Error.IsValidation result :=
  verdict.mapError fun cause _ => ⟨cause, rfl⟩

/-- The check of a range refuses exactly the values that the range does not admit. -/
theorem ParameterRange.check_settles (range : ParameterRange) (value : Int) :
    Settles (range.check value) (range.Admits value) (fun _ => True)
      (UInt16.ofNat value.toNat) := by
  unfold ParameterRange.check ParameterRange.Admits
  split
  next outside =>
    exact ⟨fun inside => by omega, fun _ => ⟨_, rfl, True.intro⟩⟩
  next inside =>
    exact ⟨fun _ => rfl, fun outside => by omega⟩

theorem Parameter.range_eq_ok {parameter : Parameter} {range : ParameterRange}
    (known : parameter.range? = some range) : parameter.range = .ok range := by
  unfold Parameter.range
  rw [known]

theorem Parameter.range?_of_range {parameter : Parameter} {range : ParameterRange}
    (found : parameter.range = .ok range) : parameter.range? = some range := by
  unfold Parameter.range at found
  split at found
  · cases found
    assumption
  · cases found

namespace ParameterWrite

/-- The write that a check of an admitted value gives. -/
def admitted (range : ParameterRange) (value : Int) : ParameterWrite :=
  ⟨range, UInt16.ofNat value.toNat⟩

theorem make_settles
    {parameter : Parameter} {range : ParameterRange}
    (known : parameter.range? = some range) (value : Int) :
    Settles (make parameter value) (range.Admits value) Error.IsValidation
      (admitted range value) := by
  have found : Settles (parameter.range.mapError Error.protocol) True
      Error.IsValidation range := by
    rw [Parameter.range_eq_ok known]
    exact Settles.ok range
  have verdict : Settles ((range.check value).mapError Error.validation)
      (range.Admits value) Error.IsValidation (UInt16.ofNat value.toNat) :=
    (range.check_settles value).validation
  refine (found.bind fun _ => verdict.bind fun _ =>
    Settles.ok (admitted range value)).congr ?_
  simp

/-- A write whose range is its parameter's and whose value lies in it. -/
structure Checked (write : ParameterWrite) : Prop where
  known : write.parameter.range? = some write.range
  admits : write.range.Admits write.value.toNat

theorem value_admitted_toNat
    {range : ParameterRange} {value : Int} (admits : range.Admits value) :
    ((admitted range value).value.toNat : Int) = value := by
  have bound := range.greatest.toNat_lt
  unfold ParameterRange.Admits at admits
  simp only [admitted, UInt16.toNat_ofNat']
  omega

theorem checked_admitted
    {parameter : Parameter} {range : ParameterRange} {value : Int}
    (known : parameter.range? = some range) (admits : range.Admits value) :
    (admitted range value).Checked where
  known := by
    change range.parameter.range? = some range
    rw [(Parameter.wellFormed_of_range? known).names, known]
  admits := by
    rw [value_admitted_toNat admits]
    exact admits

theorem admitted_of_make
    {parameter : Parameter} {value : Int} {write : ParameterWrite}
    (made : make parameter value = .ok write) :
    ∃ range, parameter.range? = some range ∧ range.Admits value ∧
      write = admitted range value := by
  cases known : parameter.range? with
  | none =>
      unfold make Parameter.range at made
      rw [known] at made
      cases made
  | some range =>
      obtain ⟨admits, rfl⟩ := (make_settles known value).eq_ok_iff.mp made
      exact ⟨range, rfl, admits, rfl⟩

theorem checked_of_make
    {parameter : Parameter} {value : Int} {write : ParameterWrite}
    (made : make parameter value = .ok write) : write.Checked := by
  obtain ⟨range, known, admits, rfl⟩ := admitted_of_make made
  exact checked_admitted known admits

theorem parameter_of_make
    {parameter : Parameter} {value : Int} {write : ParameterWrite}
    (made : make parameter value = .ok write) : write.parameter = parameter := by
  obtain ⟨range, known, _, rfl⟩ := admitted_of_make made
  exact (Parameter.wellFormed_of_range? known).names

namespace Checked

variable {write : ParameterWrite}

theorem width (checked : write.Checked) : write.range.width = 1 ∨ write.range.width = 2 :=
  (Parameter.wellFormed_of_range? checked.known).width

/-- No bit of a checked value is lost in the parameter's width. -/
theorem narrowed_value (checked : write.Checked) :
    narrowed write.range.width write.value = write.value := by
  have fits := (Parameter.wellFormed_of_range? checked.known).fits
  have below := checked.admits.2
  exact narrowed_of_lt (by omega)

theorem index_toNat (checked : write.Checked) :
    write.setup.index.toNat = write.range.width * 256 + write.parameter.id.toNat := by
  have bound := write.parameter.id.toNat_lt
  change (UInt16.ofNat _).toNat = _
  rw [UInt16.toNat_ofNat']
  rcases checked.width with width | width <;> rw [width] <;> omega

theorem address (checked : write.Checked) :
    write.setup.index.toUInt8 = write.parameter.id := by
  have bound := write.parameter.id.toNat_lt
  apply UInt8.toNat_inj.mp
  rw [UInt16.toNat_toUInt8, checked.index_toNat]
  omega

theorem widthField (checked : write.Checked) :
    (write.setup.index >>> 8).toNat = write.range.width := by
  have bound := write.parameter.id.toNat_lt
  rw [UInt16.toNat_shiftRight, show UInt16.toNat 8 % 16 = 8 from rfl,
    Nat.shiftRight_eq_div_pow, checked.index_toNat]
  omega

end Checked

end ParameterWrite

namespace Parameter

variable {parameter : Parameter} {range : ParameterRange}

/-- A reply of the parameter's width holds the low bytes of the word. -/
theorem decode_wordBytes (known : parameter.range? = some range) (word : UInt16) :
    parameter.decode ((wordBytes word).take range.width) =
      .ok (narrowed range.width word) := by
  have width := (wellFormed_of_range? known).width
  unfold decode
  rw [range_eq_ok known]
  obtain ⟨named, bytes, least, greatest⟩ := range
  rcases width with equal | equal <;> cases equal
  · exact congrArg Except.ok (toUInt8_toUInt16 word)
  · exact congrArg Except.ok (wordOfBytes_split word)

/-- A reply to a known parameter can be refused for its length only. -/
theorem decode_error (known : parameter.range? = some range)
    {bytes : List UInt8} {cause : Error} (failed : parameter.decode bytes = .error cause) :
    cause = .protocol (.shortRead .parameter range.width bytes.length) := by
  unfold decode at failed
  rw [range_eq_ok known] at failed
  simp only [Except.mapError, bind, Except.bind] at failed
  split at failed
  · cases failed
  · cases failed
  · cases failed
    rfl

end Parameter

end ServoLink
