import ServoLink.Proofs.Parameter.Memory

/-!
# Encoding and decoding parameters

A parameter that the table knows is encoded for exactly the values of its range, and decoded
from exactly the replies of its width; each direction undoes the other.  The range of every
parameter fits its width, so no step from a 64-bit value to the bytes loses anything.
-/

namespace ServoLink

namespace Parameter

/-- The parameters that are known: those with a row in the table, and the fields of the
channels. -/
inductive HasRange : Parameter → ParameterRange → Prop
  | row {row : ParameterRow} (member : row ∈ table) :
      HasRange row.parameter ⟨row.parameter, row.width, row.least, row.greatest⟩
  | servo (field : ServoField) {channel : Nat} (bound : channel < maxChannels) :
      HasRange (servo field channel) (field.limits (servo field channel))

variable {parameter : Parameter} {range : ParameterRange}

theorem range?_eq_some_iff : parameter.range? = some range ↔ HasRange parameter range := by
  constructor
  · intro known
    unfold range? at known
    cases row : parameter.row? with
    | some found =>
        rw [row] at known
        cases known
        have names : found.parameter = parameter := by simpa using List.find?_some row
        subst names
        exact .row (List.mem_of_find?_eq_some row)
    | none =>
        rw [row] at known
        obtain ⟨found, servo, rfl⟩ := Option.map_eq_some_iff.mp known
        obtain ⟨bound, rfl⟩ := eq_servo_of_servo? servo
        exact .servo found.1 bound
  · rintro (member | ⟨field, bound⟩)
    · exact range?_of_mem_table member
    · exact range?_servo field bound

theorem range_of_unknown (unknown : ∀ range, ¬ HasRange parameter range) :
    parameter.range = .error (.unknownParameter parameter) := by
  unfold Parameter.range
  cases known : parameter.range? with
  | none => rfl
  | some range => exact absurd (range?_eq_some_iff.mp known) (unknown range)

/-! ## Widths -/

theorem table_ordered : ∀ row ∈ table, row.least.toNat ≤ row.greatest.toNat := by
  decide

/-- Every range is one that its width can carry. -/
theorem HasRange.bounds (known : HasRange parameter range) :
    range.least.toNat ≤ range.greatest.toNat ∧
      range.greatest.toNat < 2 ^ (8 * range.width) := by
  have fits := (wellFormed_of_range? (range?_eq_some_iff.mpr known)).fits
  rw [pow_mul]
  refine ⟨?_, fits⟩
  rcases known with member | ⟨field, bound⟩
  · exact table_ordered _ member
  · cases field <;> simp [ServoField.limits, positionMax]

/-- The low sixteen bits of a 64-bit value that a word can hold are that value. -/
theorem toNat_low_word {value : Int64} (least : 0 ≤ value.toInt)
    (greatest : value.toInt < 65536) :
    (value.toUInt64.toUInt16.toNat : Int) = value.toInt := by
  have signed : value.toInt = value.toBitVec.toInt := rfl
  have unsigned : value.toUInt64.toNat = value.toBitVec.toNat := rfl
  have cases := BitVec.toInt_eq_toNat_cond value.toBitVec
  rw [UInt64.toNat_toUInt16, unsigned]
  omega

/-! ## Values and replies -/

theorem encode_of_admits (known : HasRange parameter range) {value : Int}
    (admits : range.Admits value) :
    parameter.encode value = .ok (ParameterWrite.admitted range value).bytes := by
  unfold encode
  rw [(ParameterWrite.make_settles (range?_eq_some_iff.mpr known) value).accept admits]
  rfl

theorem encode_of_not_admits (known : HasRange parameter range) {value : Int}
    (outside : ¬ range.Admits value) :
    parameter.encode value =
      .error (.validation (.outOfRange parameter value range.least range.greatest)) := by
  have known := range?_eq_some_iff.mpr known
  have names := (wellFormed_of_range? known).names
  have refused : range.check value =
      .error (.outOfRange parameter value range.least range.greatest) := by
    unfold ParameterRange.check
    unfold ParameterRange.Admits at outside
    rw [if_pos (by omega), names]
  unfold encode ParameterWrite.make
  rw [range_eq_ok known]
  simp only [Except.mapError, bind, Except.bind, refused, Except.map]

/-- The bytes of a value are as many as its parameter is wide, and are read as the value. -/
theorem decode_of_encoded (known : HasRange parameter range) {value : Int}
    (admits : range.Admits value) :
    (ParameterWrite.admitted range value).bytes.length = range.width ∧
      parameter.decode (ParameterWrite.admitted range value).bytes =
        .ok (ParameterWrite.admitted range value).value := by
  have known := range?_eq_some_iff.mpr known
  have checked := ParameterWrite.checked_admitted known admits
  have named : (ParameterWrite.admitted range value).parameter = parameter :=
    (wellFormed_of_range? known).names
  exact ⟨checked.length_bytes, named ▸ checked.decode_bytes⟩

/-- A reply of the parameter's width is the low bytes of exactly one word of that width. -/
theorem decode_of_length (known : HasRange parameter range) {bytes : List UInt8}
    (length : bytes.length = range.width) :
    ∃ word, parameter.decode bytes = .ok word ∧ (wordBytes word).take range.width = bytes := by
  have found := range_eq_ok (range?_eq_some_iff.mpr known)
  have width := (wellFormed_of_range? (range?_eq_some_iff.mpr known)).width
  unfold decode
  rw [found]
  obtain ⟨named, size, least, greatest⟩ := range
  rcases width with equal | equal <;> cases equal
  · obtain ⟨low, rfl⟩ := List.length_eq_one_iff.mp length
    exact ⟨low.toUInt16, rfl, by simp [wordBytes]⟩
  · obtain ⟨low, high, rfl⟩ := List.length_eq_two.mp length
    exact ⟨wordOfBytes low high, rfl, by rw [wordBytes_wordOfBytes]; rfl⟩

theorem decode_of_other_length (known : HasRange parameter range) {bytes : List UInt8}
    (length : bytes.length ≠ range.width) :
    parameter.decode bytes =
      .error (.protocol (.shortRead .parameter range.width bytes.length)) := by
  have found := range?_eq_some_iff.mpr known
  cases decoded : parameter.decode bytes with
  | error cause => rw [decode_error found decoded]
  | ok word =>
      have width := (wellFormed_of_range? found).width
      unfold decode at decoded
      rw [range_eq_ok found] at decoded
      simp only [Except.mapError, bind, Except.bind] at decoded
      split at decoded
      · exact absurd (by simp_all) length
      · exact absurd (by simp_all) length
      · cases decoded

/-- A decoded value is encoded again exactly where its range admits it, as the same bytes. -/
theorem encode_of_decoded (known : HasRange parameter range) {bytes : List UInt8} {word : UInt16}
    (length : bytes.length = range.width) (decoded : parameter.decode bytes = .ok word)
    {again : List UInt8} :
    parameter.encode word.toNat = .ok again ↔ range.Admits word.toNat ∧ again = bytes := by
  obtain ⟨found, equal, holds⟩ := decode_of_length known length
  rw [equal] at decoded
  cases decoded
  by_cases admits : range.Admits word.toNat
  · have value : (ParameterWrite.admitted range word.toNat).value = word := by
      apply UInt16.toNat_inj.mp
      exact Int.ofNat_inj.mp (ParameterWrite.value_admitted_toNat admits)
    have same : (ParameterWrite.admitted range word.toNat).bytes = bytes := by
      unfold ParameterWrite.bytes
      rw [value]
      exact holds
    rw [encode_of_admits known admits, same]
    simp [admits, eq_comm]
  · rw [encode_of_not_admits known admits]
    simp [admits]

/-- What encoding gives for every value: the bytes of an admitted one, which are read as the
value, or the refusal that names the value and the range. -/
def EncodesExactly (parameter : Parameter) (range : ParameterRange) : Prop :=
  ∀ value : Int,
    (range.Admits value ∧ ∃ bytes word, parameter.encode value = .ok bytes ∧
      bytes.length = range.width ∧ parameter.decode bytes = .ok word ∧ (word.toNat : Int) = value) ∨
    (¬ range.Admits value ∧ parameter.encode value =
      .error (.validation (.outOfRange parameter value range.least range.greatest)))

/-- What decoding gives for every reply: the word of one as long as the parameter is wide, which
is encoded again as the same bytes where the range admits it, or the refusal of its length. -/
def DecodesExactly (parameter : Parameter) (range : ParameterRange) : Prop :=
  ∀ bytes : List UInt8,
    (bytes.length = range.width ∧ ∃ word, parameter.decode bytes = .ok word ∧
      ∀ again, parameter.encode word.toNat = .ok again ↔
        range.Admits word.toNat ∧ again = bytes) ∨
    (bytes.length ≠ range.width ∧ parameter.decode bytes =
      .error (.protocol (.shortRead .parameter range.width bytes.length)))

/-- The low sixteen bits of an admitted 64-bit value, and of those the bytes of the width, are
still the value. -/
def NarrowsExactly (parameter : Parameter) (range : ParameterRange) : Prop :=
  ∀ value : Int64, range.Admits value.toInt →
    let word := value.toUInt64.toUInt16
    (word.toNat : Int) = value.toInt ∧ narrowed range.width word = word ∧
      parameter.encode value.toInt = .ok ((wordBytes word).take range.width)

theorem HasRange.encodesExactly (known : HasRange parameter range) :
    EncodesExactly parameter range := by
  intro value
  by_cases admits : range.Admits value
  · obtain ⟨length, decoded⟩ := decode_of_encoded known admits
    exact .inl ⟨admits, _, _, encode_of_admits known admits, length, decoded,
      ParameterWrite.value_admitted_toNat admits⟩
  · exact .inr ⟨admits, encode_of_not_admits known admits⟩

theorem HasRange.decodesExactly (known : HasRange parameter range) :
    DecodesExactly parameter range := by
  intro bytes
  by_cases length : bytes.length = range.width
  · obtain ⟨word, decoded, _⟩ := decode_of_length known length
    exact .inl ⟨length, word, decoded, fun _ => encode_of_decoded known length decoded⟩
  · exact .inr ⟨length, decode_of_other_length known length⟩

theorem HasRange.narrowsExactly (known : HasRange parameter range) :
    NarrowsExactly parameter range := by
  intro value admits word
  have inWidth := (wellFormed_of_range? (range?_eq_some_iff.mpr known)).fits
  have inWord := range.greatest.toNat_lt
  have low : (word.toNat : Int) = value.toInt :=
    toNat_low_word (by have := admits.1; omega) (by have := admits.2; omega)
  have same : (ParameterWrite.admitted range value.toInt).value = word := by
    have kept := ParameterWrite.value_admitted_toNat admits
    exact UInt16.toNat_inj.mp (by omega)
  refine ⟨low, narrowed_of_lt ?_, ?_⟩
  · have := admits.2
    omega
  · rw [encode_of_admits known admits]
    unfold ParameterWrite.bytes
    rw [same]
    rfl

/-- Encoding and decoding undo each other on exactly the values of the range and the replies of
the width, which the range fits; a parameter that is not known is refused by both. -/
theorem encode_decode_exactly (parameter : Parameter) :
    (∀ range, HasRange parameter range →
      (range.least.toNat ≤ range.greatest.toNat ∧
        range.greatest.toNat < 2 ^ (8 * range.width)) ∧
      EncodesExactly parameter range ∧ DecodesExactly parameter range ∧
      NarrowsExactly parameter range) ∧
    ((∀ range, ¬ HasRange parameter range) →
      (∀ value : Int, parameter.encode value = .error (.protocol (.unknownParameter parameter))) ∧
      ∀ bytes, parameter.decode bytes = .error (.protocol (.unknownParameter parameter))) := by
  constructor
  · intro range known
    exact ⟨known.bounds, known.encodesExactly, known.decodesExactly, known.narrowsExactly⟩
  · intro unknown
    have refused := range_of_unknown unknown
    constructor
    · intro value
      unfold encode ParameterWrite.make
      rw [refused]
      rfl
    · intro bytes
      unfold decode
      rw [refused]
      rfl

/-- The fourth channel's range takes the values from 1 to 50, and the address after its home,
which is the second byte of that, is no parameter. -/
theorem encode_decode_exactly_servo :
    HasRange (servo .range 3) ⟨servo .range 3, 1, 1, 50⟩ ∧
      (∃ bytes, (servo .range 3).encode 50 = .ok bytes ∧ bytes.length = 1) ∧
      (servo .range 3).encode 51 =
        .error (.validation (.outOfRange (servo .range 3) 51 1 50)) ∧
      (∀ range, ¬ HasRange ⟨58⟩ range) ∧
      (Parameter.mk 58).decode [7, 0] = .error (.protocol (.unknownParameter ⟨58⟩)) := by
  have known : HasRange (servo .range 3) ⟨servo .range 3, 1, 1, 50⟩ := .servo .range (by decide)
  have unknown : ∀ range, ¬ HasRange ⟨58⟩ range := by
    intro range found
    rw [← range?_eq_some_iff, show (Parameter.mk 58).range? = none by decide] at found
    cases found
  obtain ⟨-, encodes, -, -⟩ := (encode_decode_exactly (servo .range 3)).1 _ known
  obtain ⟨-, decodes⟩ := (encode_decode_exactly ⟨58⟩).2 unknown
  have greatest := (encodes 50).resolve_right fun refused => refused.1 ⟨by decide, by decide⟩
  have above := (encodes 51).resolve_left fun taken => absurd taken.1.2 (by decide)
  obtain ⟨-, bytes, word, encoded, length, -⟩ := greatest
  exact ⟨known, ⟨bytes, encoded, length⟩, above.2, unknown, decodes _⟩

end Parameter

end ServoLink
