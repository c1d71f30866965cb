import Mathlib.Data.List.GetD
import Mathlib.Data.Nat.Bitwise
import ServoLink.Proofs.Channel.ModePacking
import ServoLink.Proofs.Check

/-!
# Packing and unpacking channel modes

Every channel has bits of its own in the values that hold the modes.  Modes that have been
packed are therefore unpacked again, and values that have been unpacked are packed again;
a compact controller forgets what its masks say about pins without a channel.
-/

namespace ServoLink

/-! ## Bits of the pin masks -/

/-- The pins that have a channel. -/
def wiredPins : UInt16 := 0xCF

theorem pin_of_channel {channel pin : Nat} (wired : pinOfChannel? channel = some pin) :
    pin < 4 ∨ pin = 6 ∨ pin = 7 := by
  unfold pinOfChannel? at wired
  split at wired
  · cases wired
    omega
  · split at wired
    · cases wired
      omega
    · cases wired

theorem lt_of_pin {channel pin : Nat} (wired : pinOfChannel? channel = some pin) :
    channel < 6 := by
  by_contra outside
  unfold pinOfChannel? at wired
  rw [if_neg (by omega), if_neg outside] at wired
  cases wired

theorem exists_pin_of_channel {channel : Nat} (bound : channel < 6) :
    ∃ pin, pinOfChannel? channel = some pin := by
  unfold pinOfChannel?
  by_cases low : channel < 4
  · rw [if_pos low]
    exact ⟨_, rfl⟩
  · rw [if_neg low, if_pos bound]
    exact ⟨_, rfl⟩

theorem toNat_pinBit {channel pin : Nat} (wired : pinOfChannel? channel = some pin) :
    (pinBit channel).toNat = 2 ^ pin := by
  unfold pinBit
  rw [wired]
  obtain low | rfl | rfl := pin_of_channel wired
  · match pin, low with
    | 0, _ | 1, _ | 2, _ | 3, _ => rfl
  · rfl
  · rfl

theorem testBit_pinBit {channel pin : Nat} :
    (pinBit channel).toNat.testBit pin = true ↔ pinOfChannel? channel = some pin := by
  cases wired : pinOfChannel? channel with
  | none =>
      unfold pinBit
      rw [wired]
      simp
  | some found =>
      rw [toNat_pinBit wired, Nat.testBit_two_pow, decide_eq_true_eq, Option.some_inj]

/-- A mask has the pins of the channels whose mode is selected. -/
theorem testBit_pinMask
    (selected : ChannelMode → Bool) (start : Nat) (modes : List ChannelMode) (pin : Nat) :
    (pinMask selected start modes).toNat.testBit pin = true ↔
      ∃ place mode, modes[place]? = some mode ∧ selected mode = true ∧
        pinOfChannel? (start + place) = some pin := by
  induction modes generalizing start with
  | nil =>
      simp [pinMask]
  | cons first rest inductionHypothesis =>
      have head : (if selected first = true then pinBit start else 0).toNat.testBit pin = true ↔
          selected first = true ∧ pinOfChannel? start = some pin := by
        by_cases chosen : selected first = true
        · simp only [chosen, if_true, testBit_pinBit, true_and]
        · simp [chosen]
      rw [pinMask, UInt16.toNat_or, Nat.testBit_or, Bool.or_eq_true, head, inductionHypothesis]
      constructor
      · rintro (⟨chosen, wired⟩ | ⟨place, mode, found, chosen, wired⟩)
        · exact ⟨0, first, rfl, chosen, wired⟩
        · refine ⟨place + 1, mode, found, chosen, ?_⟩
          rw [← wired, Nat.add_right_comm, Nat.add_assoc]
      · rintro ⟨place, mode, found, chosen, wired⟩
        cases place with
        | zero =>
            cases found
            exact Or.inl ⟨chosen, wired⟩
        | succ earlier =>
            refine Or.inr ⟨earlier, mode, found, chosen, ?_⟩
            rw [← wired, Nat.add_right_comm, Nat.add_assoc]

theorem testBit_wiredPins {pin : Nat} :
    wiredPins.toNat.testBit pin = true ↔ ∃ channel, pinOfChannel? channel = some pin := by
  constructor
  · intro wired
    by_cases small : pin < 8
    · match pin, small, wired with
      | 0, _, _ => exact ⟨0, rfl⟩
      | 1, _, _ => exact ⟨1, rfl⟩
      | 2, _, _ => exact ⟨2, rfl⟩
      | 3, _, _ => exact ⟨3, rfl⟩
      | 6, _, _ => exact ⟨4, rfl⟩
      | 7, _, _ => exact ⟨5, rfl⟩
    · have above : wiredPins.toNat < 2 ^ pin :=
        Nat.lt_of_lt_of_le (show wiredPins.toNat < 2 ^ 8 by decide)
          (Nat.pow_le_pow_right (by decide) (by omega))
      rw [Nat.testBit_eq_false_of_lt above] at wired
      cases wired
  · rintro ⟨channel, wired⟩
    obtain low | rfl | rfl := pin_of_channel wired
    · match pin, low with
      | 0, _ | 1, _ | 2, _ | 3, _ => rfl
    · rfl
    · rfl

theorem and_pinBit_eq_zero_iff
    {channel pin : Nat} (wired : pinOfChannel? channel = some pin) (mask : UInt16) :
    mask &&& pinBit channel = 0 ↔ mask.toNat.testBit pin = false := by
  rw [← UInt16.toNat_inj, UInt16.toNat_and, toNat_pinBit wired, Nat.and_two_pow]
  cases mask.toNat.testBit pin <;> simp

/-! ## Codes of four channels -/

theorem ChannelMode.toNat_code_ofBits (bits : UInt16) :
    (ChannelMode.ofBits bits).code.toNat = bits.toNat % 4 := by
  have masked : (bits &&& 3).toNat = bits.toNat % 4 := by
    rw [UInt16.toNat_and, show UInt16.toNat 3 = 2 ^ 2 - 1 from rfl,
      Nat.and_two_pow_sub_one_eq_mod]
  have small : bits.toNat % 4 < 4 := Nat.mod_lt _ (by decide)
  unfold ofBits
  rw [masked]
  match bits.toNat % 4, small with
  | 0, _ | 1, _ | 2, _ | 3, _ => rfl

theorem toNat_code_modeOfByte (byte : UInt16) (channel : Nat) :
    (modeOfByte byte channel).code.toNat = byte.toNat / 2 ^ (2 * (channel % 4)) % 4 := by
  have slot : 2 * (channel % 4) < 16 := by omega
  unfold modeOfByte
  rw [ChannelMode.toNat_code_ofBits, UInt16.toNat_shiftRight, Nat.shiftRight_eq_div_pow,
    UInt16.toNat_ofNat', Nat.mod_eq_of_lt (show 2 * (channel % 4) < 2 ^ 16 by omega),
    Nat.mod_eq_of_lt slot]

/-- A byte is put together again from the codes in its four slots. -/
theorem modeByte_eq_of_slots
    {modes : List ChannelMode} {byte : Nat} {value : UInt16} (small : value.toNat < 256)
    (slots : ∀ slot < 4, slotCode modes byte slot = value.toNat / 2 ^ (2 * slot) % 4) :
    modeByte modes byte = value := by
  have first := slots 0 (by decide)
  have second := slots 1 (by decide)
  have third := slots 2 (by decide)
  have fourth := slots 3 (by decide)
  simp only [Nat.mul_zero, Nat.mul_one, Nat.reduceMul, Nat.reducePow] at first second third fourth
  apply UInt16.toNat_inj.mp
  rw [modeByte_toNat]
  omega

/-! ## Unpacking -/

namespace Family

theorem unpackModes_extended {raw : List UInt16} {count : Nat}
    (inside : count ≤ 4 * raw.length) :
    extended.unpackModes raw count =
      .ok ((List.range count).map fun channel =>
        modeOfByte (raw.getD (channel / 4) 0) channel) := by
  refine mapM_of_pure fun channel member => ?_
  have bound : channel / 4 < raw.length := by
    have below := List.mem_range.mp member
    omega
  rw [List.getD_eq_getElem?_getD, List.getElem?_eq_getElem bound]
  rfl

theorem unpackModes_compact {count : Nat} (few : count ≤ 6) (io output : UInt16) :
    compact.unpackModes [io, output] count =
      .ok ((List.range count).map fun channel =>
        modeOfMasks io output (pinBit channel)) := by
  refine mapM_of_pure fun channel member => ?_
  have below := List.mem_range.mp member
  obtain ⟨pin, wired⟩ := exists_pin_of_channel (show channel < 6 by omega)
  rw [wired]
  rfl

theorem unpackModes_modeValues_extended {modes : List ChannelMode} (few : modes.length ≤ 24) :
    extended.unpackModes (extended.modeValues modes) modes.length = .ok modes := by
  have six : (extended.modeValues modes).length = 6 := by
    rw [modeValues, List.length_map, List.length_range]
  rw [unpackModes_extended (by omega)]
  refine congrArg Except.ok (List.ext_getElem (by simp) fun channel _ inside => ?_)
  have bound : channel / 4 < 6 := by omega
  rw [List.getElem_map, List.getElem_range, modeValues, List.getD_eq_getElem?_getD,
    List.getElem?_map, List.getElem?_range bound, Option.map_some, Option.getD_some,
    modeOfByte_modeByte, List.getD_eq_getElem _ _ inside]

theorem unpackModes_modeValues_compact {modes : List ChannelMode} (few : modes.length ≤ 6) :
    compact.unpackModes (compact.modeValues modes) modes.length =
      .ok (modes.map compact.storedMode) := by
  rw [modeValues, unpackModes_compact few]
  refine congrArg Except.ok (List.ext_getElem (by simp) fun channel _ inside => ?_)
  have present : channel < modes.length := by
    rwa [List.length_map] at inside
  rw [List.getElem_map, List.getElem_range, List.getElem_map,
    modeOfMasks_maskOf (by omega) present]

/-! ## Packing what was unpacked -/

theorem modeValues_unpacked_extended
    {raw : List UInt16} (six : raw.length = 6) (bytes : ∀ value ∈ raw, value.toNat < 256) :
    extended.modeValues ((List.range 24).map fun channel =>
      modeOfByte (raw.getD (channel / 4) 0) channel) = raw := by
  refine List.ext_getElem (by simp [modeValues, six]) fun byte _ inside => ?_
  simp only [modeValues, List.getElem_map, List.getElem_range]
  refine modeByte_eq_of_slots (bytes _ (List.getElem_mem inside)) fun slot bound => ?_
  have place : (4 * byte + slot) / 4 = byte := by omega
  have remainder : (4 * byte + slot) % 4 = slot := by omega
  unfold slotCode
  rw [List.getD_eq_getElem?_getD, List.getElem?_map, List.getElem?_range (by omega),
    Option.map_some, Option.getD_some, toNat_code_modeOfByte, place, remainder,
    List.getD_eq_getElem _ _ inside]

/-- The mask of the modes that two masks give, if a mode is selected by a bit of them. -/
theorem pinMask_unpacked
    {selected : ChannelMode → Bool} {io output mask : UInt16}
    (selects : ∀ channel pin, pinOfChannel? channel = some pin →
      (selected (modeOfMasks io output (pinBit channel)) = true ↔
        mask.toNat.testBit pin = true)) :
    pinMask selected 0 ((List.range 6).map fun channel =>
      modeOfMasks io output (pinBit channel)) = mask &&& wiredPins := by
  refine UInt16.toNat_inj.mp (Nat.eq_of_testBit_eq fun pin => Bool.eq_iff_iff.mpr ?_)
  rw [testBit_pinMask, UInt16.toNat_and, Nat.testBit_and, Bool.and_eq_true, testBit_wiredPins]
  constructor
  · rintro ⟨channel, mode, found, chosen, wired⟩
    rw [Nat.zero_add] at wired
    obtain ⟨inside, rfl⟩ := List.getElem?_eq_some_iff.mp found
    rw [List.getElem_map, List.getElem_range, selects channel pin wired] at chosen
    exact ⟨chosen, channel, wired⟩
  · rintro ⟨set, channel, wired⟩
    refine ⟨channel, modeOfMasks io output (pinBit channel), ?_,
      (selects channel pin wired).mpr set, by rw [Nat.zero_add, wired]⟩
    rw [List.getElem?_map, List.getElem?_range (lt_of_pin wired)]
    rfl

theorem modeValues_unpacked_compact (io output : UInt16) :
    compact.modeValues ((List.range 6).map fun channel =>
      modeOfMasks io output (pinBit channel)) =
        [io &&& wiredPins, io &&& output &&& wiredPins] := by
  have ioMask : ioMaskOf ((List.range 6).map fun channel =>
      modeOfMasks io output (pinBit channel)) = io &&& wiredPins := by
    refine pinMask_unpacked fun channel pin wired => ?_
    simp only [modeOfMasks, and_pinBit_eq_zero_iff wired]
    cases io.toNat.testBit pin <;> cases output.toNat.testBit pin <;> decide
  have outputMask : outputMaskOf ((List.range 6).map fun channel =>
      modeOfMasks io output (pinBit channel)) = io &&& output &&& wiredPins := by
    refine pinMask_unpacked fun channel pin wired => ?_
    simp only [modeOfMasks, and_pinBit_eq_zero_iff wired, UInt16.toNat_and, Nat.testBit_and]
    cases io.toNat.testBit pin <;> cases output.toNat.testBit pin <;> decide
  rw [modeValues, ioMask, outputMask]

/-! ## Both directions -/

theorem testBit_ioMaskOf_of_output {modes : List ChannelMode} {pin : Nat}
    (driven : (outputMaskOf modes).toNat.testBit pin = true) :
    (ioMaskOf modes).toNat.testBit pin = true := by
  obtain ⟨channel, mode, found, output, wired⟩ := (testBit_pinMask _ 0 modes pin).mp driven
  refine (testBit_pinMask _ 0 modes pin).mpr ⟨channel, mode, found, ?_, wired⟩
  rw [output, Bool.or_true]

/-- Both families give back the modes that they have packed, compact controllers with one
servo mode in place of two.  Any six bytes are packed again as they were, and any two masks
with the bits of the wired pins, where an output is also marked as no servo. -/
theorem packModes_inverse (modes : List ChannelMode) :
    (∃ values,
      extended.packModes modes =
        (if modes.length ≤ 24 then .ok values else .error (.invalidChannel 24)) ∧
      values.length = 6 ∧ (∀ value ∈ values, value.toNat ≤ 255) ∧
      (modes.length ≤ 24 → extended.unpackModes values modes.length = .ok modes)) ∧
    (∃ io output,
      compact.packModes modes =
        (if modes.length ≤ 6 then .ok [io, output] else .error (.invalidChannel 6)) ∧
      (∀ pin, io.toNat.testBit pin = true → pin < 4 ∨ pin = 6 ∨ pin = 7) ∧
      (∀ pin, output.toNat.testBit pin = true → io.toNat.testBit pin = true) ∧
      (modes.length ≤ 6 → compact.unpackModes [io, output] modes.length =
        .ok (modes.map fun mode => if mode = .servoMultiplied then .servo else mode))) ∧
    (∀ bytes : Fin 6 → UInt8,
      let raw := List.ofFn fun place => (bytes place).toUInt16
      ∃ unpacked, extended.unpackModes raw 24 = .ok unpacked ∧
        extended.packModes unpacked = .ok raw) ∧
    ∀ io output : UInt16,
      ∃ unpacked, compact.unpackModes [io, output] 6 = .ok unpacked ∧
        compact.packModes unpacked = .ok [io &&& 0xCF, io &&& output &&& 0xCF] := by
  refine ⟨?extended, ?compact, ?bytes, ?masks⟩
  case extended =>
    refine ⟨extended.modeValues modes, packModes_extended modes, ?_, fun value member => ?_,
      unpackModes_modeValues_extended⟩
    · rw [modeValues, List.length_map, List.length_range]
    · exact Nat.le_of_lt_succ (modeValues_lt member)
  case compact =>
    have stored : (fun mode => if mode = .servoMultiplied then .servo else mode) =
        compact.storedMode := by
      funext mode
      cases mode <;> rfl
    refine ⟨ioMaskOf modes, outputMaskOf modes, packModes_compact modes, fun pin set => ?_,
      fun pin => testBit_ioMaskOf_of_output, fun few => ?_⟩
    · obtain ⟨_, _, _, _, wired⟩ := (testBit_pinMask _ 0 modes pin).mp set
      exact pin_of_channel wired
    · rw [stored]
      exact unpackModes_modeValues_compact few
  case bytes =>
    intro bytes raw
    have six : raw.length = 6 := List.length_ofFn
    have small : ∀ value ∈ raw, value.toNat < 256 := by
      intro value member
      obtain ⟨place, rfl⟩ := List.mem_ofFn.mp member
      rw [UInt8.toNat_toUInt16]
      exact (bytes place).toNat_lt
    refine ⟨_, unpackModes_extended (by omega), ?_⟩
    rw [packModes_extended, if_pos (by simp), modeValues_unpacked_extended six small]
  case masks =>
    intro io output
    refine ⟨_, unpackModes_compact (Nat.le_refl 6) io output, ?_⟩
    rw [packModes_compact, if_pos (by simp), modeValues_unpacked_compact]
    rfl

/-- Modes of all kinds on five channels. -/
theorem packModes_inverse_mixed :
    let modes : List ChannelMode := [.input, .servoMultiplied, .output, .servo, .output]
    modes.length ≤ 24 ∧ modes.length ≤ 6 ∧
      (∃ values, extended.packModes modes = .ok values ∧
        extended.unpackModes values 5 = .ok modes) ∧
      ∃ io output, compact.packModes modes = .ok [io, output] ∧
        compact.unpackModes [io, output] 5 =
          .ok [.input, .servo, .output, .servo, .output] := by
  intro modes
  have few : modes.length ≤ 6 := by decide
  have fits : modes.length ≤ 24 := by decide
  obtain ⟨⟨values, packed, _, _, unpacked⟩, ⟨io, output, masks, _, _, unmasked⟩, _⟩ :=
    packModes_inverse modes
  rw [if_pos fits] at packed
  rw [if_pos few] at masks
  exact ⟨fits, few, ⟨values, packed, unpacked fits⟩, io, output, masks, unmasked few⟩

end Family

end ServoLink
