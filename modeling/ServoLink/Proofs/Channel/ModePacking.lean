import Mathlib.Algebra.Ring.Nat
import Mathlib.Data.List.GetD
import Mathlib.Data.List.Induction
import Mathlib.Tactic.ByContra
import ServoLink.Channel.ModePacking

/-!
# Channel modes in registers

Both families keep a channel's mode in bits of their own, so unpacking gives back the
mode that was packed.  Pin masks do not tell the two servo modes apart; apart from
that nothing is lost.  What the channels add one after the other is said at once by
`Family.modeValues`, up to the first channel that has no place.
-/

namespace ServoLink

/-- The mode that a family's mode parameters can hold in place of a given one. -/
def Family.storedMode : Family → ChannelMode → ChannelMode
  | .compact, .servoMultiplied => .servo
  | _, mode => mode

theorem Family.storedMode_extended (mode : ChannelMode) :
    Family.extended.storedMode mode = mode := by
  cases mode <;> rfl

/-! ## The values of a list of modes -/

/-- The pins of the channels from `channel` on whose mode is selected. -/
def pinMask (selected : ChannelMode → Bool) : (channel : Nat) → List ChannelMode → UInt16
  | _, [] => 0
  | channel, mode :: modes =>
      (if selected mode then pinBit channel else 0) ||| pinMask selected (channel + 1) modes

/-- The pins that are not driven as servos. -/
def ioMaskOf (modes : List ChannelMode) : UInt16 :=
  pinMask (fun mode => mode == .input || mode == .output) 0 modes

/-- The pins that are driven as outputs. -/
def outputMaskOf (modes : List ChannelMode) : UInt16 :=
  pinMask (fun mode => mode == .output) 0 modes

/-- The codes of four channels from `4 * byte` on, the first in the lowest bits;
channels past the end of the list count as servos. -/
def modeByte (modes : List ChannelMode) (byte : Nat) : UInt16 :=
  let code (slot : Nat) := (modes.getD (4 * byte + slot) .servo).code
  code 0 ||| (code 1 <<< 2) ||| (code 2 <<< 4) ||| (code 3 <<< 6)

/-- The values that a family's mode parameters get for a list of modes. -/
def Family.modeValues : Family → List ChannelMode → List UInt16
  | .compact, modes => [ioMaskOf modes, outputMaskOf modes]
  | .extended, modes => (List.range 6).map (modeByte modes)

/-! ## Two bits per channel -/

theorem ChannelMode.code_lt (mode : ChannelMode) : mode.code.toNat < 4 := by
  cases mode <;> decide

theorem ChannelMode.ofBits_of_code {bits : UInt16} {mode : ChannelMode}
    (low : bits.toNat % 4 = mode.code.toNat) : ChannelMode.ofBits bits = mode := by
  have masked : (bits &&& 3).toNat = mode.code.toNat := by
    rw [← low, UInt16.toNat_and, show UInt16.toNat 3 = 2 ^ 2 - 1 from rfl,
      Nat.and_two_pow_sub_one_eq_mod]
  unfold ChannelMode.ofBits
  rw [masked]
  cases mode <;> rfl

/-- A shifted word above the bits of another one adds to it. -/
theorem toNat_or_shiftLeft {low high : UInt16} (shift : UInt16)
    (below : low.toNat < 2 ^ shift.toNat) (short : shift.toNat < 16)
    (room : high.toNat * 2 ^ shift.toNat < 2 ^ 16) :
    (low ||| (high <<< shift)).toNat = low.toNat + high.toNat * 2 ^ shift.toNat := by
  rw [UInt16.toNat_or, UInt16.toNat_shiftLeft, Nat.mod_eq_of_lt short, Nat.shiftLeft_eq,
    Nat.mod_eq_of_lt room, Nat.or_comm, ← Nat.shiftLeft_eq,
    ← Nat.shiftLeft_add_eq_or_of_lt below, Nat.add_comm]

/-- The code that a byte of modes holds in one of its four slots. -/
def slotCode (modes : List ChannelMode) (byte slot : Nat) : Nat :=
  (modes.getD (4 * byte + slot) .servo).code.toNat

theorem slotCode_lt (modes : List ChannelMode) (byte slot : Nat) :
    slotCode modes byte slot < 4 :=
  ChannelMode.code_lt _

theorem modeByte_toNat (modes : List ChannelMode) (byte : Nat) :
    (modeByte modes byte).toNat =
      slotCode modes byte 0 + slotCode modes byte 1 * 4 +
        slotCode modes byte 2 * 16 + slotCode modes byte 3 * 64 := by
  have first := slotCode_lt modes byte 0
  have second := slotCode_lt modes byte 1
  have third := slotCode_lt modes byte 2
  have fourth := slotCode_lt modes byte 3
  have two : ((modes.getD (4 * byte + 0) .servo).code |||
      ((modes.getD (4 * byte + 1) .servo).code <<< 2)).toNat =
        slotCode modes byte 0 + slotCode modes byte 1 * 4 :=
    toNat_or_shiftLeft 2 first (by decide)
      (by change slotCode modes byte 1 * 4 < _; omega)
  have three : ((modes.getD (4 * byte + 0) .servo).code |||
      ((modes.getD (4 * byte + 1) .servo).code <<< 2) |||
      ((modes.getD (4 * byte + 2) .servo).code <<< 4)).toNat =
        slotCode modes byte 0 + slotCode modes byte 1 * 4 + slotCode modes byte 2 * 16 := by
    rw [toNat_or_shiftLeft 4 (by rw [two]; change _ < 16; omega) (by decide)
      (by change slotCode modes byte 2 * 16 < _; omega), two]
    rfl
  unfold modeByte
  simp only
  rw [toNat_or_shiftLeft 6 (by rw [three]; change _ < 64; omega) (by decide)
    (by change slotCode modes byte 3 * 64 < _; omega), three]
  rfl

theorem modeByte_lt (modes : List ChannelMode) (byte : Nat) :
    (modeByte modes byte).toNat < 256 := by
  have first := slotCode_lt modes byte 0
  have second := slotCode_lt modes byte 1
  have third := slotCode_lt modes byte 2
  have fourth := slotCode_lt modes byte 3
  rw [modeByte_toNat]
  omega

theorem modeByte_slot (modes : List ChannelMode) (byte : Nat) {slot : Nat}
    (bound : slot < 4) :
    (modeByte modes byte).toNat / 2 ^ (2 * slot) % 4 = slotCode modes byte slot := by
  have first := slotCode_lt modes byte 0
  have second := slotCode_lt modes byte 1
  have third := slotCode_lt modes byte 2
  have fourth := slotCode_lt modes byte 3
  rw [modeByte_toNat]
  match slot with
  | 0 => simp only [Nat.mul_zero, Nat.pow_zero]; omega
  | 1 => simp only [Nat.mul_one, Nat.reducePow]; omega
  | 2 => simp only [Nat.reduceMul, Nat.reducePow]; omega
  | 3 => simp only [Nat.reduceMul, Nat.reducePow]; omega

/-- The two bits of a channel give back its mode. -/
theorem modeOfByte_modeByte (modes : List ChannelMode) (channel : Nat) :
    modeOfByte (modeByte modes (channel / 4)) channel = modes.getD channel .servo := by
  have slot : channel % 4 < 4 := Nat.mod_lt channel (by decide)
  have place : 4 * (channel / 4) + channel % 4 = channel := Nat.div_add_mod channel 4
  apply ChannelMode.ofBits_of_code
  rw [UInt16.toNat_shiftRight, Nat.shiftRight_eq_div_pow, UInt16.toNat_ofNat',
    Nat.mod_eq_of_lt (show 2 * (channel % 4) < 2 ^ 16 by omega),
    Nat.mod_eq_of_lt (show 2 * (channel % 4) < 16 by omega), modeByte_slot modes _ slot]
  unfold slotCode
  rw [place]

/-! ## Pin masks -/

theorem or_and_word (first second mask : UInt16) :
    (first ||| second) &&& mask = (first &&& mask) ||| (second &&& mask) := by
  apply UInt16.toNat_inj.mp
  simp only [UInt16.toNat_and, UInt16.toNat_or, Nat.and_or_distrib_right]

/-- Channels of a compact controller are wired to pins of their own. -/
theorem pinBit_and_eq_zero_iff {channel : Nat} (bound : channel < 6) (other : Nat) :
    pinBit other &&& pinBit channel = 0 ↔ other ≠ channel := by
  by_cases wired : other < 6
  · have pairs : ∀ other < 6, ∀ channel < 6,
        (pinBit other &&& pinBit channel = 0 ↔ other ≠ channel) := by
      decide
    exact pairs other wired channel bound
  · have unwired : pinBit other = 0 := by
      unfold pinBit pinOfChannel?
      rw [if_neg (by omega), if_neg wired]
    rw [unwired]
    simp only [UInt16.zero_and, true_iff]
    omega

/-- A mask has the bit of a channel exactly when the channel's mode is selected. -/
theorem pinMask_and_eq_zero_iff
    (selected : ChannelMode → Bool) {channel : Nat} (bound : channel < 6)
    (start : Nat) (modes : List ChannelMode) :
    pinMask selected start modes &&& pinBit channel = 0 ↔
      ∀ place (inside : place < modes.length),
        start + place = channel → selected modes[place] = false := by
  induction modes generalizing start with
  | nil =>
      simp [pinMask]
  | cons mode rest inductionHypothesis =>
      rw [pinMask, or_and_word, UInt16.or_eq_zero_iff, inductionHypothesis]
      constructor
      · rintro ⟨head, tail⟩ place inside equal
        cases place with
        | zero =>
            by_contra chosen
            rw [if_pos (by simpa using chosen)] at head
            exact (pinBit_and_eq_zero_iff bound start).mp head equal
        | succ earlier =>
            exact tail earlier (by simpa using inside) (by omega)
      · intro all
        refine ⟨?_, fun place inside equal => ?_⟩
        · split
          next chosen =>
            refine (pinBit_and_eq_zero_iff bound start).mpr fun equal => ?_
            have none := all 0 (by simp) equal
            rw [List.getElem_cons_zero, chosen] at none
            cases none
          next =>
            exact UInt16.zero_and
        · exact all (place + 1) (by simpa using inside) (by omega)

theorem pinMask_and_pinBit
    (selected : ChannelMode → Bool) {modes : List ChannelMode} {channel : Nat}
    (bound : channel < 6) (inside : channel < modes.length) :
    pinMask selected 0 modes &&& pinBit channel = 0 ↔ selected modes[channel] = false := by
  rw [pinMask_and_eq_zero_iff selected bound]
  constructor
  · intro all
    exact all channel inside (Nat.zero_add channel)
  · intro unselected place _ equal
    simp only [Nat.zero_add] at equal
    subst equal
    exact unselected

/-- The bits of a channel in the two masks give back its mode. -/
theorem modeOfMasks_maskOf
    {modes : List ChannelMode} {channel : Nat}
    (bound : channel < 6) (inside : channel < modes.length) :
    modeOfMasks (ioMaskOf modes) (outputMaskOf modes) (pinBit channel) =
      Family.compact.storedMode modes[channel] := by
  have io := pinMask_and_pinBit (fun mode => mode == .input || mode == .output) bound inside
  have output := pinMask_and_pinBit (fun mode => mode == .output) bound inside
  unfold modeOfMasks ioMaskOf outputMaskOf
  simp only [io, output]
  cases modes[channel] <;> rfl

theorem pinMask_lt (selected : ChannelMode → Bool) (start : Nat) (modes : List ChannelMode) :
    (pinMask selected start modes).toNat < 256 := by
  have bits (channel : Nat) : (pinBit channel).toNat < 2 ^ 8 := by
    by_cases wired : channel < 6
    · have all : ∀ channel < 6, (pinBit channel).toNat < 2 ^ 8 := by
        decide
      exact all channel wired
    · unfold pinBit pinOfChannel?
      rw [if_neg (by omega), if_neg wired]
      decide
  induction modes generalizing start with
  | nil =>
      change UInt16.toNat 0 < 256
      decide
  | cons mode rest inductionHypothesis =>
      rw [pinMask, UInt16.toNat_or]
      refine Nat.or_lt_two_pow (n := 8) ?_ (inductionHypothesis (start + 1))
      split
      · exact bits start
      · decide

theorem pinMask_congr
    (selected : ChannelMode → Bool) (kept : ChannelMode → ChannelMode)
    (same : ∀ mode, selected (kept mode) = selected mode)
    (start : Nat) (modes : List ChannelMode) :
    pinMask selected start (modes.map kept) = pinMask selected start modes := by
  induction modes generalizing start with
  | nil =>
      rfl
  | cons mode rest inductionHypothesis =>
      rw [List.map_cons, pinMask, pinMask, same, inductionHypothesis]

/-! ## Both families -/

theorem Family.modeValues_lt
    {family : Family} {modes : List ChannelMode} {value : UInt16}
    (member : value ∈ family.modeValues modes) : value.toNat < 256 := by
  cases family with
  | compact =>
      simp only [Family.modeValues, List.mem_cons, List.not_mem_nil, or_false] at member
      rcases member with rfl | rfl <;> exact pinMask_lt _ _ _
  | extended =>
      obtain ⟨byte, _, rfl⟩ := List.mem_map.mp member
      exact modeByte_lt modes byte

/-- The stored modes pack to the same values. -/
theorem Family.modeValues_map_storedMode (family : Family) (modes : List ChannelMode) :
    family.modeValues (modes.map family.storedMode) = family.modeValues modes := by
  cases family with
  | compact =>
      have io := pinMask_congr (fun mode => mode == .input || mode == .output)
        Family.compact.storedMode (fun mode => by cases mode <;> rfl) 0 modes
      have output := pinMask_congr (fun mode => mode == .output)
        Family.compact.storedMode (fun mode => by cases mode <;> rfl) 0 modes
      simp only [Family.modeValues, ioMaskOf, outputMaskOf, io, output]
  | extended =>
      have same : Family.extended.storedMode = id :=
        funext Family.storedMode_extended
      rw [same, List.map_id]

/-! ## Packing channel by channel -/

theorem pinMask_append_singleton
    (selected : ChannelMode → Bool) (start : Nat) (modes : List ChannelMode) (mode : ChannelMode) :
    pinMask selected start (modes ++ [mode]) =
      pinMask selected start modes |||
        (if selected mode then pinBit (start + modes.length) else 0) := by
  induction modes generalizing start with
  | nil =>
      change (if selected mode then pinBit start else 0) ||| 0 = 0 ||| _
      rw [UInt16.or_zero, UInt16.zero_or]
      rfl
  | cons first rest inductionHypothesis =>
      rw [List.cons_append, pinMask, inductionHypothesis, pinMask, UInt16.or_assoc,
        List.length_cons, Nat.add_right_comm, Nat.add_assoc]

theorem exists_pin_of_lt {channel : Nat} (wired : channel < 6) :
    ∃ number pin, channelNumber channel = .ok number ∧ pinOfChannel number = .ok pin ∧
      1 <<< pin.toUInt16 = pinBit channel := by
  have one : channel = 0 ∨ channel = 1 ∨ channel = 2 ∨ channel = 3 ∨ channel = 4 ∨
      channel = 5 := by
    omega
  rcases one with rfl | rfl | rfl | rfl | rfl | rfl
  all_goals exact ⟨_, _, rfl, rfl, rfl⟩

/-- A channel with a pin adds the pin to the masks. -/
theorem PinMasks.addMode_of_lt
    (masks : PinMasks) (mode : ChannelMode) {channel : Nat} (wired : channel < 6) :
    masks.addMode (mode, channel) = .ok
      { io := masks.io ||| (if mode == .input || mode == .output then pinBit channel else 0)
        output := masks.output ||| (if mode == .output then pinBit channel else 0) } := by
  obtain ⟨number, pin, numbered, located, bit⟩ := exists_pin_of_lt wired
  unfold addMode
  rw [numbered]
  change (pinOfChannel number >>= _) = _
  rw [located]
  cases mode with
  | servo | servoMultiplied =>
      change Except.ok masks = .ok ⟨masks.io ||| 0, masks.output ||| 0⟩
      rw [UInt16.or_zero, UInt16.or_zero]
  | input =>
      change Except.ok (PinMasks.mk (masks.io ||| 1 <<< pin.toUInt16) masks.output) =
        .ok ⟨masks.io ||| pinBit channel, masks.output ||| 0⟩
      rw [bit, UInt16.or_zero]
  | output =>
      change Except.ok (PinMasks.mk (masks.io ||| 1 <<< pin.toUInt16)
        (masks.output ||| 1 <<< pin.toUInt16)) =
          .ok ⟨masks.io ||| pinBit channel, masks.output ||| pinBit channel⟩
      rw [bit]

/-- A loop over channels and their modes that adds one channel after the other, up to a limit at
which it fails. -/
theorem foldlM_zipIdx_eq
    {Held : Type} {add : Held → ChannelMode × Nat → Except ProtocolError Held}
    (whole : List ChannelMode → Held) {limit : Nat} {cause : ProtocolError}
    (more : ∀ modes mode, modes.length < limit →
      add (whole modes) (mode, modes.length) = .ok (whole (modes ++ [mode])))
    (last : ∀ modes mode, modes.length = limit →
      add (whole modes) (mode, modes.length) = .error cause)
    (modes : List ChannelMode) :
    modes.zipIdx.foldlM add (whole []) =
      if modes.length ≤ limit then .ok (whole modes) else .error cause := by
  induction modes using List.reverseRecOn with
  | nil => exact (if_pos (Nat.zero_le limit)).symm
  | append_singleton modes mode inductionHypothesis =>
      have split : (modes ++ [mode]).zipIdx.foldlM add (whole []) =
          modes.zipIdx.foldlM add (whole []) >>= (add · (mode, modes.length)) := by
        rw [List.zipIdx_append, List.foldlM_append, List.zipIdx_singleton, Nat.zero_add]
        simp only [List.foldlM_cons, List.foldlM_nil, bind_pure]
      rw [split, inductionHypothesis, List.length_append, List.length_singleton]
      rcases Nat.lt_trichotomy modes.length limit with room | full | past
      · rw [if_pos (Nat.le_of_lt room), if_pos (Nat.succ_le_of_lt room)]
        exact more modes mode room
      · rw [if_pos (Nat.le_of_eq full), if_neg (by omega)]
        exact last modes mode full
      · rw [if_neg (Nat.not_le_of_gt past), if_neg (by omega)]
        rfl

/-- The masks are those of the channels so far, until the first channel without a pin. -/
theorem foldlM_addMode (modes : List ChannelMode) :
    modes.zipIdx.foldlM PinMasks.addMode {} =
      if modes.length ≤ 6 then .ok ⟨ioMaskOf modes, outputMaskOf modes⟩
      else .error (.invalidChannel 6) := by
  apply foldlM_zipIdx_eq fun modes => PinMasks.mk (ioMaskOf modes) (outputMaskOf modes)
  · intro modes mode wired
    rw [PinMasks.addMode_of_lt _ mode wired, ioMaskOf, ioMaskOf, outputMaskOf, outputMaskOf,
      pinMask_append_singleton, pinMask_append_singleton, Nat.zero_add]
  · intro modes mode full
    rw [full]
    rfl

/-- A mode at the end of a list adds its code at its own place. -/
theorem code_getD_append_singleton
    (modes : List ChannelMode) (mode : ChannelMode) (place : Nat) :
    ((modes ++ [mode]).getD place .servo).code =
      (modes.getD place .servo).code ||| (if place = modes.length then mode.code else 0) := by
  rcases Nat.lt_trichotomy place modes.length with inside | last | past
  · rw [List.getD_append _ _ _ _ inside, if_neg (Nat.ne_of_lt inside), UInt16.or_zero]
  · rw [last, List.getD_append_right _ _ _ _ (Nat.le_refl _), Nat.sub_self, if_pos rfl,
      List.getD_eq_default _ _ (Nat.le_refl _)]
    exact UInt16.zero_or.symm
  · rw [List.getD_eq_default _ _ (Nat.le_of_lt past), if_neg (Nat.ne_of_gt past),
      List.getD_eq_default _ _ (by rw [List.length_append]; exact past)]
    rfl

theorem modeByte_append_singleton
    (modes : List ChannelMode) (mode : ChannelMode) (byte : Nat) :
    modeByte (modes ++ [mode]) byte =
      modeByte modes byte |||
        (if modes.length / 4 = byte then
          mode.code <<< UInt16.ofNat (2 * (modes.length % 4))
        else 0) := by
  have codes : modeByte (modes ++ [mode]) byte =
      modeByte modes byte |||
        ((if 4 * byte + 0 = modes.length then mode.code else 0) |||
          ((if 4 * byte + 1 = modes.length then mode.code else 0) <<< 2) |||
          ((if 4 * byte + 2 = modes.length then mode.code else 0) <<< 4) |||
          ((if 4 * byte + 3 = modes.length then mode.code else 0) <<< 6)) := by
    unfold modeByte
    simp only [code_getD_append_singleton, UInt16.shiftLeft_or]
    ac_rfl
  rw [codes]
  congr 1
  by_cases own : modes.length / 4 = byte
  · rw [if_pos own]
    have slot : modes.length % 4 < 4 := Nat.mod_lt _ (by decide)
    have place : 4 * byte + modes.length % 4 = modes.length := by omega
    generalize modes.length % 4 = last at slot place
    rw [← place]
    match last, slot with
    | 0, _ | 1, _ | 2, _ | 3, _ => simp
  · rw [if_neg own, if_neg (by omega), if_neg (by omega), if_neg (by omega),
      if_neg (by omega)]
    rfl

/-- A channel that has a value adds its code to it. -/
theorem addCode_modeByte
    (modes : List ChannelMode) (mode : ChannelMode) (room : modes.length < 24) :
    addCode ((List.range 6).map (modeByte modes)) (mode, modes.length) =
      .ok ((List.range 6).map (modeByte (modes ++ [mode]))) := by
  have value : ((List.range 6).map (modeByte modes))[modes.length / 4]? =
      some (modeByte modes (modes.length / 4)) := by
    rw [List.getElem?_map, List.getElem?_range (by omega)]
    rfl
  unfold addCode
  simp only [value]
  congr 1
  apply List.ext_getElem
  · rw [List.length_set, List.length_map, List.length_map]
  · intro byte _ _
    rw [List.getElem_set, List.getElem_map, List.getElem_map, List.getElem_range,
      modeByte_append_singleton]
    split
    next own =>
      rw [own]
    next other =>
      rw [UInt16.or_zero]

theorem addCode_of_ge
    {values : List UInt16} {channel : Nat} (past : values.length ≤ channel / 4)
    (mode : ChannelMode) :
    addCode values (mode, channel) = .error (.invalidChannel (UInt8.ofNat channel)) := by
  unfold addCode
  simp only [List.getElem?_eq_none past]

/-- The values are those of the channels so far, until the first channel without one. -/
theorem foldlM_addCode (modes : List ChannelMode) :
    modes.zipIdx.foldlM addCode (List.replicate 6 0) =
      if modes.length ≤ 24 then .ok ((List.range 6).map (modeByte modes))
      else .error (.invalidChannel 24) := by
  apply foldlM_zipIdx_eq fun modes => (List.range 6).map (modeByte modes)
  · exact addCode_modeByte
  · intro modes mode full
    rw [full]
    apply addCode_of_ge
    rw [List.length_map, List.length_range]

theorem Family.packModes_compact (modes : List ChannelMode) :
    Family.compact.packModes modes =
      if modes.length ≤ 6 then .ok (Family.compact.modeValues modes)
      else .error (.invalidChannel 6) := by
  rw [packModes, foldlM_addMode]
  split <;> rfl

theorem Family.packModes_extended (modes : List ChannelMode) :
    Family.extended.packModes modes =
      if modes.length ≤ 24 then .ok (Family.extended.modeValues modes)
      else .error (.invalidChannel 24) :=
  foldlM_addCode modes

theorem Model.packModes_eq
    {model : Model} {modes : List ChannelMode}
    (count : modes.length = model.channelCount) :
    model.family.packModes modes = .ok (model.family.modeValues modes) := by
  cases model with
  | micro6 => exact (Family.packModes_compact modes).trans (if_pos (Nat.le_of_eq count))
  | mini12 | mini18 | mini24 =>
      exact (Family.packModes_extended modes).trans (if_pos (by rw [count]; decide))

end ServoLink
