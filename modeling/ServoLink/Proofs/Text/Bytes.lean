import Mathlib.Data.List.Basic

/-!
# Texts and their bytes

A text is found again in its bytes, and an ASCII text has one byte for each character.
-/

namespace ServoLink

theorem fromUTF8?_toUTF8 (text : String) : String.fromUTF8? text.toUTF8 = some text := by
  unfold String.fromUTF8?
  exact dif_pos text.isValidUTF8

theorem utf8EncodeChar_ascii {c : Char} (ascii : c.toNat < 128) :
    String.utf8EncodeChar c = [UInt8.ofNat c.toNat] :=
  if_pos (Nat.le_of_lt_succ ascii)

/-- The bytes of an ASCII text are the codes of its characters. -/
theorem toUTF8_ascii {text : List Char} (ascii : ∀ c ∈ text, c.toNat < 128) :
    (String.ofList text).toUTF8 = ⟨(text.map fun c => UInt8.ofNat c.toNat).toArray⟩ := by
  have each : text.flatMap String.utf8EncodeChar = text.map fun c => UInt8.ofNat c.toNat := by
    induction text with
    | nil => rfl
    | cons c text inductionHypothesis =>
        rw [List.flatMap_cons, List.map_cons, utf8EncodeChar_ascii (ascii c List.mem_cons_self),
          inductionHypothesis fun d member => ascii d (List.mem_cons_of_mem c member)]
        rfl
  apply ByteArray.ext
  change (String.ofList text).toByteArray.data = _
  rw [String.toByteArray_ofList, List.utf8Encode, each, List.data_toByteArray]

end ServoLink
