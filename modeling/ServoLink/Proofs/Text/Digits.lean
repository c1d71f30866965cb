import Mathlib.Data.List.Basic
import Mathlib.Data.Nat.Digits.Defs
import ServoLink.Text.Number

/-!
# Numbers read back from their digits
-/

namespace ServoLink

/-! ## Hexadecimal digits -/

theorem hexValue?_hexDigit : ∀ value < 16, hexValue? (hexDigit value) = some value := by
  decide

theorem hexValue?_upperHexDigit : ∀ value < 16, hexValue? (upperHexDigit value) = some value := by
  decide

/-- Hexadecimal digits are read from the most significant one on. -/
theorem foldlM_fixedHex {digit : Nat → Char}
    (reads : ∀ value < 16, hexValue? (digit value) = some value) (width value : Nat) :
    (fixedHex digit width value).foldlM
      (fun code c => (hexValue? c).map (16 * code + ·)) 0 = some (value % 16 ^ width) := by
  induction width generalizing value with
  | zero => rw [Nat.pow_zero, Nat.mod_one]; rfl
  | succ width inductionHypothesis =>
      have last : value % 16 < 16 := Nat.mod_lt value (by decide)
      unfold fixedHex
      rw [List.foldlM_append, inductionHypothesis]
      change (hexValue? (digit (value % 16))).map (16 * (value / 16 % 16 ^ width) + ·) >>= pure = _
      rw [reads _ last, bind_pure, Option.map_some, Nat.pow_succ, Nat.mul_comm (16 ^ width),
        Nat.mod_mul, Nat.add_comm]

/-! ## Decimal digits -/

/-- The decimal digits of a number. -/
def decimalDigits (value : Nat) : List Char :=
  Nat.toDigits 10 value

theorem toList_toString_natural (value : Nat) : (toString value).toList = decimalDigits value :=
  Nat.toList_repr

theorem toList_toString_negative (value : Nat) :
    (toString (Int.negSucc value)).toList = '-' :: decimalDigits (value + 1) := by
  change ("-" ++ (value + 1).repr).toList = _
  rw [String.toList_append, Nat.toList_repr]
  rfl

theorem decimalDigits_ne_nil (value : Nat) : decimalDigits value ≠ [] :=
  Nat.toDigits_ne_nil

theorem isDigit_of_mem_decimalDigits {value : Nat} {c : Char} (member : c ∈ decimalDigits value) :
    c.isDigit = true :=
  Nat.isDigit_of_mem_toDigits (by decide) (by decide) member

theorem foldl_decimalDigits (value : Nat) :
    (decimalDigits value).foldl (fun code c => 10 * code + (c.toNat - 48)) 0 = value :=
  Nat.ofDigitChars_toDigits (by decide) (by decide)

/-- Only the number zero begins with a zero. -/
theorem eq_zero_of_head?_decimalDigits {value : Nat}
    (zero : (decimalDigits value).head? = some '0') : value = 0 := by
  induction value using Nat.strongRecOn with
  | ind value inductionHypothesis =>
      unfold decimalDigits at zero
      by_cases small : value < 10
      · rw [Nat.toDigits_of_lt_base small] at zero
        exact Nat.digitChar_eq_zero.mp (Option.some.inj zero)
      · have large : 10 ≤ value := Nat.le_of_not_lt small
        rw [Nat.toDigits_of_base_le (by decide) large,
          List.head?_append_of_ne_nil _ Nat.toDigits_ne_nil] at zero
        have tens : value / 10 = 0 :=
          inductionHypothesis (value / 10) (Nat.div_lt_self (by omega) (by decide)) zero
        omega

theorem digitValue?_of_isDigit {c : Char} (digit : c.isDigit = true) :
    digitValue? 10 c = some (c.toNat - 48) := by
  obtain ⟨low, high⟩ : 48 ≤ c.toNat ∧ c.toNat ≤ 57 := by
    simpa [Char.isDigit, UInt32.le_iff_toNat_le] using digit
  have range : '0' ≤ c ∧ c ≤ '9' := ⟨low, high⟩
  have small : c.toNat - 48 < 10 := by omega
  simp [digitValue?, hexValue?, range, small]

theorem natOfDigits?_decimalDigits (value : Nat) :
    natOfDigits? 10 (decimalDigits value) = some value := by
  have each : ∀ (digits : List Char) (start : Nat), (∀ c ∈ digits, c.isDigit = true) →
      digits.foldlM (fun value c => (digitValue? 10 c).map (10 * value + ·)) start =
        some (digits.foldl (fun code c => 10 * code + (c.toNat - 48)) start) := by
    intro digits
    induction digits with
    | nil => exact fun _ _ => rfl
    | cons c digits inductionHypothesis =>
        intro start all
        have rest := inductionHypothesis (10 * start + (c.toNat - 48))
          fun d member => all d (List.mem_cons_of_mem c member)
        simp [digitValue?_of_isDigit (all c List.mem_cons_self), rest]
  have nonempty : (decimalDigits value).isEmpty = false := by simp [decimalDigits_ne_nil]
  rw [natOfDigits?, nonempty, each _ _ fun c member => isDigit_of_mem_decimalDigits member,
    foldl_decimalDigits]
  rfl

end ServoLink
