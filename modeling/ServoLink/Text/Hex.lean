namespace ServoLink

/-! ## Hexadecimal digits -/

/-- The digit of a value below sixteen, with lower-case letters. -/
def hexDigit (value : Nat) : Char :=
  if value < 10 then Char.ofNat (48 + value) else Char.ofNat (87 + value)

/-- The digit of a value below sixteen, with upper-case letters. -/
def upperHexDigit (value : Nat) : Char :=
  if value < 10 then Char.ofNat (48 + value) else Char.ofNat (55 + value)

/-- The value of a hexadecimal digit of either case. -/
def hexValue? (c : Char) : Option Nat :=
  if '0' ≤ c ∧ c ≤ '9' then some (c.toNat - 48)
  else if 'a' ≤ c ∧ c ≤ 'f' then some (c.toNat - 87)
  else if 'A' ≤ c ∧ c ≤ 'F' then some (c.toNat - 55)
  else none

/-- The last `width` digits of `value`, most significant first. -/
def fixedHex (digit : Nat → Char) : (width value : Nat) → List Char
  | 0, _ => []
  | width + 1, value => fixedHex digit width (value / 16) ++ [digit (value % 16)]

/-- Exactly `width` lower-case digits. -/
def hex (width value : Nat) : String :=
  String.ofList (fixedHex hexDigit width value)

/-- Exactly `width` upper-case digits. -/
def upperHex (width value : Nat) : String :=
  String.ofList (fixedHex upperHexDigit width value)

theorem length_fixedHex (digit : Nat → Char) (width value : Nat) :
    (fixedHex digit width value).length = width := by
  induction width generalizing value with
  | zero => rfl
  | succ width induction => simp [fixedHex, induction]

end ServoLink
