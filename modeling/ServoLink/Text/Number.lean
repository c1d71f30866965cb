import ServoLink.Text.Hex

namespace ServoLink

/-! ## Whole numbers -/

/-- The value of a digit in a base of at most sixteen. -/
def digitValue? (base : Nat) (c : Char) : Option Nat :=
  (hexValue? c).filter (· < base)

/-- The number of a text that consists of digits only, and of at least one. -/
def natOfDigits? (base : Nat) (digits : List Char) : Option Nat :=
  if digits.isEmpty then
    none
  else
    digits.foldlM (fun value c => (digitValue? base c).map (base * value + ·)) 0

/-- A decimal number with an optional sign. -/
def intOfDigits? : List Char → Option Int
  | '+' :: digits => (natOfDigits? 10 digits).map Int.ofNat
  | '-' :: digits => (natOfDigits? 10 digits).map fun value => -Int.ofNat value
  | digits => (natOfDigits? 10 digits).map Int.ofNat

/-! ## Decimal fractions -/

/-- A number as it is written in decimal, or one of the values that are none. -/
inductive Decimal where
  /-- `mantissa` times ten to the `exponent`. -/
  | finite (negative : Bool) (mantissa : Nat) (exponent : Int)
  | infinite (negative : Bool)
  | notANumber
  deriving DecidableEq, Repr

namespace Decimal

/-- The number of decimal digits of a positive number. -/
def digitCount (value : Nat) : Nat :=
  (Nat.toDigits 10 value).length

/-- A mantissa with at least one digit in front of the point or behind it. -/
def mantissa? (text : List Char) : Option (Nat × Int × List Char) :=
  let whole := text.takeWhile Char.isDigit
  let rest := text.dropWhile Char.isDigit
  let (fraction, rest) :=
    match rest with
    | '.' :: rest => (rest.takeWhile Char.isDigit, rest.dropWhile Char.isDigit)
    | rest => ([], rest)
  (natOfDigits? 10 (whole ++ fraction)).map fun mantissa =>
    (mantissa, -Int.ofNat fraction.length, rest)

/-- An optional exponent up to the end of the text. -/
def exponent? : List Char → Option Int
  | [] => some 0
  | c :: digits => if c = 'e' ∨ c = 'E' then intOfDigits? digits else none

/-- A number without its sign. -/
def unsigned? (negative : Bool) (text : List Char) : Option Decimal :=
  let lower := text.map Char.toLower
  if lower = "inf".toList ∨ lower = "infinity".toList then
    some (.infinite negative)
  else if lower = "nan".toList then
    some .notANumber
  else do
    let (mantissa, scale, rest) ← mantissa? text
    let exponent ← exponent? rest
    return .finite negative mantissa (scale + exponent)

def parse? : List Char → Option Decimal
  | '+' :: text => unsigned? false text
  | '-' :: text => unsigned? true text
  | text => unsigned? false text

/-- Whether a number is below the least one that rounds to infinity in double precision,
which is halfway between the greatest double and the next power of two. -/
def fitsDouble : Decimal → Bool
  | finite _ mantissa exponent =>
      let bound := Nat.pow 2 1024 - Nat.pow 2 970
      if mantissa = 0 then true
      else
        let magnitude := exponent + Int.ofNat (digitCount mantissa)
        if magnitude ≤ 0 then true
        else if 400 < magnitude then false
        else if 0 ≤ exponent then mantissa * Nat.pow 10 exponent.toNat < bound
        else mantissa < bound * Nat.pow 10 (-exponent).toNat
  | _ => false

/-- The nearest double. -/
def toFloat : Decimal → Float
  | finite negative mantissa exponent =>
      let magnitude := exponent + Int.ofNat (digitCount mantissa)
      let value :=
        if mantissa = 0 ∨ magnitude < -400 then 0.0
        else if 400 < magnitude then 1.0 / 0.0
        else Float.ofScientific mantissa (exponent < 0) exponent.natAbs
      if negative then -value else value
  | infinite negative => if negative then -1.0 / 0.0 else 1.0 / 0.0
  | notANumber => 0.0 / 0.0

end Decimal

end ServoLink
