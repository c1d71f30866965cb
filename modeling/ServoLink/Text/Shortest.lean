namespace ServoLink

/-! ## Counts in double precision

A count is published as a double: the nearest one, written with the fewest digits that
lead back to it and filled up with zeros. -/

/-- The number of binary digits beyond the 53 that a double holds. -/
def excessBits (value : Nat) : Nat :=
  value.log2 + 1 - 53

/-- The number in units of `2 ^ bits` that is nearest to `value`, the even one of two. -/
def roundToEven (value bits : Nat) : Nat :=
  let unit := Nat.pow 2 bits
  let quotient := value / unit
  let twice := 2 * (value % unit)
  if twice < unit ∨ (twice = unit ∧ quotient % 2 = 0) then quotient else quotient + 1

/-- The double nearest to a count: a mantissa and the number of zero bits after it. -/
def nearestDouble (value : Nat) : Nat × Nat :=
  let bits := excessBits value
  let mantissa := roundToEven value bits
  if mantissa = Nat.pow 2 53 then (Nat.pow 2 52, bits + 1) else (mantissa, bits)

/-- The multiple of `step` nearest to `value` from `low` to `high`, whose ends belong to
the range where `closed` holds; of two the larger. -/
def nearestMultiple? (low high : Nat) (closed : Bool) (step value : Nat) : Option Nat :=
  let inside (candidate : Nat) : Bool :=
    if closed then low ≤ candidate && candidate ≤ high
    else low < candidate && candidate < high
  let below := value / step * step
  let above := below + step
  match inside below, inside above with
  | true, true => some (if value - below < above - value then below else above)
  | true, false => some below
  | false, true => some above
  | false, false => none

/-- The shortest number that leads back to `mantissa * 2 ^ bits`, for `bits` of at least
one.  All bounds are taken four times, so that the quarter below a power of two is a
whole number. -/
def shortestCount (mantissa bits : Nat) : Nat :=
  let unit := Nat.pow 2 bits
  let value := mantissa * unit
  let gapBelow := if mantissa = Nat.pow 2 52 then unit else 2 * unit
  let low := 4 * value - gapBelow
  let high := 4 * value + 2 * unit
  let closed := mantissa % 2 == 0
  let found :=
    (List.range 20).reverse.findSome? fun zeros =>
      nearestMultiple? low high closed (4 * Nat.pow 10 zeros) (4 * value)
  match found with
  | some candidate => candidate / 4
  | none => value

/-- The text of a count. -/
def countText (value : Nat) : String :=
  let (mantissa, bits) := nearestDouble value
  toString (if bits = 0 then mantissa else shortestCount mantissa bits)

end ServoLink
