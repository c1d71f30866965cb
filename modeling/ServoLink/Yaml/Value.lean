import ServoLink.Text.Number

namespace ServoLink.Yaml

/-! ## What plain scalars mean -/

/-- The number in the digits after a base mark, or `none` where there is no such mark. -/
def radixNumber? : List Char → Option Nat
  | '0' :: 'x' :: digits => natOfDigits? 16 digits
  | '0' :: 'o' :: digits => natOfDigits? 8 digits
  | '0' :: 'b' :: digits => natOfDigits? 2 digits
  | _ => none

def withoutPlus : List Char → List Char
  | '+' :: text => text
  | text => text

def withoutSign : List Char → List Char
  | '+' :: text => text
  | '-' :: text => text
  | text => text

/-- Digits after a leading zero are not a decimal number. -/
def hasLeadingZero (text : List Char) : Bool :=
  let digits := withoutSign text
  digits.head? == some '0' && 1 < digits.length && digits.all Char.isDigit

/-- An unsigned number: decimal, or with a mark for another base. -/
def natural? (text : List Char) : Option Nat :=
  match radixNumber? (withoutPlus text) with
  | some value => some value
  | none => if hasLeadingZero text then none else natOfDigits? 10 (withoutPlus text)

def boolean? (text : String) : Option Bool :=
  if text = "true" ∨ text = "True" ∨ text = "TRUE" then some true
  else if text = "false" ∨ text = "False" ∨ text = "FALSE" then some false
  else none

def isNull (text : String) : Bool :=
  text == "null" || text == "Null" || text == "NULL" || text == "~"

/-! ## Texts that could be taken for something else -/

/-- Whether a text is a number of up to 128 bits in another base than ten. -/
def isRadixNumber (text : List Char) : Bool :=
  match text with
  | '-' :: unsigned => (radixNumber? unsigned).any (· ≤ Nat.pow 2 127)
  | text => (radixNumber? (withoutPlus text)).any (· < Nat.pow 2 128)

/-- Whether a text is a decimal number that is finite in double precision. -/
def isFiniteDecimal (text : List Char) : Bool :=
  match text with
  | '+' :: '+' :: _ => false
  | '+' :: '-' :: _ => false
  | text => (Decimal.parse? text).any Decimal.fitsDouble

def isSpecialNumber (text : String) : Bool :=
  [".inf", ".Inf", ".INF", "+.inf", "+.Inf", "+.INF", "-.inf", "-.Inf", "-.INF",
    ".nan", ".NaN", ".NAN"].contains text

/-- Whether a plain scalar would not be read back as a string: it is empty, a word for
nothing or for a truth value, or looks like a number. -/
def isAmbiguous (text : String) : Bool :=
  text.isEmpty || isNull text || (boolean? text).isSome ||
    isRadixNumber text.toList || hasLeadingZero text.toList ||
    isFiniteDecimal text.toList || isSpecialNumber text

end ServoLink.Yaml
