import ServoLink.Snapshot.Document
import ServoLink.Text.Hex

namespace ServoLink

/-! ## JSON values -/

/-- A JSON value as far as records can tell values apart.  A string whose escapes leave
a surrogate unpaired is no text, and a number with a sign, a fraction or an exponent
fits no field. -/
inductive Json where
  | null
  | bool (value : Bool)
  | natural (value : Nat)
  | otherNumber
  | string (text : Option String)
  | array (items : List Json)
  | object (members : List (Option String × Json))
  deriving Repr, Inhabited

namespace Json

/-! ## Spaces and words -/

def isSpace (c : Char) : Bool :=
  c == ' ' || c == '\n' || c == '\t' || c == '\r'

def skipSpace (text : List Char) : List Char :=
  text.dropWhile isSpace

/-- What is left of a text after a word at its beginning. -/
def expect? : (word : List Char) → (text : List Char) → Option (List Char)
  | [], text => some text
  | c :: word, d :: text => if c = d then expect? word text else none
  | _ :: _, [] => none

/-! ## Numbers -/

def isDigit (c : Char) : Bool :=
  '0' ≤ c && c ≤ '9'

/-- The number that a list of decimal digits stands for. -/
def valueOfDigits (digits : List Char) : Nat :=
  digits.foldl (fun value c => 10 * value + (c.toNat - 48)) 0

/-- The rest after an optional fraction, which has at least one digit. -/
def skipFraction? : (text : List Char) → Option (List Char)
  | '.' :: text => if (text.takeWhile isDigit).isEmpty then none else some (text.dropWhile isDigit)
  | text => some text

/-- The rest after an optional exponent, which has at least one digit. -/
def skipExponent? (text : List Char) : Option (List Char) :=
  match text with
  | c :: rest =>
      if c = 'e' ∨ c = 'E' then
        let unsigned :=
          match rest with
          | '+' :: digits => digits
          | '-' :: digits => digits
          | digits => digits
        if (unsigned.takeWhile isDigit).isEmpty then none
        else some (unsigned.dropWhile isDigit)
      else
        some text
  | [] => some text

/-- Whether a number goes on with a fraction or an exponent. -/
def continuesNumber (text : List Char) : Bool :=
  text.head?.any fun c => c == '.' || c == 'e' || c == 'E'

/-- A number without its sign.  A leading zero stands alone. -/
def unsignedNumber? (text : List Char) : Option (Json × List Char) := do
  let digits := text.takeWhile isDigit
  if digits.isEmpty || (digits.head? == some '0' && 1 < digits.length) then
    none
  else
    let afterDigits := text.dropWhile isDigit
    let afterFraction ← skipFraction? afterDigits
    let rest ← skipExponent? afterFraction
    if continuesNumber afterDigits then
      return (otherNumber, rest)
    else
      return (natural (valueOfDigits digits), rest)

def number? : List Char → Option (Json × List Char)
  | '-' :: text => (unsignedNumber? text).map fun read => (otherNumber, read.2)
  | text => unsignedNumber? text

/-! ## Strings -/

/-- A part of a string: a character, or a sixteen-bit unit given by its number. -/
inductive StringPart where
  | char (c : Char)
  | unit (code : Nat)
  deriving DecidableEq, Repr

/-- The character that a one-letter escape stands for. -/
def escaped? : Char → Option Char
  | '"' => some '"'
  | '\\' => some '\\'
  | '/' => some '/'
  | 'b' => some '\x08'
  | 'f' => some '\x0c'
  | 'n' => some '\n'
  | 'r' => some '\r'
  | 't' => some '\t'
  | _ => none

/-- The number that a list of hexadecimal digits stands for. -/
def valueOfHex? (digits : List Char) : Option Nat :=
  digits.foldlM (fun value c => (hexValue? c).map (16 * value + ·)) 0

/-- The parts of a string after its opening quote, and what follows the closing one. -/
def stringParts? : (text : List Char) → Option (List StringPart × List Char)
  | [] => none
  | '"' :: rest => some ([], rest)
  | '\\' :: 'u' :: a :: b :: c :: d :: rest => do
      let code ← valueOfHex? [a, b, c, d]
      let (parts, rest) ← stringParts? rest
      return (.unit code :: parts, rest)
  | '\\' :: letter :: rest => do
      let c ← escaped? letter
      let (parts, rest) ← stringParts? rest
      return (.char c :: parts, rest)
  | c :: rest =>
      if c.toNat < 32 ∨ c = '\\' then
        none
      else do
        let (parts, rest) ← stringParts? rest
        return (.char c :: parts, rest)

def isHighSurrogate (code : Nat) : Bool :=
  0xD800 ≤ code && code < 0xDC00

def isLowSurrogate (code : Nat) : Bool :=
  0xDC00 ≤ code && code < 0xE000

/-- The characters of a string's parts, in which surrogates have to come in pairs. -/
def charsOfParts? : List StringPart → Option (List Char)
  | [] => some []
  | .char c :: parts => (charsOfParts? parts).map (c :: ·)
  | .unit high :: .unit low :: parts =>
      if isHighSurrogate high then
        if isLowSurrogate low then
          let c := Char.ofNat (0x10000 + 1024 * (high - 0xD800) + (low - 0xDC00))
          (charsOfParts? parts).map (c :: ·)
        else
          none
      else if isLowSurrogate high then
        none
      else
        (charsOfParts? (.unit low :: parts)).map (Char.ofNat high :: ·)
  | .unit code :: parts =>
      if isHighSurrogate code || isLowSurrogate code then none
      else (charsOfParts? parts).map (Char.ofNat code :: ·)

/-- A string after its opening quote. -/
def string? (text : List Char) : Option (Option String × List Char) := do
  let (parts, rest) ← stringParts? text
  return ((charsOfParts? parts).map String.ofList, rest)

/-! ## Values

The readers below take as many steps as they are given; a text of `n` characters never
needs more than `n + 1` of them. -/

mutual

/-- A value and what follows it. -/
def value? : (steps : Nat) → (text : List Char) → Option (Json × List Char)
  | 0, _ => none
  | steps + 1, text =>
      match skipSpace text with
      | [] => none
      | '"' :: rest => (string? rest).map fun read => (string read.1, read.2)
      | '[' :: rest =>
          match skipSpace rest with
          | ']' :: rest => some (array [], rest)
          | rest => (items? steps rest).map fun read => (array read.1, read.2)
      | '\x7b' :: rest =>
          match skipSpace rest with
          | '\x7d' :: rest => some (object [], rest)
          | rest => (members? steps rest).map fun read => (object read.1, read.2)
      | 'n' :: rest => (expect? "ull".toList rest).map (null, ·)
      | 't' :: rest => (expect? "rue".toList rest).map (bool true, ·)
      | 'f' :: rest => (expect? "alse".toList rest).map (bool false, ·)
      | text => number? text

/-- The items of a list up to its closing bracket. -/
def items? : (steps : Nat) → (text : List Char) → Option (List Json × List Char)
  | 0, _ => none
  | steps + 1, text => do
      let (item, rest) ← value? steps text
      match skipSpace rest with
      | ']' :: rest => return ([item], rest)
      | ',' :: rest => do
          let (items, rest) ← items? steps rest
          return (item :: items, rest)
      | _ => none

/-- The members of an object up to its closing brace. -/
def members? : (steps : Nat) → (text : List Char) →
    Option (List (Option String × Json) × List Char)
  | 0, _ => none
  | steps + 1, text =>
      match skipSpace text with
      | '"' :: rest => do
          let (name, rest) ← string? rest
          match skipSpace rest with
          | ':' :: rest => do
              let (value, rest) ← value? steps rest
              match skipSpace rest with
              | '\x7d' :: rest => return ([(name, value)], rest)
              | ',' :: rest => do
                  let (members, rest) ← members? steps rest
                  return ((name, value) :: members, rest)
              | _ => none
          | _ => none
      | _ => none

end

/-- A text that holds one value and nothing but spaces around it. -/
def parse? (text : String) : Option Json := do
  let chars := text.toList
  let (value, rest) ← value? (chars.length + 1) chars
  if (skipSpace rest).isEmpty then some value else none

/-! ## Reading records -/

/-- The members of an object, with their names as values. -/
def namedMembers (members : List (Option String × Json)) : List (Json × Json) :=
  members.map fun member => (string member.1, member.2)

/-- A record may also be written as an array of its fields in order. -/
instance : Document Json where
  natural?
    | natural value => some value
    | _ => none
  boolean?
    | bool value => some value
    | _ => none
  text?
    | string text => text
    | _ => none
  items?
    | array items => some items
    | _ => none
  fields?
    | names, array items =>
        if items.length ≤ names.length then
          some ((names.map fun name => string (some name)).zip items)
        else
          none
    | _, object members => some (namedMembers members)
    | _, _ => none
  entries?
    | object members => some (namedMembers members)
    | _ => none
  optional?
    | null => some none
    | value => some (some value)
  variant?
    | string text => text.map (·, none)
    | object [(name, payload)] => name.map (·, some payload)
    | _ => none
  isUnit
    | null => true
    | _ => false

end Json

end ServoLink
