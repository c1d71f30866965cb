import ServoLink.Text.Hex
import ServoLink.Yaml.Cursor

namespace ServoLink.Yaml

/-! ## Tags -/

/-- What a node says about its type.  It is made of bytes, because the escapes in it may
stand for bytes that are no text. -/
structure Tag where
  bytes : List UInt8
  deriving DecidableEq, Repr, Inhabited

/-- The bytes of a text of ASCII characters. -/
def asciiBytes (text : List Char) : List UInt8 :=
  text.map fun c => UInt8.ofNat c.toNat

/-- What the tags of the standard types begin with. -/
def standardStart : List UInt8 :=
  asciiBytes "tag:yaml.org,2002:".toList

namespace Tag

/-- The tag of one of the standard types. -/
def standard (type : String) : Tag :=
  ⟨standardStart ++ asciiBytes type.toList⟩

/-- The name in a tag that belongs to the application: the text after its exclamation
mark. -/
def localName? (tag : Tag) : Option String :=
  match tag.bytes with
  | 0x21 :: name => String.fromUTF8? ⟨name.toArray⟩
  | _ => none

end Tag

/-- The bytes in front of the first zero byte, where a tag or a part of one ends. -/
def beforeZero (bytes : List UInt8) : List UInt8 :=
  bytes.takeWhile (· != 0)

/-! ## Reading tags -/

/-- The byte that a percent sign and two hexadecimal digits stand for. -/
def readEscapedByte? : List Char → Option (UInt8 × List Char)
  | '%' :: high :: low :: rest => do
      let code := 16 * (← hexValue? high) + (← hexValue? low)
      return (UInt8.ofNat code, rest)
  | _ => none

/-- The number of bytes that belong together, from the first of them. -/
def encodedWidth? (first : UInt8) : Option Nat :=
  if first &&& 0x80 = 0x00 then some 1
  else if first &&& 0xE0 = 0xC0 then some 2
  else if first &&& 0xF0 = 0xE0 then some 3
  else if first &&& 0xF8 = 0xF0 then some 4
  else none

/-- The given number of escaped bytes that each go on with a character. -/
def readContinuation? : (count : Nat) → List Char → Option (List UInt8 × List Char)
  | 0, text => some ([], text)
  | count + 1, text => do
      let (byte, rest) ← readEscapedByte? text
      if byte &&& 0xC0 = 0x80 then
        let (bytes, rest) ← readContinuation? count rest
        return (byte :: bytes, rest)
      else
        none

/-- The escapes of one character.  Only their number and kind is checked, not which
character they stand for, or whether for any. -/
def readEscapes? (text : List Char) : Option (List UInt8 × List Char) := do
  let (first, rest) ← readEscapedByte? text
  let width ← encodedWidth? first
  let (bytes, rest) ← readContinuation? (width - 1) rest
  return (first :: bytes, rest)

/-- The bytes of a tag with its escapes resolved; inside angle brackets some flow
indicators belong to it too. -/
def readTagText? (bracketed : Bool) : (steps : Nat) → List Char →
    Option (List UInt8 × List Char)
  | 0, _ => none
  | _ + 1, [] => some ([], [])
  | steps + 1, c :: rest =>
      if c = '%' then do
        let (bytes, rest) ← readEscapes? (c :: rest)
        let (later, rest) ← readTagText? bracketed steps rest
        return (bytes ++ later, rest)
      else if isTagChar c || (bracketed && (c == ',' || c == '[' || c == ']')) then do
        let (later, rest) ← readTagText? bracketed steps rest
        return (asciiBytes [c] ++ later, rest)
      else
        some ([], c :: rest)

/-- Past the part of a line that has been read up to `rest`. -/
def Cursor.upTo (cursor : Cursor) (rest : List Char) : Cursor :=
  cursor.skip (cursor.rest.length - rest.length)

/-- A tag's handle and suffix.  A tag without a handle of its own has the handle `!`, and
one with nothing after the exclamation mark is a suffix only. -/
def readTag? (inFlow : Bool) (cursor : Cursor) :
    Option (String × List UInt8 × Cursor) := do
  let steps := cursor.limit + 1
  let (handle, suffix, after) ←
    if cursor.peekAt 1 == some '<' then do
      let (suffix, rest) ← readTagText? true steps (cursor.rest.drop 2)
      match suffix, rest with
      | _ :: _, '>' :: rest => some ("", beforeZero suffix, cursor.upTo rest)
      | _, _ => none
    else
      let word := (cursor.rest.drop 1).takeWhile isWordChar
      let rest := cursor.rest.drop (1 + word.length)
      if rest.head? == some '!' then do
        let (suffix, rest) ← readTagText? false steps (rest.drop 1)
        if suffix.isEmpty then none
        else
          some (String.ofList ('!' :: word ++ ['!']), beforeZero suffix, cursor.upTo rest)
      else do
        let (suffix, rest) ← readTagText? false steps rest
        match beforeZero (asciiBytes word ++ suffix) with
        | [] => some ("", asciiBytes ['!'], cursor.upTo rest)
        | suffix => some ("!", suffix, cursor.upTo rest)
  if (inFlow && after.startsWith ',') || endsWord after.rest then
    return (handle, suffix, after)
  else
    none

end ServoLink.Yaml
