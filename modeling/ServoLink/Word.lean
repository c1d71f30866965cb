namespace ServoLink

/-! ## Little-endian words -/

/-- The two bytes of a word, low byte first. -/
def wordBytes (word : UInt16) : List UInt8 :=
  [word.toUInt8, (word >>> 8).toUInt8]

/-- The word whose low and high bytes are given. -/
def wordOfBytes (low high : UInt8) : UInt16 :=
  low.toUInt16 ||| (high.toUInt16 <<< 8)

/-- The word at `offset` of a buffer; bytes past its end count as zero. -/
def wordAt (buffer : List UInt8) (offset : Nat) : UInt16 :=
  wordOfBytes (buffer.getD offset 0) (buffer.getD (offset + 1) 0)

/-- Consecutive words of a buffer; an odd last byte is left out. -/
def wordsOf : List UInt8 → List UInt16
  | low :: high :: rest => wordOfBytes low high :: wordsOf rest
  | _ => []

end ServoLink
