import ServoLink.Yaml.Character

namespace ServoLink.Yaml

/-! ## Positions in a text -/

/-- The number of bytes of a text. -/
def byteCount (text : List Char) : Nat :=
  text.foldr (fun c count => c.utf8Size + count) 0

/-- What is left of a text, and where it begins.  A column counts characters. -/
structure Cursor where
  rest : List Char
  /-- The length of the whole text, which bounds the steps of every loop over it. -/
  limit : Nat
  line : Nat := 0
  column : Nat := 0
  /-- The number of bytes in front. -/
  index : Nat := 0
  deriving Repr, Inhabited

namespace Cursor

def peek (cursor : Cursor) : Option Char :=
  cursor.rest.head?

def peekAt (cursor : Cursor) (offset : Nat) : Option Char :=
  cursor.rest[offset]?

/-- Past `count` characters of the same line. -/
def skip (cursor : Cursor) (count : Nat) : Cursor :=
  { cursor with
    rest := cursor.rest.drop count
    column := cursor.column + count
    index := cursor.index + byteCount (cursor.rest.take count) }

/-- Past a line break; a carriage return and the line feed after it are one break. -/
def skipBreak (cursor : Cursor) : Cursor :=
  let width :=
    match cursor.rest with
    | '\r' :: '\n' :: _ => 2
    | _ => 1
  { cursor with
    rest := cursor.rest.drop width
    line := cursor.line + 1
    column := 0
    index := cursor.index + byteCount (cursor.rest.take width) }

/-- What a line break counts as: a line feed, or one of the two separators. -/
def breakChar (c : Char) : Char :=
  if c = '\u2028' ∨ c = '\u2029' then c else '\n'

/-- Past the characters of a class, none of which is a line break. -/
def skipWhile (cursor : Cursor) (select : Char → Bool) : Cursor :=
  cursor.skip (cursor.rest.takeWhile select).length

/-- Whether the rest of the text begins with a character. -/
def startsWith (cursor : Cursor) (c : Char) : Bool :=
  cursor.peek == some c

/-- Whether a line begins here with three of a character and the end of a word. -/
def atMarker (cursor : Cursor) (c : Char) : Bool :=
  cursor.column == 0 && cursor.rest.take 3 == [c, c, c] && endsWord (cursor.rest.drop 3)

/-- Whether a document begins or ends here. -/
def atDocumentMarker (cursor : Cursor) : Bool :=
  cursor.atMarker '-' || cursor.atMarker '.'

/-- Past a comment, if one begins here. -/
def skipComment (cursor : Cursor) : Cursor :=
  if cursor.startsWith '#' then cursor.skipWhile fun c => !isBreak c else cursor

end Cursor

/-! ## Gaps between words -/

/-- The blanks between two words of a scalar, and the line breaks in them. -/
structure Gap where
  blanks : List Char := []
  breaks : List Char := []
  deriving Repr, Inhabited

/-- What a gap with line breaks stands for: the first line feed is a space unless more
breaks follow, which then stand for themselves. -/
def foldBreaks : List Char → List Char
  | [] => []
  | '\n' :: [] => [' ']
  | '\n' :: breaks => breaks
  | breaks => breaks

/-- What a gap stands for. -/
def Gap.text (gap : Gap) : List Char :=
  if gap.breaks.isEmpty then gap.blanks else foldBreaks gap.breaks

/-- Reads blanks and breaks.  Blanks count only before the first break, and where
`indent` is given a tab in front of that column is refused after a break. -/
def readGap? (indent : Option Nat) (afterBreak : Bool) :
    (steps : Nat) → Cursor → Gap → Option (Gap × Cursor)
  | 0, _, _ => none
  | steps + 1, cursor, gap =>
      match cursor.peek with
      | none => some (gap, cursor)
      | some c =>
          let broken := afterBreak || !gap.breaks.isEmpty
          if isBlank c then
            if broken && c == '\t' && indent.any (cursor.column < ·) then
              none
            else
              readGap? indent afterBreak steps (cursor.skip 1)
                (if broken then gap else { gap with blanks := gap.blanks ++ [c] })
          else if isBreak c then
            readGap? indent afterBreak steps cursor.skipBreak
              { gap with breaks := gap.breaks ++ [Cursor.breakChar c] }
          else
            some (gap, cursor)

end ServoLink.Yaml
