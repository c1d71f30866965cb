import ServoLink.Snapshot.Datum
import ServoLink.Yaml.Scalar
import ServoLink.Yaml.Value

namespace ServoLink.Yaml

/-! ## What a text allows -/

def beginsWithBlankSpace (text : List Char) : Bool :=
  text.head?.any fun c => c == ' ' || isBreak c

def endsWithBlankSpace (text : List Char) : Bool :=
  text.getLast?.any fun c => c == ' ' || isBreak c

/-- Whether two neighbours with the given properties occur in a text. -/
def hasNeighbours (first second : Char → Bool) : List Char → Bool
  | c :: d :: rest => (first c && second d) || hasNeighbours first second (d :: rest)
  | _ => false

/-- Whether a text contains characters that only double quotes can hold. -/
def needsEscapes (text : List Char) : Bool :=
  text.any (fun c => !isPrintable c) || hasNeighbours (· == ' ') isBreak text

def hasBreak (text : List Char) : Bool :=
  text.any isBreak

/-- Whether a text has an indicator where it would be taken for one outside flow
collections: a colon before blank space, or a hash after it. -/
def hasInnerIndicator : List Char → Bool
  | [] => false
  | c :: rest =>
      (c == ':' && endsWord rest) || (isBlankOrBreak c && rest.head? == some '#') ||
        hasInnerIndicator rest

/-- Whether a text begins as no plain scalar may. -/
def beginsWithIndicator (text : List Char) : Bool :=
  text.take 3 == ['-', '-', '-'] || text.take 3 == ['.', '.', '.'] ||
    match text with
    | [] => false
    | c :: rest =>
        "#,[]\x7b\x7d&*!|>'\"%@\x60".toList.contains c ||
          ((c == '?' || c == '-') && endsWord rest)

/-- Whether a text may stand without quotes outside flow collections. -/
def plainAllowed (text : List Char) : Bool :=
  !(beginsWithBlankSpace text || endsWithBlankSpace text || hasBreak text ||
    needsEscapes text || beginsWithIndicator text || hasInnerIndicator text)

/-- Whether a text may stand in single quotes. -/
def singleQuotesAllowed (text : List Char) : Bool :=
  !(needsEscapes text || hasNeighbours isBreak (· == ' ') text)

/-- Whether a text may stand as a literal block. -/
def literalAllowed (text : List Char) : Bool :=
  !(text.isEmpty || needsEscapes text || text.getLast? == some ' ')

/-- The style a text is written in.  Texts of several lines are literal blocks where
they may be, and texts that would not be read back as strings are quoted. -/
def styleOf (text : String) (asSimpleKey : Bool) : ScalarStyle :=
  let chars := text.toList
  if asSimpleKey && hasBreak chars then
    .doubleQuoted
  else if chars.contains '\n' then
    if literalAllowed chars && !asSimpleKey then .literal else .doubleQuoted
  else if !isAmbiguous text && plainAllowed chars then
    .plain
  else if singleQuotesAllowed chars then
    .singleQuoted
  else
    .doubleQuoted

/-! ## Writing scalars -/

def indentation (column : Nat) : List Char :=
  List.replicate column ' '

/-- Single quotes are doubled, and a line that follows a break is indented. -/
def singleQuotedBody (column : Nat) : (afterBreak : Bool) → List Char → List Char
  | afterBreak, [] => if afterBreak then indentation column else []
  | afterBreak, c :: rest =>
      if isBreak c then
        c :: singleQuotedBody column true rest
      else
        (if afterBreak then indentation column else []) ++
          (if c = '\'' then ['\'', '\''] else [c]) ++ singleQuotedBody column false rest

/-- The letter that escapes a character, where it has one. -/
def escapeLetter? (c : Char) : Option Char :=
  if c = '\x00' then some '0'
  else if c = '\x07' then some 'a'
  else if c = '\x08' then some 'b'
  else if c = '\t' then some 't'
  else if c = '\n' then some 'n'
  else if c = '\x0b' then some 'v'
  else if c = '\x0c' then some 'f'
  else if c = '\r' then some 'r'
  else if c = '\x1b' then some 'e'
  else if c = '"' then some '"'
  else if c = '\\' then some '\\'
  else if c = '\u0085' then some 'N'
  else if c = '\u2028' then some 'L'
  else if c = '\u2029' then some 'P'
  else none

/-- A character inside double quotes. -/
def doubleQuotedChar (c : Char) : List Char :=
  match escapeLetter? c with
  | some letter => ['\\', letter]
  | none =>
      if isPrintable c then [c]
      else if c.toNat ≤ 0xFF then ['\\', 'x'] ++ fixedHex upperHexDigit 2 c.toNat
      else if c.toNat ≤ 0xFFFF then ['\\', 'u'] ++ fixedHex upperHexDigit 4 c.toNat
      else ['\\', 'U'] ++ fixedHex upperHexDigit 8 c.toNat

/-- The indicators of a literal block: the width of its indentation where its text begins
with blank space, and what becomes of the breaks at its end. -/
def literalHeader (text : List Char) : List Char :=
  let width := if beginsWithBlankSpace text then ['2'] else []
  let reversed := text.reverse
  let chomping :=
    if !reversed.head?.any isBreak then ['-']
    else if reversed.tail.isEmpty || reversed.tail.head?.any isBreak then ['+']
    else []
  '|' :: width ++ chomping ++ ['\n']

/-- The lines of a literal block; lines without content are not indented. -/
def literalBody (column : Nat) : (afterBreak : Bool) → List Char → List Char
  | _, [] => []
  | afterBreak, c :: rest =>
      if isBreak c then
        c :: literalBody column true rest
      else
        (if afterBreak then indentation column else []) ++ c :: literalBody column false rest

/-- A text in the style it needs, with further lines indented by `column`. -/
def scalarText (column : Nat) (asSimpleKey : Bool) (text : String) : List Char :=
  let chars := text.toList
  match styleOf text asSimpleKey with
  | .singleQuoted => '\'' :: singleQuotedBody column false chars ++ ['\'']
  | .doubleQuoted => '"' :: chars.flatMap doubleQuotedChar ++ ['"']
  | .literal => literalHeader chars ++ literalBody column true chars
  | .plain | .folded => chars

/-- Whether a key can stand on one line in front of its colon. -/
def isSimpleKey (name : String) : Bool :=
  name.utf8ByteSize ≤ 128 && !hasBreak name.toList

/-! ## Writing documents -/

/-- A text that ends its line, unless it has done so already. -/
def endLine (text : List Char) : List Char :=
  if text.getLast?.any isBreak then text else text ++ ['\n']

mutual

/-- What follows the colon of an entry or the dash of an item at a column, up to the end
of its last line.  `inMapping` says that it is the value of a mapping's entry. -/
def printValue (column : Nat) (inMapping : Bool) : Datum → List Char
  | .null => " null\n".toList
  | .bool value => (if value then " true\n" else " false\n").toList
  | .number value => ' ' :: (toString value).toList ++ ['\n']
  | .text value => endLine (' ' :: scalarText (column + 2) false value)
  | .list [] => " []\n".toList
  | .list (item :: items) =>
      if inMapping then
        '\n' :: printItems column (item :: items)
      else
        " -".toList ++ printValue (column + 2) false item ++ printItems (column + 2) items
  | .map [] => [' ', '\x7b', '\x7d', '\n']
  | .map ((name, value) :: entries) =>
      if inMapping then
        '\n' :: printEntries (column + 2) ((name, value) :: entries)
      else
        ' ' :: printKey (column + 2) name ++ printValue (column + 2) true value ++
          printEntries (column + 2) entries
  | .variant name payload => " !".toList ++ name.toList ++ printValue column inMapping payload

/-- The items of a sequence whose dashes stand at a column. -/
def printItems (column : Nat) : List Datum → List Char
  | [] => []
  | item :: items =>
      indentation column ++ '-' :: printValue column false item ++ printItems column items

/-- The entries of a mapping whose keys stand at a column. -/
def printEntries (column : Nat) : List (String × Datum) → List Char
  | [] => []
  | (name, value) :: entries =>
      indentation column ++ printKey column name ++ printValue column true value ++
        printEntries column entries

/-- A key with its colon; a key that is no simple one is marked and stands on lines of
its own. -/
def printKey (column : Nat) (name : String) : List Char :=
  if isSimpleKey name then
    scalarText (column + 2) true name ++ [':']
  else
    endLine ("? ".toList ++ scalarText (column + 2) false name) ++ indentation column ++ [':']

end

/-- The document of a record. -/
def render : Datum → String
  | .map ((name, value) :: entries) =>
      String.ofList (printEntries 0 ((name, value) :: entries))
  | value => String.ofList ((printValue 0 true value).drop 1)

end ServoLink.Yaml
