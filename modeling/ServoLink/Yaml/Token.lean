import ServoLink.Yaml.Scalar
import ServoLink.Yaml.Tag

namespace ServoLink.Yaml

/-! ## Tokens -/

/-- The words of a document.  Block collections show in their indentation only, so the
places where they start and end are tokens as well, and so is the key of a mapping
entry, which is known by the colon after it. -/
inductive Token where
  | version (major minor : Nat)
  | tagHandle (handle : String) (start : List UInt8)
  | documentStart
  | documentEnd
  | blockSequenceStart
  | blockMappingStart
  | blockEnd
  | flowSequenceStart
  | flowSequenceEnd
  | flowMappingStart
  | flowMappingEnd
  | blockEntry
  | flowEntry
  | key
  | value
  | alias (name : String)
  | anchor (name : String)
  | tag (handle : String) (suffix : List UInt8)
  | scalar (style : ScalarStyle) (text : String)
  deriving DecidableEq, Repr

/-! ## Anchors -/

/-- The name of an anchor or alias after its sign. -/
def readAnchor? (cursor : Cursor) : Option (String × Cursor) :=
  let name := cursor.rest.takeWhile isWordChar
  let after := cursor.skip name.length
  if name.isEmpty then
    none
  else if endsWord after.rest || after.peek.any fun c => "?:,]\x7d%@\x60".toList.contains c then
    some (String.ofList name, after)
  else
    none

/-! ## Directives -/

def readNumber? (cursor : Cursor) : Option (Nat × Cursor) :=
  let digits := cursor.rest.takeWhile Char.isDigit
  if digits.isEmpty || 9 < digits.length then
    none
  else
    some (digits.foldl (fun value c => 10 * value + (c.toNat - 48)) 0, cursor.skip digits.length)

/-- A directive after its percent sign, with the line break that ends it. -/
def readDirective? (cursor : Cursor) : Option (Token × Cursor) := do
  let name := cursor.rest.takeWhile isWordChar
  let cursor := cursor.skip name.length
  if !endsWord cursor.rest then
    none
  else
    let cursor := cursor.skipWhile isBlank
    let (token, cursor) ←
      if name = "YAML".toList then do
        let (major, cursor) ← readNumber? cursor
        if !cursor.startsWith '.' then
          none
        else
          let (minor, cursor) ← readNumber? (cursor.skip 1)
          some (Token.version major minor, cursor)
      else if name = "TAG".toList && cursor.startsWith '!' then do
        let word := (cursor.rest.drop 1).takeWhile isWordChar
        let cursor := cursor.skip (1 + word.length)
        let closed := cursor.startsWith '!'
        let cursor := if closed then cursor.skip 1 else cursor
        if (!closed && !word.isEmpty) || !cursor.peek.any isBlank then
          none
        else
          let cursor := cursor.skipWhile isBlank
          let (start, rest) ← readTagText? true (cursor.limit + 1) cursor.rest
          if start.isEmpty || !endsWord rest then
            none
          else
            let handle := '!' :: word ++ if closed then ['!'] else []
            some (Token.tagHandle (String.ofList handle) (beforeZero start), cursor.upTo rest)
      else
        none
    let cursor := (cursor.skipWhile isBlank).skipComment
    match cursor.peek with
    | none => return (token, cursor)
    | some c => if isBreak c then return (token, cursor.skipBreak) else none

/-! ## Reading tokens -/

/-- A place where the key of a mapping entry may have begun. -/
structure KeyCandidate where
  /-- The number of tokens in front of it. -/
  slot : Nat
  line : Nat
  column : Nat
  index : Nat
  /-- At the indentation of a block mapping nothing but a key can stand. -/
  required : Bool
  deriving Repr

/-- How far a text has been read. -/
structure Scanner where
  cursor : Cursor
  /-- The tokens read so far, the last one first. -/
  tokens : List Token := []
  /-- The number of these tokens. -/
  count : Nat := 0
  /-- The column of the entries of the innermost block collection. -/
  indent : Option Nat := none
  /-- The columns of the collections around it. -/
  outer : List (Option Nat) := []
  /-- Whether the key of an entry may begin here. -/
  keyAllowed : Bool := true
  /-- The key that may have begun in the innermost collection. -/
  candidate : Option KeyCandidate := none
  /-- The same for the collections around each open flow collection. -/
  suspended : List (Option KeyCandidate) := []
  deriving Repr

namespace Scanner

def inFlow (scanner : Scanner) : Bool :=
  !scanner.suspended.isEmpty

def emit (scanner : Scanner) (token : Token) : Scanner :=
  { scanner with tokens := token :: scanner.tokens, count := scanner.count + 1 }

/-- Puts a token behind the first `slot` ones. -/
def emitAt (scanner : Scanner) (slot : Nat) (token : Token) : Scanner :=
  let later := scanner.count - slot
  { scanner with
    tokens := scanner.tokens.take later ++ token :: scanner.tokens.drop later
    count := scanner.count + 1 }

/-! ### Indentation -/

/-- Opens a block collection whose entries begin at `column`, unless that is not further
in than the open one. -/
def openBlock (scanner : Scanner) (column slot : Nat) (token : Token) : Scanner :=
  if scanner.inFlow || scanner.indent.any (column ≤ ·) then
    scanner
  else
    { scanner.emitAt slot token with
      indent := some column
      outer := scanner.indent :: scanner.outer }

/-- Ends the block collections of the list that lie further in than `column`. -/
def closeBlocksIn (column : Option Nat) : List (Option Nat) → Scanner → Scanner
  | [], scanner => scanner
  | around :: outer, scanner =>
      match scanner.indent with
      | none => scanner
      | some indent =>
          if column.any (indent ≤ ·) then
            scanner
          else
            closeBlocksIn column outer
              { scanner.emit .blockEnd with indent := around, outer := outer }

/-- Ends the block collections that lie further in than `column`, or all of them. -/
def closeBlocks (scanner : Scanner) (column : Option Nat) : Scanner :=
  if scanner.inFlow then scanner else closeBlocksIn column scanner.outer scanner

/-! ### Keys -/

/-- Gives up the key that may have begun, which fails where there had to be one. -/
def dropKey? (scanner : Scanner) : Option Scanner :=
  if scanner.candidate.any (·.required) then none
  else some { scanner with candidate := none }

/-- Notes that a key may begin here. -/
def noteKey? (scanner : Scanner) : Option Scanner :=
  if scanner.keyAllowed then do
    let scanner ← scanner.dropKey?
    let cursor := scanner.cursor
    return { scanner with
      candidate := some {
        slot := scanner.count
        line := cursor.line
        column := cursor.column
        index := cursor.index
        required := !scanner.inFlow && scanner.indent == some cursor.column } }
  else
    some scanner

/-- Whether a key that began at the candidate could still be going on: keys lie on one
line and within 1024 bytes. -/
def KeyCandidate.reaches (candidate : KeyCandidate) (cursor : Cursor) : Bool :=
  candidate.line == cursor.line && cursor.index ≤ candidate.index + 1024

/-- Gives up the keys that would have had to end before here. -/
def dropStaleKeys? (scanner : Scanner) : Option Scanner :=
  let stale (candidate : Option KeyCandidate) : Bool :=
    candidate.any fun key => !KeyCandidate.reaches key scanner.cursor
  let fresh (candidate : Option KeyCandidate) : Option KeyCandidate :=
    if stale candidate then none else candidate
  if (scanner.candidate :: scanner.suspended).any fun candidate =>
      stale candidate && candidate.any (·.required) then
    none
  else
    some { scanner with
      candidate := fresh scanner.candidate
      suspended := scanner.suspended.map fresh }

/-! ### Spaces and comments -/

/-- Past spaces, comments and line breaks to where the next token begins.  Tabs count as
spaces in flow collections and where no key may begin, and a byte order mark at the
beginning of a line counts as one space. -/
def skipToToken : (steps : Nat) → Scanner → Scanner
  | 0, scanner => scanner
  | steps + 1, scanner =>
      let tabs := scanner.inFlow || !scanner.keyAllowed
      let cursor := scanner.cursor
      let marked := cursor.column == 0 && cursor.startsWith '\ufeff'
      let cursor := if marked then cursor.skip 1 else cursor
      let cursor := cursor.skipWhile fun c => c == ' ' || (tabs && c == '\t')
      let cursor := cursor.skipComment
      if cursor.peek.any isBreak then
        skipToToken steps
          { scanner with
            cursor := cursor.skipBreak
            keyAllowed := scanner.keyAllowed || !scanner.inFlow }
      else
        { scanner with cursor }

/-! ### Single tokens -/

/-- Reads an indicator of `width` characters that is a token by itself. -/
def take (scanner : Scanner) (width : Nat) (token : Token) : Scanner :=
  { scanner.emit token with cursor := scanner.cursor.skip width }

def openFlow? (scanner : Scanner) (token : Token) : Option Scanner := do
  let scanner ← scanner.noteKey?
  return { scanner.take 1 token with
    candidate := none
    suspended := scanner.candidate :: scanner.suspended
    keyAllowed := true }

def closeFlow? (scanner : Scanner) (token : Token) : Option Scanner := do
  let scanner ← scanner.dropKey?
  return { scanner.take 1 token with
    candidate := scanner.suspended.head?.getD none
    suspended := scanner.suspended.tail
    keyAllowed := false }

def flowEntry? (scanner : Scanner) : Option Scanner := do
  let scanner ← scanner.dropKey?
  return { scanner.take 1 .flowEntry with keyAllowed := true }

/-- The dash of a block sequence's entry. -/
def blockEntry? (scanner : Scanner) : Option Scanner := do
  if !scanner.inFlow && !scanner.keyAllowed then
    none
  else
    let scanner := scanner.openBlock scanner.cursor.column scanner.count .blockSequenceStart
    let scanner ← scanner.dropKey?
    return { scanner.take 1 .blockEntry with keyAllowed := true }

/-- The question mark of a key that is not known by its colon. -/
def explicitKey? (scanner : Scanner) : Option Scanner := do
  if !scanner.inFlow && !scanner.keyAllowed then
    none
  else
    let scanner := scanner.openBlock scanner.cursor.column scanner.count .blockMappingStart
    let scanner ← scanner.dropKey?
    return { scanner.take 1 .key with keyAllowed := !scanner.inFlow }

/-- The colon in front of a value. -/
def value? (scanner : Scanner) : Option Scanner :=
  match scanner.candidate with
  | some key =>
      let scanner := scanner.emitAt key.slot .key
      let scanner := scanner.openBlock key.column key.slot .blockMappingStart
      some { scanner.take 1 .value with candidate := none, keyAllowed := false }
  | none =>
      if !scanner.inFlow && !scanner.keyAllowed then
        none
      else
        let scanner :=
          scanner.openBlock scanner.cursor.column scanner.count .blockMappingStart
        some { scanner.take 1 .value with keyAllowed := !scanner.inFlow }

/-- A token that may be the key of an entry, or begin one, and after which none may
begin. -/
def keyToken? (scanner : Scanner) (read : Cursor → Option (Token × Cursor)) :
    Option Scanner := do
  let scanner ← scanner.noteKey?
  let (token, cursor) ← read scanner.cursor
  return { scanner.emit token with cursor, keyAllowed := false }

def plainScalar? (scanner : Scanner) : Option Scanner := do
  let scanner ← scanner.noteKey?
  let indent := match scanner.indent with
    | some column => column + 1
    | none => 0
  let (text, cursor, broken) ←
    readPlain? scanner.inFlow indent (scanner.cursor.limit + 1) scanner.cursor [] {}
  return { scanner.emit (.scalar .plain (String.ofList text)) with cursor, keyAllowed := broken }

def quotedScalar? (scanner : Scanner) (double : Bool) : Option Scanner :=
  scanner.keyToken? fun cursor => do
    let (text, cursor) ← readQuoted? double (cursor.limit + 1) (cursor.skip 1) []
    let style : ScalarStyle := if double then .doubleQuoted else .singleQuoted
    return (.scalar style (String.ofList text), cursor)

def blockScalar? (scanner : Scanner) (isLiteral : Bool) : Option Scanner := do
  let scanner ← scanner.dropKey?
  let (text, cursor) ← readBlock? isLiteral scanner.indent (scanner.cursor.skip 1)
  let style : ScalarStyle := if isLiteral then .literal else .folded
  return { scanner.emit (.scalar style (String.ofList text)) with cursor, keyAllowed := true }

/-- A marker between documents, or a directive, which end all block collections. -/
def documentToken? (scanner : Scanner) (read : Cursor → Option (Token × Cursor)) :
    Option Scanner := do
  let scanner ← (scanner.closeBlocks none).dropKey?
  let (token, cursor) ← read scanner.cursor
  return { scanner.emit token with cursor, keyAllowed := false }

/-- Whether a plain scalar can begin with `c` before `rest`. -/
def beginsPlain (inFlow : Bool) (c : Char) (rest : List Char) : Bool :=
  !(isIndicator c || isBlankOrBreak c) ||
    (c == '-' && !rest.head?.any isBlank) ||
    (!inFlow && (c == '?' || c == ':') && !endsWord rest)

/-- The token that begins with `c`, where the scanner stands. -/
def token? (scanner : Scanner) (c : Char) (rest : List Char) : Option Scanner :=
  let wordEnds := endsWord rest
  let inFlow := scanner.inFlow
  if scanner.cursor.column = 0 ∧ c = '%' then
    scanner.documentToken? fun cursor => readDirective? (cursor.skip 1)
  else if scanner.cursor.atMarker '-' then
    scanner.documentToken? fun cursor => some (.documentStart, cursor.skip 3)
  else if scanner.cursor.atMarker '.' then
    scanner.documentToken? fun cursor => some (.documentEnd, cursor.skip 3)
  else if c = '[' then scanner.openFlow? .flowSequenceStart
  else if c = '\x7b' then scanner.openFlow? .flowMappingStart
  else if c = ']' then scanner.closeFlow? .flowSequenceEnd
  else if c = '\x7d' then scanner.closeFlow? .flowMappingEnd
  else if c = ',' then scanner.flowEntry?
  else if c = '-' ∧ wordEnds then scanner.blockEntry?
  else if c = '?' ∧ (inFlow ∨ wordEnds) then scanner.explicitKey?
  else if c = ':' ∧ (inFlow ∨ wordEnds) then scanner.value?
  else if c = '*' then
    scanner.keyToken? fun cursor =>
      (readAnchor? (cursor.skip 1)).map fun read => (.alias read.1, read.2)
  else if c = '&' then
    scanner.keyToken? fun cursor =>
      (readAnchor? (cursor.skip 1)).map fun read => (.anchor read.1, read.2)
  else if c = '!' then
    scanner.keyToken? fun cursor =>
      (readTag? inFlow cursor).map fun read => (.tag read.1 read.2.1, read.2.2)
  else if c = '|' ∧ !inFlow then scanner.blockScalar? true
  else if c = '>' ∧ !inFlow then scanner.blockScalar? false
  else if c = '\'' then scanner.quotedScalar? false
  else if c = '"' then scanner.quotedScalar? true
  else if beginsPlain inFlow c rest then scanner.plainScalar?
  else none

/-- Reads all tokens up to the end of the text. -/
def finish? : (steps : Nat) → Scanner → Option (List Token)
  | 0, _ => none
  | steps + 1, scanner => do
      let scanner := scanner.skipToToken (scanner.cursor.limit + 1)
      let scanner ← scanner.dropStaleKeys?
      let scanner := scanner.closeBlocks (some scanner.cursor.column)
      match scanner.cursor.rest with
      | [] =>
          let scanner ← (scanner.closeBlocks none).dropKey?
          return scanner.tokens.reverse
      | c :: rest => do
          let scanner ← scanner.token? c rest
          finish? steps scanner

end Scanner

/-- The tokens of a text. -/
def Token.scan? (text : List Char) : Option (List Token) :=
  if !text.all isAllowed then
    none
  else
    let cursor : Cursor := { rest := text, limit := text.length }
    Scanner.finish? (text.length + 1) { cursor }

end ServoLink.Yaml
