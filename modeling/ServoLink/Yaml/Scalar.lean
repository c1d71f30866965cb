import ServoLink.Text.Hex
import ServoLink.Yaml.Cursor

namespace ServoLink.Yaml

/-! ## Scalar styles -/

inductive ScalarStyle where
  | plain
  | singleQuoted
  | doubleQuoted
  | literal
  | folded
  deriving DecidableEq, Repr

/-! ## Plain scalars -/

/-- A word of a plain scalar.  It ends at a blank, a break or a colon before one, and
inside flow collections at their indicators; there a colon right before one of them is
refused. -/
def readWord? (inFlow : Bool) : List Char → Option (List Char)
  | [] => some []
  | c :: rest =>
      let refused :=
        inFlow && c == ':' && rest.head?.any fun next => isFlowIndicator next || next == '?'
      if isBlankOrBreak c then some []
      else if refused then none
      else if (c == ':' && endsWord rest) || (inFlow && isFlowIndicator c) then some []
      else (readWord? inFlow rest).map (c :: ·)

/-- The text of a plain scalar, where reading stopped, and whether that was after a line
break.  `gap` is the gap in front of the next word, and outside flow collections all
lines but the first have to be indented by at least `indent`. -/
def readPlain? (inFlow : Bool) (indent : Nat) :
    (steps : Nat) → Cursor → (text : List Char) → Gap → Option (List Char × Cursor × Bool)
  | 0, _, _, _ => none
  | steps + 1, cursor, text, gap =>
      let stop := some (text, cursor, !gap.breaks.isEmpty)
      if cursor.atDocumentMarker || cursor.startsWith '#' then
        stop
      else
        match readWord? inFlow cursor.rest with
        | none => none
        | some word =>
            let after := cursor.skip word.length
            let joined := if word.isEmpty then text else text ++ gap.text ++ word
            let pending : Gap := if word.isEmpty then gap else {}
            if after.peek.any isBlankOrBreak then
              match readGap? (some indent) (!pending.breaks.isEmpty)
                  (after.limit + 1) after pending with
              | none => none
              | some (gap, next) =>
                  if !inFlow && next.column < indent then
                    some (joined, next, !gap.breaks.isEmpty)
                  else
                    readPlain? inFlow indent steps next joined gap
            else
              some (joined, after, !pending.breaks.isEmpty)

/-! ## Quoted scalars -/

/-- The character that a one-letter escape stands for. -/
def escaped? : Char → Option Char
  | '0' => some '\x00'
  | 'a' => some '\x07'
  | 'b' => some '\x08'
  | 't' => some '\t'
  | '\t' => some '\t'
  | 'n' => some '\n'
  | 'v' => some '\x0b'
  | 'f' => some '\x0c'
  | 'r' => some '\r'
  | 'e' => some '\x1b'
  | ' ' => some ' '
  | '"' => some '"'
  | '/' => some '/'
  | '\\' => some '\\'
  | 'N' => some '\u0085'
  | '_' => some '\u00a0'
  | 'L' => some '\u2028'
  | 'P' => some '\u2029'
  | _ => none

/-- The number of digits of a numeric escape. -/
def escapeWidth? : Char → Option Nat
  | 'x' => some 2
  | 'u' => some 4
  | 'U' => some 8
  | _ => none

/-- The character with the code that exactly `width` digits give. -/
def charOfHex? (width : Nat) (text : List Char) : Option Char := do
  let digits := text.take width
  if digits.length < width then
    none
  else
    let code ← digits.foldlM (fun code c => (hexValue? c).map (16 * code + ·)) 0
    if code.isValidChar then some (Char.ofNat code) else none

/-- A word of a quoted scalar with the number of characters it takes up, and whether it
ended at an escaped line break. -/
def readQuotedWord? (double : Bool) : (steps : Nat) → List Char →
    Option (List Char × Nat × Bool)
  | 0, _ => none
  | _ + 1, [] => some ([], 0, false)
  | steps + 1, c :: rest =>
      let found (c : Char) (width : Nat) (rest : List Char) :=
        (readQuotedWord? double steps rest).map fun (word, length, escapedBreak) =>
          (c :: word, width + length, escapedBreak)
      if isBlankOrBreak c then
        some ([], 0, false)
      else if !double && c == '\'' then
        if rest.head? == some '\'' then found '\'' 2 (rest.drop 1) else some ([], 0, false)
      else if double && c == '"' then
        some ([], 0, false)
      else if double && c == '\\' then
        match rest with
        | [] => none
        | letter :: rest =>
            if isBreak letter then
              some ([], 1, true)
            else
              match escapeWidth? letter, escaped? letter with
              | some width, _ => do
                  found (← charOfHex? width rest) (2 + width) (rest.drop width)
              | none, some c => found c 2 rest
              | none, none => none
      else
        found c 1 rest

/-- The text of a quoted scalar after its opening quote, and what follows the closing
one. -/
def readQuoted? (double : Bool) : (steps : Nat) → Cursor → (text : List Char) →
    Option (List Char × Cursor)
  | 0, _, _ => none
  | steps + 1, cursor, text => do
      if cursor.atDocumentMarker || cursor.rest.isEmpty then
        none
      else
        let (word, length, escapedBreak) ←
          readQuotedWord? double (cursor.limit + 1) cursor.rest
        let after := cursor.skip length
        let after := if escapedBreak then after.skipBreak else after
        let text := text ++ word
        if after.startsWith (if double then '"' else '\'') then
          return (text, after.skip 1)
        else
          let (gap, next) ← readGap? none escapedBreak (after.limit + 1) after {}
          readQuoted? double steps next
            (text ++ if escapedBreak then gap.breaks else gap.text)

/-! ## Block scalars -/

/-- What becomes of the line breaks at the end of a block scalar. -/
inductive Chomping where
  | strip
  | clip
  | keep
  deriving DecidableEq, Repr

/-- The indicators after the sign of a block scalar, in either order. -/
def readBlockHeader? (cursor : Cursor) : Option (Chomping × Option Nat × Cursor) :=
  let chomping (cursor : Cursor) : Option (Chomping × Cursor) :=
    match cursor.peek with
    | some '+' => some (.keep, cursor.skip 1)
    | some '-' => some (.strip, cursor.skip 1)
    | _ => none
  let increment (cursor : Cursor) : Option (Nat × Cursor) :=
    match cursor.peek with
    | some c => if c.isDigit then some (c.toNat - 48, cursor.skip 1) else none
    | none => none
  let found :=
    match chomping cursor with
    | some (style, cursor) =>
        match increment cursor with
        | some (width, cursor) => (style, some width, cursor)
        | none => (style, none, cursor)
    | none =>
        match increment cursor with
        | some (width, cursor) =>
            match chomping cursor with
            | some (style, cursor) => (style, some width, cursor)
            | none => (.clip, some width, cursor)
        | none => (.clip, none, cursor)
  if found.2.1 = some 0 then none else some found

/-- The empty lines and indentation in front of the next line of a block scalar.  An
indentation of zero has not been determined yet; `deepest` is the greatest column seen
for that. -/
def readBlockBreaks? (indent : Nat) : (steps : Nat) → Cursor → (breaks : List Char) →
    (deepest : Nat) → Option (List Char × Nat × Cursor)
  | 0, _, _, _ => none
  | steps + 1, cursor, breaks, deepest =>
      let spaces := (cursor.rest.takeWhile (· == ' ')).length
      let width := if indent = 0 then spaces else min spaces (indent - cursor.column)
      let cursor := cursor.skip width
      let deepest := max deepest cursor.column
      match cursor.peek with
      | none => some (breaks, deepest, cursor)
      | some c =>
          if (indent = 0 ∨ cursor.column < indent) ∧ c = '\t' then
            none
          else if isBreak c then
            readBlockBreaks? indent steps cursor.skipBreak
              (breaks ++ [Cursor.breakChar c]) deepest
          else
            some (breaks, deepest, cursor)

/-- The lines of a block scalar.  `ending` is the break after the last line read,
`breaks` the empty lines after it, and `blank` whether it began with a blank. -/
def readBlockLines? (isLiteral : Bool) (indent : Nat) : (steps : Nat) → Cursor →
    (text ending breaks : List Char) → (blank : Bool) →
    Option (List Char × List Char × List Char × Cursor)
  | 0, _, _, _, _, _ => none
  | steps + 1, cursor, text, ending, breaks, blank =>
      match cursor.peek with
      | none => some (text, ending, breaks, cursor)
      | some c =>
          if cursor.column ≠ indent then
            some (text, ending, breaks, cursor)
          else
            let startsBlank := isBlank c
            let joined :=
              if !isLiteral && ending.head? == some '\n' && !blank && !startsBlank then
                text ++ if breaks.isEmpty then [' '] else breaks
              else
                text ++ ending ++ breaks
            let content := cursor.rest.takeWhile fun c => !isBreak c
            let after := cursor.skip content.length
            let (ending, after) :=
              match after.peek with
              | some c => ([Cursor.breakChar c], after.skipBreak)
              | none => ([], after)
            match readBlockBreaks? indent (after.limit + 1) after [] 0 with
            | none => none
            | some (breaks, _, next) =>
                readBlockLines? isLiteral indent steps next (joined ++ content) ending
                  breaks startsBlank

/-- The text of a block scalar after its sign, inside a collection whose entries begin
at column `parent`, or in none. -/
def readBlock? (isLiteral : Bool) (parent : Option Nat) (cursor : Cursor) :
    Option (List Char × Cursor) := do
  let (chomping, increment, cursor) ← readBlockHeader? cursor
  let cursor := (cursor.skipWhile isBlank).skipComment
  let cursor ←
    match cursor.peek with
    | none => some cursor
    | some c => if isBreak c then some cursor.skipBreak else none
  let least := match parent with
    | some column => column + 1
    | none => 0
  let given := increment.map fun width => (parent.getD 0) + width
  let (breaks, deepest, cursor) ←
    readBlockBreaks? (given.getD 0) (cursor.limit + 1) cursor [] 0
  let indent := given.getD (max (max deepest least) 1)
  let (text, ending, breaks, cursor) ←
    readBlockLines? isLiteral indent (cursor.limit + 1) cursor [] [] breaks false
  return match chomping with
    | .strip => (text, cursor)
    | .clip => (text ++ ending, cursor)
    | .keep => (text ++ ending ++ breaks, cursor)

end ServoLink.Yaml
