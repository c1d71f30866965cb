import ServoLink.Proofs.Yaml.Cursor
import ServoLink.Yaml.Token

/-!
# Scanning part by part

What the scanner makes of the rest of a text depends on its state alone, so that a text can be
scanned part by part.  Outside flow collections the state is given by the columns of the open block
collections, the tokens so far, and the key that may have begun.
-/

namespace ServoLink.Yaml

namespace Scanner

/-! ## In front of a token -/

/-- The scanner in front of its next token: past spaces, comments and line breaks, without the keys
that would have had to end, and out of the block collections that have ended. -/
def settle? (scanner : Scanner) : Option Scanner :=
  (scanner.skipToToken (scanner.cursor.limit + 1)).dropStaleKeys?.map fun scanner =>
    scanner.closeBlocks (some scanner.cursor.column)

/-- What the rest of a text gives in front of its next token. -/
def proceed? (steps : Nat) (scanner : Scanner) : Option (List Token) :=
  match scanner.cursor.rest with
  | [] => (scanner.closeBlocks none).dropKey?.map fun scanner => scanner.tokens.reverse
  | c :: rest => (scanner.token? c rest).bind (finish? steps)

theorem proceed?_end {scanner : Scanner} (ends : scanner.cursor.rest = []) (steps : Nat) :
    scanner.proceed? steps =
      (scanner.closeBlocks none).dropKey?.map fun scanner => scanner.tokens.reverse := by
  rw [proceed?, ends]

theorem proceed?_token {scanner finish : Scanner} {c : Char} {rest : List Char}
    (begins : scanner.cursor.rest = c :: rest) (token : scanner.token? c rest = some finish)
    (steps : Nat) : scanner.proceed? steps = finish? steps finish := by
  rw [proceed?, begins]
  exact congrArg (·.bind (finish? steps)) token

theorem finish?_succ (steps : Nat) (scanner : Scanner) :
    finish? (steps + 1) scanner = scanner.settle?.bind (proceed? steps) := by
  rw [finish?, settle?]
  cases (scanner.skipToToken (scanner.cursor.limit + 1)).dropStaleKeys? with
  | none => rfl
  | some scanner =>
      simp only [Option.bind_eq_bind, Option.bind_some, Option.map_some]
      rw [proceed?]
      cases (scanner.closeBlocks (some scanner.cursor.column)).cursor.rest with
      | nil => exact (Option.map_eq_bind ..).symm
      | cons c rest => rfl

theorem finish?_of_settle? {scanner other : Scanner} (same : scanner.settle? = other.settle?)
    (steps : Nat) : finish? steps scanner = finish? steps other := by
  cases steps with
  | zero => rfl
  | succ steps => rw [finish?_succ, finish?_succ, same]

/-! ## Parts of a text -/

/-- The scanner comes from a state to another one, with at least one character for each token. -/
structure Scans (start finish : Scanner) : Prop where
  past : Cursor.Past start.cursor finish.cursor
  steps : ∃ count, count + finish.cursor.rest.length ≤ start.cursor.rest.length ∧
    ∀ steps, finish? (steps + count) start = finish? steps finish

theorem Scans.trans {start middle finish : Scanner} (first : Scans start middle)
    (second : Scans middle finish) : Scans start finish := by
  obtain ⟨count, bound, scanned⟩ := first.steps
  obtain ⟨more, further, onward⟩ := second.steps
  refine ⟨first.past.trans second.past, more + count, by omega, fun steps => ?_⟩
  rw [← Nat.add_assoc, scanned, onward]

/-- States that are the same in front of the next token go on alike. -/
theorem Scans.of_settle? {start finish : Scanner}
    (past : Cursor.Past start.cursor finish.cursor) (same : start.settle? = finish.settle?) :
    Scans start finish :=
  ⟨past, 0, by simpa using past.length, finish?_of_settle? same⟩

/-- The scanner takes a token. -/
theorem Scans.of_token? {start ready finish : Scanner} {c : Char} {rest : List Char}
    (settled : start.settle? = some ready) (begins : ready.cursor.rest = c :: rest)
    (token : ready.token? c rest = some finish) (before : Cursor.Past start.cursor ready.cursor)
    (past : Cursor.Past ready.cursor finish.cursor)
    (shorter : finish.cursor.rest.length < ready.cursor.rest.length) : Scans start finish := by
  refine ⟨before.trans past, 1, ?_, fun steps => ?_⟩
  · have length := before.length
    omega
  · rw [finish?_succ, settled, Option.bind_some, proceed?_token begins token]

/-! ## Outside flow collections -/

/-- The scanner outside flow collections, inside block collections whose entries begin at the given
columns. -/
def outside (columns : List Nat) (tokens : List Token) (keyAllowed : Bool)
    (candidate : Option KeyCandidate) (cursor : Cursor) : Scanner where
  cursor
  tokens
  count := tokens.length
  indent := columns.head?
  outer := (columns.map some ++ [none]).tail
  keyAllowed
  candidate

/-- Whether a token or the end of the text comes next. -/
def Begins (tail : List Char) : Prop :=
  Stops (fun c => isBlankOrBreak c || c == '#' || c == '\ufeff') tail

theorem Begins.head {c : Char} {tail : List Char} (begins : Begins (c :: tail)) :
    isBlankOrBreak c = false ∧ c ≠ '#' ∧ c ≠ '\ufeff' := by
  simpa [and_assoc] using Stops.head begins

theorem Begins.blankOrBreak {tail : List Char} (begins : Begins tail) :
    Stops isBlankOrBreak tail :=
  fun c first => (Bool.or_eq_false_iff.mp (Bool.or_eq_false_iff.mp (begins c first)).1).1

variable {columns : List Nat} {tokens : List Token} {allowed : Bool}
  {candidate : Option KeyCandidate} {cursor : Cursor} {scanner : Scanner} {tail : List Char}
  {count steps : Nat}

theorem skipToToken_spaces (begins : scanner.cursor.rest = List.replicate count ' ' ++ tail)
    (stops : Begins tail) :
    scanner.skipToToken (steps + 1) = { scanner with cursor := scanner.cursor.skip count } := by
  have unmarked : scanner.cursor.startsWith '\ufeff' = false := by
    rw [Cursor.startsWith, Cursor.peek, begins]
    cases count with
    | succ count => rfl
    | zero =>
        cases tail with
        | nil => rfl
        | cons c tail => simpa using stops.head.2.2
  have spaces : scanner.cursor.skipWhile
      (fun c => c == ' ' || ((scanner.inFlow || !scanner.keyAllowed) && c == '\t')) =
      scanner.cursor.skip count := by
    rw [Cursor.skipWhile, begins, takeWhile_run, List.length_replicate]
    · intro c member
      simp [List.eq_of_mem_replicate member]
    · intro c first
      have blank := stops.blankOrBreak c first
      simp only [isBlankOrBreak, isBlank, Bool.or_eq_false_iff] at blank
      simp [blank]
  have behind : (scanner.cursor.skip count).rest = tail := by simp [begins]
  have stands : (scanner.cursor.skip count).skipComment = scanner.cursor.skip count := by
    rw [Cursor.skipComment, Cursor.startsWith, Cursor.peek, behind]
    cases tail with
    | nil => rfl
    | cons c tail => simp [stops.head.2.1]
  have inline : (scanner.cursor.skip count).peek.any isBreak = false := by
    rw [Cursor.peek, behind]
    cases tail with
    | nil => rfl
    | cons c tail => exact (Bool.or_eq_false_iff.mp stops.head.1).2
  simp [skipToToken, unmarked, spaces, stands, inline]

theorem skipToToken_feed {rest : List Char} (begins : scanner.cursor.rest = '\n' :: rest)
    (block : scanner.suspended = []) :
    scanner.skipToToken (steps + 1) =
      skipToToken steps { scanner with cursor := scanner.cursor.skipBreak, keyAllowed := true } := by
  have unmarked : scanner.cursor.startsWith '\ufeff' = false := by
    simp [Cursor.startsWith, Cursor.peek_of_rest begins]
  have spaces : scanner.cursor.skipWhile
      (fun c => c == ' ' || ((scanner.inFlow || !scanner.keyAllowed) && c == '\t')) =
      scanner.cursor := by
    simp [Cursor.skipWhile, begins, Cursor.skip_zero]
  have stands : scanner.cursor.skipComment = scanner.cursor := by
    simp [Cursor.skipComment, Cursor.startsWith, Cursor.peek_of_rest begins]
  have broken : scanner.cursor.peek.any isBreak = true := by
    rw [Cursor.peek_of_rest begins]
    rfl
  have outer : (scanner.keyAllowed || !scanner.inFlow) = true := by simp [inFlow, block]
  simp only [skipToToken, unmarked, Bool.and_false, Bool.false_eq_true, if_false, spaces, stands,
    broken, if_true, outer]

theorem skipToToken_outside (begins : cursor.rest = List.replicate count ' ' ++ tail)
    (stops : Begins tail) :
    (outside columns tokens allowed candidate cursor).skipToToken
        ((outside columns tokens allowed candidate cursor).cursor.limit + 1) =
      outside columns tokens allowed candidate (cursor.skip count) :=
  skipToToken_spaces begins stops

theorem skipToToken_here (stops : Begins cursor.rest) :
    (outside columns tokens allowed candidate cursor).skipToToken
        ((outside columns tokens allowed candidate cursor).cursor.limit + 1) =
      outside columns tokens allowed candidate cursor := by
  have skipped := @skipToToken_outside columns tokens allowed candidate cursor cursor.rest 0 rfl stops
  rwa [Cursor.skip_zero] at skipped

/-! ## Keys that do not come about -/

/-- A key that may have begun up to a line, but need not have. -/
def Idle (line : Nat) (candidate : Option KeyCandidate) : Prop :=
  ∀ key ∈ candidate, key.required = false ∧ key.line ≤ line

theorem idle_none (line : Nat) : Idle line none := nofun

theorem Idle.mono {line later : Nat} (idle : Idle line candidate) (after : line ≤ later) :
    Idle later candidate :=
  fun key member => ⟨(idle key member).1, Nat.le_trans (idle key member).2 after⟩

/-- Such a key stays a candidate or is dropped. -/
theorem dropStaleKeys?_idle (idle : Idle cursor.line candidate) :
    ∃ left, (outside columns tokens allowed candidate cursor).dropStaleKeys? =
        some (outside columns tokens allowed left cursor) ∧ Idle cursor.line left := by
  cases candidate with
  | none => exact ⟨none, rfl, idle⟩
  | some key =>
      have optional := (idle key rfl).1
      by_cases goes : KeyCandidate.reaches key cursor = true
      · exact ⟨some key, by simp [dropStaleKeys?, outside, optional, goes], idle⟩
      · exact ⟨none, by simp [dropStaleKeys?, outside, optional, goes], idle_none _⟩

theorem dropKey?_idle {line : Nat} (idle : Idle line candidate) :
    (outside columns tokens allowed candidate cursor).dropKey? =
      some (outside columns tokens allowed none cursor) := by
  cases candidate with
  | none => rfl
  | some key => simp [dropKey?, outside, (idle key rfl).1]

/-- On a later line it is dropped. -/
theorem dropStaleKeys?_later {line : Nat} (idle : Idle line candidate) (later : line < cursor.line) :
    (outside columns tokens allowed candidate cursor).dropStaleKeys? =
      some (outside columns tokens allowed none cursor) := by
  cases candidate with
  | none => rfl
  | some key =>
      obtain ⟨optional, early⟩ := idle key rfl
      have stale : KeyCandidate.reaches key cursor = false := by
        simp [KeyCandidate.reaches, Nat.ne_of_lt (Nat.lt_of_le_of_lt early later)]
      simp [dropStaleKeys?, outside, optional, stale]

/-! ## Collections that end -/

/-- Whether a place lies inside the open block collections, so that none of them ends there. -/
def Encloses (columns : List Nat) (place : Nat) : Prop :=
  ∀ column ∈ columns.head?, column ≤ place

theorem encloses_cons {place column : Nat} (within : column ≤ place) :
    Encloses (column :: columns) place := by
  intro other member
  cases member
  exact within

theorem Encloses.head {place column : Nat} (inside : Encloses (column :: columns) place) :
    column ≤ place :=
  inside column rfl

theorem Encloses.mono {place later : Nat} (inside : Encloses columns place)
    (further : place ≤ later) : Encloses columns later :=
  fun column member => Nat.le_trans (inside column member) further

theorem closeBlocks_inside {place : Nat} (inside : Encloses columns place) :
    (outside columns tokens allowed candidate cursor).closeBlocks (some place) =
      outside columns tokens allowed candidate cursor := by
  cases columns with
  | nil => rfl
  | cons column columns =>
      have within := inside.head
      cases columns
      all_goals simp [closeBlocks, inFlow, outside, closeBlocksIn, within]

theorem closeBlocks_cons {place column : Nat} (out : place < column) :
    (outside (column :: columns) tokens allowed candidate cursor).closeBlocks (some place) =
      (outside columns (.blockEnd :: tokens) allowed candidate cursor).closeBlocks (some place) := by
  have beyond : ¬ column ≤ place := Nat.not_le.mpr out
  cases columns
  all_goals simp [closeBlocks, inFlow, outside, closeBlocksIn, beyond, emit]

/-! ## From token to token -/

/-- On a line the scanner settles behind the spaces. -/
theorem settle?_spaces (idle : Idle cursor.line candidate)
    (begins : cursor.rest = List.replicate count ' ' ++ tail) (stops : Begins tail)
    (inside : Encloses columns (cursor.column + count)) :
    ∃ left, (outside columns tokens allowed candidate cursor).settle? =
        some (outside columns tokens allowed left (cursor.skip count)) ∧
      Idle cursor.line left := by
  obtain ⟨left, dropped, kept⟩ := @dropStaleKeys?_idle columns tokens allowed candidate
    (cursor.skip count) idle
  refine ⟨left, ?_, kept⟩
  rw [settle?, skipToToken_outside begins stops, dropped]
  exact congrArg some (closeBlocks_inside inside)

theorem settle?_blank (begins : cursor.rest = List.replicate count ' ' ++ tail)
    (stops : Begins tail) (inside : Encloses columns (cursor.column + count)) :
    (outside columns tokens allowed none cursor).settle? =
      some (outside columns tokens allowed none (cursor.skip count)) := by
  rw [settle?, skipToToken_outside begins stops]
  exact congrArg some (closeBlocks_inside inside)

/-- On a later line the keys of earlier lines do not come about. -/
theorem settle?_of_skipped {place : Cursor} {line : Nat}
    (skipped : scanner.skipToToken (scanner.cursor.limit + 1) =
      outside columns tokens allowed candidate place)
    (idle : Idle line candidate) (later : line < place.line) :
    scanner.settle? =
      some ((outside columns tokens allowed none place).closeBlocks (some place.column)) := by
  rw [settle?, skipped, dropStaleKeys?_later idle later]
  rfl

theorem settle?_none (stops : Begins cursor.rest) :
    (outside columns tokens allowed none cursor).settle? =
      some ((outside columns tokens allowed none cursor).closeBlocks (some cursor.column)) := by
  rw [settle?, skipToToken_here stops]
  rfl

/-- At the end of a line the scanner comes to the next line, where a key may begin. -/
theorem scans_line (idle : Idle cursor.line candidate)
    (begins : cursor.rest = '\n' :: (List.replicate count ' ' ++ tail)) (stops : Begins tail)
    (fits : cursor.rest.length ≤ cursor.limit) :
    ∃ place, Scans (outside columns tokens allowed candidate cursor)
        (outside columns tokens true none place) ∧
      place.rest = tail ∧ place.column = count := by
  have moved := Cursor.skipBreak_eq begins (by decide)
  have behind : cursor.skipBreak.rest = List.replicate count ' ' ++ tail := by rw [moved]
  have rest : (cursor.skipBreak.skip count).rest = tail := by simp [behind]
  refine ⟨cursor.skipBreak.skip count, .of_settle? ?_ ?_, rest, by simp [moved]⟩
  · exact (Cursor.past_skipBreak begins (by decide)).trans (Cursor.past_skip _ count)
  · obtain ⟨steps, enough⟩ : ∃ steps, cursor.limit = steps + 1 :=
      Nat.exists_eq_add_one_of_ne_zero fun empty => by simp [empty, begins] at fits
    rw [settle?_none (rest.symm ▸ stops)]
    refine settle?_of_skipped (?_ : skipToToken (cursor.limit + 1) _ = _) idle ?_
    · rw [enough, skipToToken_feed begins rfl]
      exact skipToToken_spaces behind stops
    · rw [Cursor.line_skip, moved]
      exact Nat.lt_succ_self cursor.line

/-- Where a line has been read to its end already, the keys on it do not come about. -/
theorem scans_next {line : Nat} (idle : Idle line candidate) (later : line < cursor.line)
    (stops : Begins cursor.rest) :
    Scans (outside columns tokens allowed candidate cursor)
      (outside columns tokens allowed none cursor) := by
  refine .of_settle? (Cursor.Past.refl cursor) ?_
  rw [settle?_none stops, settle?_of_skipped (skipToToken_here stops) idle later]

/-- On a line further out the innermost collection ends. -/
theorem scans_out {column : Nat} (stops : Begins cursor.rest) (out : cursor.column < column) :
    Scans (outside (column :: columns) tokens true none cursor)
      (outside columns (.blockEnd :: tokens) true none cursor) := by
  refine .of_settle? (Cursor.Past.refl cursor) ?_
  rw [settle?_none stops, settle?_none stops, closeBlocks_cons out]

/-! ## Marks -/

/-- The columns of the open block collections after an entry at a column. -/
def openedColumns (column : Nat) (columns : List Nat) : List Nat :=
  if columns.head?.any (column ≤ ·) then columns else column :: columns

/-- The token of a collection that begins with an entry at a column. -/
def openedTokens (column : Nat) (columns : List Nat) (start : Token) : List Token :=
  if columns.head?.any (column ≤ ·) then [] else [start]

section Opening

variable {column : Nat} {columns : List Nat}

/-- After an entry at a column its collection is the innermost one. -/
theorem openedColumns_eq (inside : Encloses columns column) :
    ∃ outer, openedColumns column columns = column :: outer := by
  cases columns with
  | nil => exact ⟨[], rfl⟩
  | cons innermost columns =>
      rcases Nat.lt_or_eq_of_le inside.head with less | rfl
      · exact ⟨innermost :: columns, by simp [openedColumns, Nat.not_le.mpr less]⟩
      · exact ⟨columns, by simp [openedColumns]⟩

theorem openedColumns_cons : openedColumns column (column :: columns) = column :: columns := by
  simp [openedColumns]

theorem openedTokens_cons (start : Token) : openedTokens column (column :: columns) start = [] := by
  simp [openedTokens]

end Opening

theorem openBlock_outside (column : Nat) (later earlier : List Token) (start : Token) :
    (outside columns (later ++ earlier) allowed candidate cursor).openBlock column earlier.length
        start =
      outside (openedColumns column columns)
        (later ++ (openedTokens column columns start ++ earlier)) allowed candidate cursor := by
  cases columns with
  | nil => simp [openBlock, openedColumns, openedTokens, outside, inFlow, emitAt, Nat.add_assoc]
  | cons innermost columns =>
      by_cases inside : column ≤ innermost
      · simp [openBlock, openedColumns, openedTokens, outside, inFlow, inside]
      · simp [openBlock, openedColumns, openedTokens, outside, inFlow, inside, emitAt, Nat.add_assoc]

/-- The marks of block collections, with the token of each and that of its collection. -/
def markOf : Char → Option (Token × Token)
  | '-' => some (.blockEntry, .blockSequenceStart)
  | '?' => some (.key, .blockMappingStart)
  | ':' => some (.value, .blockMappingStart)
  | _ => none

theorem markOf_eq_some {mark : Char} {token start : Token}
    (marked : markOf mark = some (token, start)) :
    (mark = '-' ∧ token = .blockEntry ∧ start = .blockSequenceStart) ∨
      (mark = '?' ∧ token = .key ∧ start = .blockMappingStart) ∨
      (mark = ':' ∧ token = .value ∧ start = .blockMappingStart) := by
  unfold markOf at marked
  split at marked
  all_goals cases marked
  all_goals simp

theorem not_atMarker {c other : Char} {rest : List Char} (begins : cursor.rest = c :: rest)
    (differs : c ≠ other ∨ endsWord rest = true) (visible : isBlankOrBreak other = false) :
    cursor.atMarker other = false := by
  have no : (cursor.rest.take 3 == [other, other, other]) = false := by
    rw [begins]
    cases rest with
    | nil => simp
    | cons d rest =>
        rcases differs with first | second
        · simp [first]
        · have blank : isBlankOrBreak d = true := second
          have next : d ≠ other := by
            rintro rfl
            rw [visible] at blank
            cases blank
          simp [next]
  simp [Cursor.atMarker, no]

/-- A word of one character, or one that begins with neither a dash nor a dot, is no marker of
documents. -/
theorem no_marker {c : Char} {rest : List Char} (begins : cursor.rest = c :: rest)
    (other : c ≠ '-' ∧ c ≠ '.' ∨ endsWord rest = true) :
    cursor.atMarker '-' = false ∧ cursor.atMarker '.' = false :=
  ⟨not_atMarker begins (other.imp_left And.left) rfl,
    not_atMarker begins (other.imp_left And.right) rfl⟩

theorem token?_mark {mark : Char} {token start : Token} {rest : List Char}
    (marked : markOf mark = some (token, start)) (begins : cursor.rest = mark :: rest)
    (word : endsWord rest = true) :
    (outside columns tokens true none cursor).token? mark rest =
      some (outside (openedColumns cursor.column columns)
        (token :: (openedTokens cursor.column columns start ++ tokens)) true none
        (cursor.skip 1)) := by
  have unmarked := no_marker begins (.inr word)
  have opened : (outside columns tokens true none cursor).openBlock
      (outside columns tokens true none cursor).cursor.column
      (outside columns tokens true none cursor).count start =
      outside (openedColumns cursor.column columns)
        (openedTokens cursor.column columns start ++ tokens) true none cursor :=
    openBlock_outside cursor.column [] tokens start
  rcases markOf_eq_some marked with ⟨rfl, rfl, rfl⟩ | ⟨rfl, rfl, rfl⟩ | ⟨rfl, rfl, rfl⟩
  · have taken : (outside columns tokens true none cursor).token? '-' rest =
        blockEntry? (outside columns tokens true none cursor) := by
      simp [token?, word, outside, unmarked]
    rw [taken, blockEntry?, opened]
    rfl
  · have taken : (outside columns tokens true none cursor).token? '?' rest =
        (outside columns tokens true none cursor).explicitKey? := by
      simp [token?, word, outside, unmarked]
    rw [taken, explicitKey?, opened]
    rfl
  · have taken : (outside columns tokens true none cursor).token? ':' rest =
        (outside columns tokens true none cursor).value? := by
      simp [token?, word, outside, unmarked]
    rw [taken, value?, opened]
    rfl

theorem begins_mark {mark : Char} {token start : Token} {rest : List Char}
    (marked : markOf mark = some (token, start)) : Begins (mark :: rest) := by
  rcases markOf_eq_some marked with ⟨rfl, -⟩ | ⟨rfl, -⟩ | ⟨rfl, -⟩
  all_goals exact stops_cons rfl

/-- A mark begins an entry of a block collection, and may open the collection. -/
theorem scans_mark {mark : Char} {token start : Token} {rest : List Char}
    (marked : markOf mark = some (token, start))
    (begins : cursor.rest = List.replicate count ' ' ++ mark :: rest) (word : endsWord rest = true)
    (inside : Encloses columns (cursor.column + count)) :
    Scans (outside columns tokens true none cursor)
      (outside (openedColumns (cursor.column + count) columns)
        (token :: (openedTokens (cursor.column + count) columns start ++ tokens)) true none
        (cursor.skip (count + 1))) := by
  have settled := @settle?_blank columns tokens true cursor _ count begins (begins_mark marked) inside
  have behind : (cursor.skip count).rest = mark :: rest := by simp [begins]
  have token' := @token?_mark columns tokens (cursor.skip count) mark token start rest marked behind
    word
  rw [Cursor.skip_skip] at token'
  refine .of_token? settled behind token' (Cursor.past_skip cursor count) ?_ ?_
  · change Cursor.Past (cursor.skip count) (cursor.skip (count + 1))
    rw [← Cursor.skip_skip]
    exact Cursor.past_skip _ 1
  · change (cursor.skip (count + 1)).rest.length < (cursor.skip count).rest.length
    rw [← Cursor.skip_skip, Cursor.rest_skip_one behind, behind]
    exact Nat.lt_succ_self _

/-! ## Keys on one line -/

/-- The key that may begin where the scanner stands. -/
def keyAt (columns : List Nat) (tokens : List Token) (cursor : Cursor) : KeyCandidate where
  slot := tokens.length
  line := cursor.line
  column := cursor.column
  index := cursor.index
  required := columns.head? == some cursor.column

theorem noteKey?_outside :
    (outside columns tokens true none cursor).noteKey? =
      some (outside columns tokens true (some (keyAt columns tokens cursor)) cursor) := rfl

/-- A word further in than the entries around it need not be a key. -/
theorem noteKey?_idle {column : Nat} (idle : Idle cursor.line candidate)
    (deeper : column < cursor.column) :
    ∃ noted, (outside (column :: columns) tokens allowed candidate cursor).noteKey? =
        some (outside (column :: columns) tokens allowed noted cursor) ∧ Idle cursor.line noted := by
  cases allowed with
  | false => exact ⟨candidate, rfl, idle⟩
  | true =>
      refine ⟨some (keyAt (column :: columns) tokens cursor), ?_, ?_⟩
      · change (dropKey? (outside (column :: columns) tokens true candidate cursor)).bind _ = _
        rw [dropKey?_idle idle]
        rfl
      · intro key member
        cases member
        exact ⟨by simpa [keyAt] using Nat.ne_of_lt deeper, Nat.le_refl _⟩

/-- Behind a word that may be a key its colon makes it one. -/
theorem value?_key {start : Cursor} {word : Token} :
    (outside columns (word :: tokens) false (some (keyAt columns tokens start)) cursor).value? =
      some (outside (openedColumns start.column columns)
        (.value :: word :: .key ::
          (openedTokens start.column columns .blockMappingStart ++ tokens))
        false none (cursor.skip 1)) := by
  have marked : (outside columns (word :: tokens) false (some (keyAt columns tokens start))
      cursor).emitAt tokens.length .key =
      outside columns ([word, .key] ++ tokens) false (some (keyAt columns tokens start)) cursor := by
    simp [emitAt, outside]
  have opened := @openBlock_outside columns false (some (keyAt columns tokens start)) cursor
    start.column [word, .key] tokens .blockMappingStart
  change some _ = some _
  simp only [keyAt] at marked opened ⊢
  rw [marked, opened]
  rfl

/-- The colon after a word makes the word a key, and may open the mapping it belongs to. -/
theorem scans_colon {start : Cursor} {word : Token} {rest : List Char}
    (begins : cursor.rest = ':' :: rest) (ends : endsWord rest = true)
    (reaches : KeyCandidate.reaches (keyAt columns tokens start) cursor = true)
    (inside : Encloses columns cursor.column) :
    Scans (outside columns (word :: tokens) false (some (keyAt columns tokens start)) cursor)
      (outside (openedColumns start.column columns)
        (.value :: word :: .key :: (openedTokens start.column columns .blockMappingStart ++ tokens))
        false none (cursor.skip 1)) := by
  have settled : (outside columns (word :: tokens) false (some (keyAt columns tokens start))
      cursor).settle? =
      some (outside columns (word :: tokens) false (some (keyAt columns tokens start)) cursor) := by
    have colon : Begins cursor.rest := by
      rw [begins]
      exact stops_cons rfl
    have fresh : (outside columns (word :: tokens) false (some (keyAt columns tokens start))
        cursor).dropStaleKeys? =
        some (outside columns (word :: tokens) false (some (keyAt columns tokens start)) cursor) := by
      simp [dropStaleKeys?, outside, reaches]
    rw [settle?, skipToToken_here colon, fresh]
    exact congrArg some (closeBlocks_inside inside)
  refine .of_token? settled begins ?_ (Cursor.Past.refl cursor) (Cursor.past_skip cursor 1) ?_
  · have unmarked := no_marker begins (.inr ends)
    rw [← value?_key]
    simp [token?, ends, outside, unmarked]
  · change (cursor.skip 1).rest.length < cursor.rest.length
    rw [Cursor.rest_skip_one begins, begins]
    exact Nat.lt_succ_self _

end Scanner

end ServoLink.Yaml
