import ServoLink.Proofs.Yaml.Literal
import ServoLink.Proofs.Yaml.Plain
import ServoLink.Proofs.Yaml.Quoted
import ServoLink.Proofs.Yaml.Scanner

/-!
# Scalars as tokens

A text is scanned as a single scalar in the style that it is written in, as the value on the rest
of a line or as the key in front of a colon.
-/

namespace ServoLink.Yaml

/-! ## What the styles ask for -/

theorem printable_of_needsEscapes {text : List Char} (free : needsEscapes text = false) :
    (∀ c ∈ text, isPrintable c = true) ∧ hasNeighbours (· == ' ') isBreak text = false := by
  simpa [needsEscapes] using free

theorem isPlain_of_plainAllowed {text : List Char} (allowed : plainAllowed text = true)
    (nonempty : text ≠ []) : IsPlain text := by
  simp only [plainAllowed, Bool.not_eq_true', Bool.or_eq_false_iff] at allowed
  obtain ⟨⟨⟨⟨⟨front, back⟩, line⟩, escapes⟩, start⟩, inner⟩ := allowed
  have printable := (printable_of_needsEscapes escapes).1
  refine ⟨fun c first => ?_, nonempty, fun last => ?_, fun c member => ⟨?_, ?_⟩, inner⟩
  · obtain ⟨c, text, rfl⟩ := List.exists_cons_of_ne_nil nonempty
    cases first
    constructor
    · rintro rfl
      cases front
    · rintro rfl
      simp [beginsWithIndicator] at start
  · simp [endsWithBlankSpace, last] at back
  · exact tab_of_isPrintable (printable c member)
  · simpa using List.any_eq_false.mp line c member

theorem isSingleQuoted_of_allowed {text : List Char} (allowed : singleQuotesAllowed text = true)
    (inline : text.contains '\n' = false) : IsSingleQuoted text := by
  simp only [singleQuotesAllowed, Bool.not_eq_true', Bool.or_eq_false_iff] at allowed
  obtain ⟨printable, neighbours⟩ := printable_of_needsEscapes allowed.1
  refine ⟨fun c member => ⟨printable c member, ?_⟩, neighbours, allowed.2⟩
  rintro rfl
  simp [member] at inline

theorem isLiteral_of_literalAllowed {text : List Char} (allowed : literalAllowed text = true) :
    IsLiteral text := by
  simp only [literalAllowed, Bool.not_eq_true', Bool.or_eq_false_iff] at allowed
  exact ⟨by simpa using allowed.1.1, (printable_of_needsEscapes allowed.1.2).1⟩

/-- The style of a text is one that can hold it. -/
theorem styleOf_cases (text : String) (asSimpleKey : Bool) :
    (styleOf text asSimpleKey = .plain ∧ text.toList ≠ [] ∧ plainAllowed text.toList = true) ∨
      (styleOf text asSimpleKey = .singleQuoted ∧ IsSingleQuoted text.toList) ∨
      styleOf text asSimpleKey = .doubleQuoted ∨
      (styleOf text asSimpleKey = .literal ∧ asSimpleKey = false ∧ IsLiteral text.toList) := by
  simp only [styleOf]
  split_ifs with first inline fits ambiguous single
  · exact .inr (.inr (.inl rfl))
  · simp only [Bool.and_eq_true, Bool.not_eq_true'] at fits
    exact .inr (.inr (.inr ⟨rfl, fits.2, isLiteral_of_literalAllowed fits.1⟩))
  · exact .inr (.inr (.inl rfl))
  · simp only [Bool.and_eq_true, Bool.not_eq_true', isAmbiguous, Bool.or_eq_false_iff] at ambiguous
    refine .inl ⟨rfl, fun empty => ?_, ambiguous.2⟩
    have none : text = "" := String.toList_eq_nil_iff.mp empty
    simp [none] at ambiguous
  · exact .inr (.inl ⟨rfl, isSingleQuoted_of_allowed single (Bool.eq_false_iff.mpr inline)⟩)
  · exact .inr (.inr (.inl rfl))

theorem endLine_of_inline {text : List Char} (inline : ∀ c ∈ text, isBreak c = false) :
    endLine text = text ++ ['\n'] := by
  cases last : text.getLast? with
  | none => simp [endLine, last]
  | some c => simp [endLine, last, inline c (List.mem_of_getLast? last)]

/-! ## Which token begins -/

/-- Whether a plain scalar begins with a character in front of the rest of a text. -/
structure BeginsPlain (c : Char) (rest : List Char) : Prop where
  letter : "#,[]\x7b\x7d&*!|>'\"%@\x60".toList.contains c = false
  visible : isBlankOrBreak c = false
  unmarked : c ≠ '\ufeff'
  word : c = '-' ∨ c = '?' ∨ c = ':' → endsWord rest = false

theorem beginsPlain_of_plainAllowed {c : Char} {text stop : List Char}
    (allowed : plainAllowed (c :: text) = true) : BeginsPlain c (text ++ stop) := by
  have plain := isPlain_of_plainAllowed allowed (List.cons_ne_nil c text)
  simp only [plainAllowed, Bool.not_eq_true', Bool.or_eq_false_iff] at allowed
  have start := allowed.1.2
  have printable := (printable_of_needsEscapes allowed.1.1.2).1 c List.mem_cons_self
  simp only [beginsWithIndicator, Bool.or_eq_false_iff] at start
  have line := plain.line c List.mem_cons_self
  have space := (plain.first c rfl).1
  have unmarked : c ≠ '\ufeff' := by
    rintro rfl
    exact absurd printable (by decide)
  refine ⟨start.2.1, by simp [isBlankOrBreak, isBlank, space, line], unmarked, fun sign => ?_⟩
  have alone : endsWord text = false := by
    rcases sign with rfl | rfl | rfl
    · simpa using start.2.2
    · simpa using start.2.2
    · have inner := plain.inner
      simp only [hasInnerIndicator, Bool.or_eq_false_iff] at inner
      simpa using inner.1.1
  rw [endsWord_append, alone]
  rintro rfl
  cases alone

theorem BeginsPlain.begins {c : Char} {rest : List Char} (plain : BeginsPlain c rest) :
    Scanner.Begins (c :: rest) := by
  have noHash : c ≠ '#' := by
    rintro rfl
    exact absurd plain.letter (by decide)
  exact stops_cons (by simp [plain.visible, plain.unmarked, noHash])

theorem Scanner.Begins.line {tail : List Char} (begins : Scanner.Begins tail) : BeginsLine tail := by
  refine ⟨stops_break begins.blankOrBreak, fun c first => ?_⟩
  have blank := stops_blank begins.blankOrBreak c first
  simp only [isBlank, Bool.or_eq_false_iff] at blank
  exact blank.2

theorem Scanner.Begins.space {tail : List Char} (begins : Scanner.Begins tail) : Stops (· == ' ') tail := by
  intro c first
  have blank := stops_blank begins.blankOrBreak c first
  simp only [isBlank, Bool.or_eq_false_iff] at blank
  exact blank.1

theorem token?_plain {scanner : Scanner} {c : Char} {rest : List Char}
    (begins : BeginsPlain c rest) (unmarked : scanner.cursor.atDocumentMarker = false)
    (block : scanner.inFlow = false) : scanner.token? c rest = scanner.plainScalar? := by
  have letters := begins.letter
  simp only [String.reduceToList, List.contains_cons, List.contains_nil, Bool.or_eq_false_iff,
    beq_eq_false_iff_ne, ne_eq, Bool.or_false] at letters
  simp only [Cursor.atDocumentMarker, Bool.or_eq_false_iff] at unmarked
  by_cases sign : c = '-' ∨ c = '?' ∨ c = ':'
  · have inside := begins.word sign
    have goes : rest.head?.any isBlank = false := by
      cases rest with
      | nil => rfl
      | cons d rest => exact (Bool.or_eq_false_iff.mp inside).1
    have first : Scanner.beginsPlain false c rest = true := by
      rcases sign with rfl | rfl | rfl
      all_goals simp [Scanner.beginsPlain, inside, goes]
    simp [Scanner.token?, letters, unmarked, first, inside, block]
  · rw [not_or, not_or] at sign
    have other : isIndicator c = false := by simp [isIndicator, letters, sign]
    have first : Scanner.beginsPlain false c rest = true := by
      simp [Scanner.beginsPlain, begins.visible, other]
    simp [Scanner.token?, letters, unmarked, first, sign, block]

theorem token?_quote {scanner : Scanner} {double : Bool} {rest : List Char}
    (begins : scanner.cursor.rest = quoteOf double :: rest) :
    scanner.token? (quoteOf double) rest = scanner.quotedScalar? double := by
  have unmarked := Scanner.no_marker begins (.inl (by cases double <;> decide))
  cases double
  all_goals simp [Scanner.token?, quoteOf, unmarked]

theorem token?_bar {scanner : Scanner} {rest : List Char} (begins : scanner.cursor.rest = '|' :: rest)
    (block : scanner.inFlow = false) : scanner.token? '|' rest = scanner.blockScalar? true := by
  have unmarked := Scanner.no_marker begins (.inl (by decide))
  simp [Scanner.token?, unmarked, block]

def quotedStyle (double : Bool) : ScalarStyle :=
  if double then .doubleQuoted else .singleQuoted

/-! ## Values -/

section Values

open Scanner

variable {column count : Nat} {columns : List Nat} {tokens : List Token} {allowed : Bool}
  {candidate : Option KeyCandidate} {cursor : Cursor} {text tail : List Char}

/-- Behind a space the scanner takes the next token, which need not be a key. -/
theorem exists_scans_word {c : Char} {rest : List Char} (idle : Idle cursor.line candidate)
    (begins : cursor.rest = ' ' :: c :: rest) (stops : Begins (c :: rest))
    (inside : column < cursor.column) :
    ∃ left noted, Idle cursor.line left ∧ Idle cursor.line noted ∧
      (outside (column :: columns) tokens allowed left (cursor.skip 1)).noteKey? =
        some (outside (column :: columns) tokens allowed noted (cursor.skip 1)) ∧
      ∀ finish, (outside (column :: columns) tokens allowed left (cursor.skip 1)).token? c rest =
          some finish → Cursor.Past (cursor.skip 1) finish.cursor →
        finish.cursor.rest.length ≤ rest.length →
        Scans (outside (column :: columns) tokens allowed candidate cursor) finish := by
  have deeper : column < (cursor.skip 1).column := Nat.lt_succ_of_lt inside
  obtain ⟨left, settled, leftIdle⟩ := @settle?_spaces (column :: columns) tokens allowed candidate
    cursor (c :: rest) 1 idle begins stops (encloses_cons (Nat.le_of_lt deeper))
  obtain ⟨noted, noting, notedIdle⟩ := @noteKey?_idle columns tokens allowed left (cursor.skip 1)
    column leftIdle deeper
  refine ⟨left, noted, leftIdle, notedIdle, noting, fun finish token past length => ?_⟩
  have behind : (cursor.skip 1).rest = c :: rest := Cursor.rest_skip_one begins
  refine .of_token? settled behind token (Cursor.past_skip cursor 1) past ?_
  change finish.cursor.rest.length < (cursor.skip 1).rest.length
  rw [behind]
  exact Nat.lt_succ_of_le length

/-- Reading a plain text stops behind the line break and the indentation after it. -/
theorem exists_endsPlain {after : Cursor}
    (begins : after.rest = '\n' :: (List.replicate count ' ' ++ tail)) (stops : Begins tail)
    (out : count ≤ column) (fits : after.rest.length ≤ after.limit) :
    ∃ finish, EndsPlain (column + 1) after finish true ∧ finish.rest = tail ∧
      finish.column = count ∧ Cursor.Past after finish ∧ after.line < finish.line := by
  have length := congrArg List.length begins
  simp only [List.length_cons, List.length_append, List.length_replicate] at length
  obtain ⟨finish, read, rest, place, past, later⟩ :=
    @readGap?_feeds count after tail (some (column + 1)) false (after.limit + 1) {} ['\n']
      (fun c member => .inl (List.mem_singleton.mp member)) begins (stops.blankOrBreak) (by simp)
      (by simp; omega) nofun
  refine ⟨finish, ⟨?_, .inr ⟨?_, ?_, _, read, rfl⟩⟩, rest, place, past,
    later (List.cons_ne_nil _ _)⟩
  · rw [begins]
    rfl
  · rw [Cursor.peek_of_rest begins]
    rfl
  · rw [place]
    exact Nat.lt_succ_of_le out

/-- A plain text behind a colon or a dash is one token, up to the next line. -/
theorem scans_plain (plain : plainAllowed text = true) (nonempty : text ≠ [])
    (idle : Idle cursor.line candidate)
    (begins : cursor.rest = ' ' :: (text ++ '\n' :: (List.replicate count ' ' ++ tail)))
    (stops : Begins tail) (inside : column < cursor.column) (out : count ≤ column)
    (fits : cursor.rest.length ≤ cursor.limit) :
    ∃ place, Scans (outside (column :: columns) tokens allowed candidate cursor)
        (outside (column :: columns) (.scalar .plain (String.ofList text) :: tokens) true none
          place) ∧
      place.rest = tail ∧ place.column = count := by
  obtain ⟨c, rest, rfl⟩ := List.exists_cons_of_ne_nil nonempty
  have starts := @beginsPlain_of_plainAllowed c rest ('\n' :: (List.replicate count ' ' ++ tail)) plain
  obtain ⟨left, noted, -, notedIdle, noting, scans⟩ :=
    @exists_scans_word column columns tokens allowed candidate cursor c (rest ++ '\n' :: (List.replicate count ' ' ++ tail)) idle begins starts.begins inside
  have behind : (cursor.skip 1).rest = c :: rest ++ '\n' :: (List.replicate count ' ' ++ tail) :=
    Cursor.rest_skip_one begins
  have limited := (Cursor.past_skip cursor 1).fits fits
  obtain ⟨finish, ends, finishRest, place, past, later⟩ :=
    @exists_endsPlain column count tail ((cursor.skip 1).skip (c :: rest).length)
      (Cursor.rest_skip_of_append behind) stops out ((Cursor.past_skip _ _).fits limited)
  have read := @readPlain?_eq (column + 1) (cursor.limit + 1) (cursor.skip 1) finish _ [] [] true
    (c :: rest) (isPlain_of_plainAllowed plain nonempty) behind
    (atDocumentMarker_of_inside (Nat.succ_pos _))
    (Nat.le_succ_of_le (Nat.succ_le_succ (Nat.le_of_lt inside))) ends limited (by
      have length := congrArg List.length begins
      simp only [List.length_cons, List.length_append] at length fits ⊢
      omega)
  have next := @scans_next (column :: columns)
    (.scalar .plain (String.ofList (c :: rest)) :: tokens) true noted finish cursor.line notedIdle later
    (finishRest.symm ▸ stops)
  refine ⟨finish, (scans (outside (column :: columns)
    (.scalar .plain (String.ofList (c :: rest)) :: tokens) true noted finish) ?_ ?_ ?_).trans next,
    finishRest, place⟩
  · rw [token?_plain starts (atDocumentMarker_of_inside (Nat.succ_pos _)) rfl, plainScalar?, noting]
    change (readPlain? false (column + 1) (cursor.limit + 1) (cursor.skip 1) [] {}).bind _ = _
    rw [read]
    rfl
  · exact (Cursor.past_skip _ _).trans past
  · change finish.rest.length ≤ _
    simp [finishRest]
    omega

theorem quotedScalar?_eq {double : Bool} {noted : Option KeyCandidate} {finish : Cursor}
    (noting : (outside columns tokens allowed candidate cursor).noteKey? =
      some (outside columns tokens allowed noted cursor))
    (read : readQuoted? double (cursor.limit + 1) (cursor.skip 1) [] = some (text, finish)) :
    (outside columns tokens allowed candidate cursor).quotedScalar? double =
      some (outside columns (.scalar (quotedStyle double) (String.ofList text) :: tokens) false noted
        finish) := by
  rw [quotedScalar?, keyToken?, noting]
  change ((readQuoted? double (cursor.limit + 1) (cursor.skip 1) []).bind _).bind _ = _
  rw [read]
  rfl

/-- A quoted text behind a colon or a dash is one token, up to the next line. -/
theorem scans_quoted {double : Bool} {body : List Char} (spells : Spells double body text)
    (idle : Idle cursor.line candidate)
    (begins : cursor.rest = ' ' :: quoteOf double ::
      (body ++ quoteOf double :: '\n' :: (List.replicate count ' ' ++ tail)))
    (stops : Begins tail) (inside : column < cursor.column)
    (fits : cursor.rest.length ≤ cursor.limit) :
    ∃ place, Scans (outside (column :: columns) tokens allowed candidate cursor)
        (outside (column :: columns) (.scalar (quotedStyle double) (String.ofList text) :: tokens)
          true none place) ∧
      place.rest = tail ∧ place.column = count := by
  have quote : Begins (quoteOf double ::
      (body ++ quoteOf double :: '\n' :: (List.replicate count ' ' ++ tail))) := by
    cases double
    all_goals exact stops_cons rfl
  obtain ⟨left, noted, -, notedIdle, noting, scans⟩ :=
    @exists_scans_word column columns tokens allowed candidate cursor (quoteOf double) _ idle begins
      quote inside
  have behind := Cursor.rest_skip_one begins
  have limited := (Cursor.past_skip cursor 1).fits fits
  have length := congrArg List.length begins
  simp only [List.length_cons, List.length_append] at length
  obtain ⟨finish, read, finishRest, past, -, -⟩ :=
    @readQuoted?_eq double ('\n' :: (List.replicate count ' ' ++ tail)) body text spells
      (fun _ => by simp) ((cursor.skip 1).skip 1) (cursor.limit + 1) [] (Cursor.rest_skip_one behind)
      (Nat.succ_pos _) ((Cursor.past_skip _ 1).fits limited) (by omega)
  have around := (Cursor.past_skip (cursor.skip 1) 1).trans past
  obtain ⟨place, next, placeRest, placeColumn⟩ := @scans_line (column :: columns)
    (.scalar (quotedStyle double) (String.ofList text) :: tokens) false noted finish tail count
    (notedIdle.mono around.line) finishRest stops (around.fits limited)
  refine ⟨place, Scans.trans (scans _ ?_ around ?_) next, placeRest, placeColumn⟩
  · rw [token?_quote behind, quotedScalar?_eq noting read]
    rfl
  · change finish.rest.length ≤ _
    rw [finishRest]
    simp
    omega

theorem blockScalar?_eq {finish : Cursor} (idle : Idle cursor.line candidate)
    (read : readBlock? true columns.head? (cursor.skip 1) = some (text, finish)) :
    (outside columns tokens allowed candidate cursor).blockScalar? true =
      some (outside columns (.scalar .literal (String.ofList text) :: tokens) true none finish) := by
  rw [blockScalar?, dropKey?_idle idle]
  change (readBlock? true columns.head? (cursor.skip 1)).bind _ = _
  rw [read]
  rfl

/-- A literal block behind a colon or a dash is one token, up to the next line. -/
theorem scans_literal (literal : IsLiteral text) (idle : Idle cursor.line candidate)
    (begins : cursor.rest = ' ' :: (literalHeader text ++
      (literalBody (column + 2) true (endLine text) ++ (indentation count ++ tail))))
    (stops : Begins tail) (inside : column < cursor.column) (out : count ≤ column)
    (fits : cursor.rest.length ≤ cursor.limit) :
    ∃ place, Scans (outside (column :: columns) tokens allowed candidate cursor)
        (outside (column :: columns) (.scalar .literal (String.ofList text) :: tokens) true none
          place) ∧
      place.rest = tail ∧ place.column = count := by
  obtain ⟨header, split⟩ : ∃ header, literalHeader text = '|' :: header := ⟨_, literalHeader_eq text⟩
  have written := begins
  rw [split] at written
  obtain ⟨left, -, leftIdle, -, -, scans⟩ :=
    @exists_scans_word column columns tokens allowed candidate cursor '|' _ idle written
      (stops_cons rfl) inside
  have behind := Cursor.rest_skip_one written
  have limited := (Cursor.past_skip cursor 1).fits fits
  obtain ⟨finish, read, finishRest, place, past⟩ :=
    @readBlock?_eq text tail ((cursor.skip 1).skip 1) column count literal
      (by rw [Cursor.rest_skip_one behind, split]; rfl) (Nat.lt_add_right 1 (Nat.lt_succ_of_le out))
      stops.line stops.space ((Cursor.past_skip _ 1).fits limited)
  have around := (Cursor.past_skip (cursor.skip 1) 1).trans past
  refine ⟨finish, scans _ ?_ around ?_, finishRest, place⟩
  · have taken : (outside (column :: columns) tokens allowed left (cursor.skip 1)).token? '|' _ =
        (outside (column :: columns) tokens allowed left (cursor.skip 1)).blockScalar? true :=
      token?_bar behind rfl
    rw [taken]
    exact blockScalar?_eq leftIdle read
  · have length := past.length
    rwa [Cursor.rest_skip_one behind] at length

/-- The text of a value is one token, up to the next line. -/
theorem scans_scalar (value : String) (idle : Idle cursor.line candidate)
    (begins : cursor.rest = endLine (' ' :: scalarText (column + 2) false value) ++
      (indentation count ++ tail))
    (stops : Begins tail) (inside : column < cursor.column) (out : count ≤ column)
    (fits : cursor.rest.length ≤ cursor.limit) :
    ∃ place, Scans (outside (column :: columns) tokens allowed candidate cursor)
        (outside (column :: columns) (.scalar (styleOf value false) value :: tokens) true none
          place) ∧
      place.rest = tail ∧ place.column = count := by
  have same : String.ofList value.toList = value := value.ofList_toList
  rcases styleOf_cases value false with ⟨style, nonempty, plain⟩ | ⟨style, quoted⟩ | style |
    ⟨style, -, literal⟩
  · have inline : ∀ c ∈ ' ' :: value.toList, isBreak c = false := List.forall_mem_cons.mpr
      ⟨rfl, fun c member => ((isPlain_of_plainAllowed plain nonempty).line c member).2⟩
    rw [scalarText, style] at begins
    simp only [endLine_of_inline inline] at begins
    have scans := @scans_plain column count columns tokens allowed candidate cursor value.toList tail
      plain nonempty idle (begins.trans (by simp [indentation])) stops inside out fits
    rw [same] at scans
    rwa [style]
  · rw [scalarText, style] at begins
    simp only [← List.cons_append, endLine_concat] at begins
    have scans := @scans_quoted column count columns tokens allowed candidate cursor value.toList tail
      false _ (spells_singleQuoted quoted (column + 1)) idle
      (begins.trans (by simp [quoteOf, indentation, isBreak])) stops inside fits
    rw [same] at scans
    rwa [style]
  · rw [scalarText, style] at begins
    simp only [← List.cons_append, endLine_concat] at begins
    have scans := @scans_quoted column count columns tokens allowed candidate cursor value.toList tail
      true _ (spells_doubleQuoted value.toList) idle
      (begins.trans (by simp [quoteOf, indentation, isBreak])) stops inside fits
    rw [same] at scans
    rwa [style]
  · rw [scalarText, style] at begins
    simp only [← List.cons_append, endLine_literal literal.nonempty] at begins
    have scans := @scans_literal column count columns tokens allowed candidate cursor value.toList tail
      literal idle (begins.trans (by simp)) stops inside out fits
    rw [same] at scans
    rwa [style]

end Values

end ServoLink.Yaml
