import ServoLink.Proofs.Yaml.Words

/-!
# Keys in front of their colons

A name that stands on one line is a key by the colon behind it, which the scanner accepts because
no such name is long.  All other names are marked as keys.
-/

namespace ServoLink.Yaml

/-! ## The length of keys -/

theorem utf8Size_upperHexDigit : ∀ value < 16, (upperHexDigit value).utf8Size = 1 := by
  decide

theorem byteCount_fixedHex (width value : Nat) :
    byteCount (fixedHex upperHexDigit width value) = width := by
  induction width generalizing value with
  | zero => rfl
  | succ width inductionHypothesis =>
      have last := utf8Size_upperHexDigit (value % 16) (Nat.mod_lt value (by decide))
      rw [fixedHex, byteCount_append, inductionHypothesis, byteCount_cons, last]
      rfl

/-- Quoting makes a character at most seven times as long. -/
theorem byteCount_spell_le (double : Bool) (c : Char) :
    byteCount (spell double c) ≤ 7 * c.utf8Size := by
  have long := c.utf8Size_pos
  cases double with
  | false =>
      by_cases quote : c = '\''
      · subst quote
        decide
      · simp [spell, quote, byteCount]
        omega
  | true =>
      change byteCount (doubleQuotedChar c) ≤ _
      cases escaped : escapeLetter? c with
      | some letter =>
          have short := letter.utf8Size_le_four
          have backslash : '\\'.utf8Size = 1 := rfl
          simp only [doubleQuotedChar, escaped, byteCount_cons, backslash]
          simp only [byteCount, List.foldr_nil]
          omega
      | none =>
          simp only [doubleQuotedChar, escaped]
          split_ifs with printable byte word
          · simp [byteCount]
            omega
          · simp only [List.cons_append, List.nil_append, byteCount_cons, byteCount_fixedHex]
            have marks : '\\'.utf8Size = 1 ∧ 'x'.utf8Size = 1 := ⟨rfl, rfl⟩
            omega
          · simp only [List.cons_append, List.nil_append, byteCount_cons, byteCount_fixedHex]
            have marks : '\\'.utf8Size = 1 ∧ 'u'.utf8Size = 1 := ⟨rfl, rfl⟩
            omega
          · simp only [List.cons_append, List.nil_append, byteCount_cons, byteCount_fixedHex]
            have marks : '\\'.utf8Size = 1 ∧ 'U'.utf8Size = 1 := ⟨rfl, rfl⟩
            have wide : c.utf8Size ≠ 1 := fun narrow => by
              have small : c.toNat ≤ 127 := Char.utf8Size_eq_one_iff.mp narrow
              omega
            omega

theorem byteCount_flatMap_spell_le (double : Bool) (text : List Char) :
    byteCount (text.flatMap (spell double)) ≤ 7 * byteCount text := by
  induction text with
  | nil => exact Nat.le_refl 0
  | cons c text inductionHypothesis =>
      have first := byteCount_spell_le double c
      rw [List.flatMap_cons, byteCount_append, byteCount_cons]
      omega

theorem utf8ByteSize_eq_byteCount (text : List Char) :
    (String.ofList text).utf8ByteSize = byteCount text := by
  induction text with
  | nil => rfl
  | cons c text inductionHypothesis =>
      rw [byteCount_cons, ← inductionHypothesis, String.ofList_cons, String.utf8ByteSize_append,
        String.utf8ByteSize_singleton]

theorem hasBreak_of_isSimpleKey {name : String} (simple : isSimpleKey name = true) :
    hasBreak name.toList = false := by
  simp only [isSimpleKey, Bool.and_eq_true, Bool.not_eq_true'] at simple
  exact simple.2

/-- What a text is spelled as between quotes on one line. -/
theorem singleQuotedBody_inline {text : List Char} (inline : hasBreak text = false) (column : Nat) :
    singleQuotedBody column false text = text.flatMap (spell false) := by
  have each : ∀ c ∈ text, isBreak c = false := by simpa [hasBreak] using inline
  have body := @singleQuotedBody_word column text [] each
  simpa [singleQuotedBody] using body

/-- A simple key is plain or stands between quotes. -/
theorem scalarText_key {name : String} (simple : isSimpleKey name = true) (column : Nat) :
    (styleOf name true = .plain ∧ name.toList ≠ [] ∧ plainAllowed name.toList = true ∧
        scalarText column true name = name.toList) ∨
      ∃ double, styleOf name true = quotedStyle double ∧
        Spells double (name.toList.flatMap (spell double)) name.toList ∧
        scalarText column true name =
          quoteOf double :: (name.toList.flatMap (spell double) ++ [quoteOf double]) := by
  have inline := hasBreak_of_isSimpleKey simple
  rcases styleOf_cases name true with ⟨style, nonempty, plain⟩ | ⟨style, quoted⟩ | style |
    ⟨-, no, -⟩
  · exact .inl ⟨style, nonempty, plain, by rw [scalarText, style]⟩
  · have spells := spells_singleQuoted quoted column
    rw [singleQuotedBody_inline inline] at spells
    refine .inr ⟨false, style, spells, ?_⟩
    rw [scalarText, style]
    simp [singleQuotedBody_inline inline, quoteOf]
  · refine .inr ⟨true, style, spells_doubleQuoted name.toList, ?_⟩
    rw [scalarText, style]
    rfl
  · cases no

/-- A simple key is short enough for the scanner to wait for its colon. -/
theorem byteCount_scalarText_le {name : String} (simple : isSimpleKey name = true) (column : Nat) :
    byteCount (scalarText column true name) ≤ 1024 := by
  have short : byteCount name.toList ≤ 128 := by
    simp only [isSimpleKey, Bool.and_eq_true, decide_eq_true_eq] at simple
    rw [← utf8ByteSize_eq_byteCount, name.ofList_toList]
    exact simple.1
  rcases scalarText_key simple column with ⟨-, -, -, written⟩ | ⟨double, -, -, written⟩
  · rw [written]
    omega
  · have long := byteCount_flatMap_spell_le double name.toList
    have quote : (quoteOf double).utf8Size = 1 := by cases double <;> rfl
    have none : byteCount [] = 0 := rfl
    rw [written, byteCount_cons, byteCount_append, byteCount_cons, quote, none]
    omega

/-! ## Simple keys -/

section Simple

open Scanner

variable {column : Nat} {columns : List Nat} {tokens : List Token} {cursor : Cursor}
  {name : String} {rest : List Char}

theorem take_three_colon {text : List Char} {c : Char} (other : c ≠ ':')
    (unmarked : (text.take 3 == [c, c, c]) = false) :
    ((text ++ ':' :: rest).take 3 == [c, c, c]) = false := by
  have colon : ':' ≠ c := other.symm
  rcases text with _ | ⟨first, _ | ⟨second, _ | ⟨third, text⟩⟩⟩
  · simp [colon]
  · simp [colon]
  · simp [colon]
  · exact unmarked

/-- A key is no marker of documents, even if it stands at the beginning of a line. -/
theorem atDocumentMarker_plain {text : List Char} (plain : plainAllowed text = true)
    (begins : cursor.rest = text ++ ':' :: rest) : cursor.atDocumentMarker = false := by
  simp only [plainAllowed, Bool.not_eq_true', Bool.or_eq_false_iff] at plain
  have start := plain.1.2
  simp only [beginsWithIndicator, Bool.or_eq_false_iff] at start
  have dashes := @take_three_colon rest text '-' (by decide) start.1.1
  have dots := @take_three_colon rest text '.' (by decide) start.1.2
  simp [Cursor.atDocumentMarker, Cursor.atMarker, begins, dashes, dots]

/-- The scanner takes a key where it stands. -/
theorem Scanner.Scans.of_keyWord {c : Char} {finish : Scanner} (begins : cursor.rest = c :: rest)
    (stops : Begins cursor.rest) (inside : Encloses columns cursor.column)
    (token : (outside columns tokens true none cursor).token? c rest = some finish)
    (past : Cursor.Past cursor finish.cursor) (length : finish.cursor.rest.length ≤ rest.length) :
    Scans (outside columns tokens true none cursor) finish := by
  have settled := @settle?_blank columns tokens true cursor _ 0 rfl stops inside
  rw [Cursor.skip_zero] at settled
  refine .of_token? settled begins token (Cursor.Past.refl cursor) past ?_
  change finish.cursor.rest.length < cursor.rest.length
  rw [begins]
  exact Nat.lt_succ_of_le length

/-- A plain key is one token in front of its colon. -/
theorem scans_plainKey {text : List Char} (plain : plainAllowed text = true) (nonempty : text ≠ [])
    (begins : cursor.rest = text ++ ':' :: rest) (ends : endsWord rest = true)
    (inside : Encloses columns cursor.column)
    (fits : cursor.rest.length ≤ cursor.limit) :
    Scans (outside columns tokens true none cursor)
      (outside columns (.scalar .plain (String.ofList text) :: tokens) false
        (some (keyAt columns tokens cursor)) (cursor.skip text.length)) := by
  obtain ⟨c, more, rfl⟩ := List.exists_cons_of_ne_nil nonempty
  have starts := @beginsPlain_of_plainAllowed c more (':' :: rest) plain
  have unmarked := atDocumentMarker_plain plain begins
  have behind := Cursor.rest_skip_of_append begins
  have stays : ∀ indent, EndsPlain indent (cursor.skip (c :: more).length)
      (cursor.skip (c :: more).length) false := fun indent => by
    refine ⟨?_, .inl ⟨?_, rfl, rfl⟩⟩
    · rw [behind]
      simp [readWord?, isBlankOrBreak, isBlank, isBreak, ends]
    · rw [Cursor.peek_of_rest behind]
      rfl
  have length := congrArg List.length begins
  simp only [List.length_append, List.length_cons] at length
  have read : ∀ indent ≤ cursor.column + 1, readPlain? false indent (cursor.limit + 1) cursor [] {} =
      some (c :: more, cursor.skip (c :: more).length, false) := fun indent deep =>
    @readPlain?_eq indent (cursor.limit + 1) cursor _ _ [] [] false (c :: more)
      (isPlain_of_plainAllowed plain nonempty) begins unmarked deep (stays indent) fits
      (by rw [List.length_cons]; omega)
  have first : cursor.rest = c :: (more ++ ':' :: rest) := begins
  refine .of_keyWord first (first ▸ starts.begins) inside ?_ (Cursor.past_skip _ _) ?_
  · rw [token?_plain starts unmarked rfl, plainScalar?, noteKey?_outside]
    cases columns with
    | nil =>
        change (readPlain? false 0 (cursor.limit + 1) cursor [] {}).bind _ = _
        rw [read 0 (Nat.zero_le _)]
        rfl
    | cons innermost columns =>
        change (readPlain? false (innermost + 1) (cursor.limit + 1) cursor [] {}).bind _ = _
        rw [read (innermost + 1) (Nat.succ_le_succ inside.head)]
        rfl
  · change (cursor.skip (c :: more).length).rest.length ≤ _
    rw [behind, List.length_append]
    exact Nat.le_add_left _ _

/-- A quoted key is one token in front of its colon. -/
theorem scans_quotedKey {text : List Char} {double : Bool} (inline : hasBreak text = false)
    (spells : Spells double (text.flatMap (spell double)) text)
    (begins : cursor.rest =
      quoteOf double :: (text.flatMap (spell double) ++ [quoteOf double]) ++ ':' :: rest)
    (inside : Encloses columns cursor.column)
    (fits : cursor.rest.length ≤ cursor.limit) :
    Scans (outside columns tokens true none cursor)
      (outside columns (.scalar (quotedStyle double) (String.ofList text) :: tokens) false
        (some (keyAt columns tokens cursor)) (cursor.skip
          (quoteOf double :: (text.flatMap (spell double) ++ [quoteOf double])).length)) := by
  have first : cursor.rest =
      quoteOf double :: (text.flatMap (spell double) ++ quoteOf double :: ':' :: rest) := by
    simp [begins]
  have quote : Begins cursor.rest := by
    rw [first]
    cases double
    all_goals exact stops_cons rfl
  have length := congrArg List.length first
  simp only [List.length_append, List.length_cons] at length
  obtain ⟨finish, read, -, -, -, stands⟩ :=
    @readQuoted?_eq double (':' :: rest) _ text spells (fun _ => by simp) (cursor.skip 1)
      (cursor.limit + 1) [] (Cursor.rest_skip_one first) (Nat.succ_pos _)
      ((Cursor.past_skip _ 1).fits fits) (by omega)
  have place : finish = cursor.skip
      (quoteOf double :: (text.flatMap (spell double) ++ [quoteOf double])).length := by
    rw [stands inline, Cursor.skip_skip, List.length_cons, List.length_append, Nat.add_comm 1]
    rfl
  rw [place] at read
  refine .of_keyWord first quote inside ?_ (Cursor.past_skip _ _) ?_
  · rw [token?_quote first, quotedScalar?_eq noteKey?_outside read]
    rfl
  · change (cursor.skip _).rest.length ≤ _
    rw [Cursor.rest_skip_of_append begins]
    simp only [List.length_append, List.length_cons]
    omega

theorem scans_keyWord (simple : isSimpleKey name = true)
    (begins : cursor.rest = scalarText column true name ++ ':' :: rest)
    (ends : endsWord rest = true)
    (inside : Encloses columns cursor.column)
    (fits : cursor.rest.length ≤ cursor.limit) :
    Scans (outside columns tokens true none cursor)
      (outside columns (.scalar (styleOf name true) name :: tokens) false
        (some (keyAt columns tokens cursor))
        (cursor.skip (scalarText column true name).length)) := by
  have same : String.ofList name.toList = name := name.ofList_toList
  rcases scalarText_key simple column with ⟨style, nonempty, plain, written⟩ |
    ⟨double, style, spells, written⟩
  · rw [written] at begins ⊢
    have scans := @scans_plainKey columns tokens cursor rest name.toList plain nonempty begins ends
      inside fits
    rw [same] at scans
    rwa [style]
  · rw [written] at begins ⊢
    have scans := @scans_quotedKey columns tokens cursor rest name.toList double
      (hasBreak_of_isSimpleKey simple) spells begins inside fits
    rw [same] at scans
    rwa [style]

/-- A simple key and its colon. -/
theorem scans_simpleKey (simple : isSimpleKey name = true)
    (begins : cursor.rest = scalarText column true name ++ ':' :: rest)
    (ends : endsWord rest = true)
    (inside : Encloses columns cursor.column)
    (fits : cursor.rest.length ≤ cursor.limit) :
    ∃ place, Scans (outside columns tokens true none cursor)
        (outside (openedColumns cursor.column columns)
          (.value :: .scalar (styleOf name true) name :: .key ::
            (openedTokens cursor.column columns .blockMappingStart ++ tokens)) false none place) ∧
      place.rest = rest ∧ cursor.column < place.column := by
  have behind := Cursor.rest_skip_of_append begins
  have reaches : KeyCandidate.reaches (keyAt columns tokens cursor)
      (cursor.skip (scalarText column true name).length) = true := by
    have short := byteCount_scalarText_le simple column
    simp only [KeyCandidate.reaches, keyAt, Cursor.line_skip, Cursor.index_skip_of_append begins]
    simp
    omega
  have word := @scans_keyWord column columns tokens cursor name rest simple begins ends inside fits
  have colon := @scans_colon columns tokens (cursor.skip (scalarText column true name).length)
    cursor (.scalar (styleOf name true) name) rest behind ends reaches
    (inside.mono (Nat.le_add_right _ _))
  exact ⟨_, word.trans colon, Cursor.rest_skip_one behind, by simp only [Cursor.column_skip]; omega⟩

end Simple

/-! ## All keys -/

section Keys

open Scanner

variable {column : Nat} {columns : List Nat} {tokens : List Token} {cursor : Cursor}
  {name : String} {rest : List Char}

/-- The style of a name that is a key. -/
def keyStyle (name : String) : ScalarStyle :=
  styleOf name (isSimpleKey name)

/-- A key with its mark stands on lines of its own. -/
theorem scans_markedKey (begins : cursor.rest =
      endLine ("? ".toList ++ scalarText (column + 2) false name) ++ (indentation column ++ ':' :: rest))
    (stands : cursor.column = column) (ends : endsWord rest = true)
    (inside : Encloses columns column) (fits : cursor.rest.length ≤ cursor.limit) :
    ∃ place, Scans (outside columns tokens true none cursor)
        (outside (openedColumns column columns)
          (.value :: .scalar (styleOf name false) name :: .key ::
            (openedTokens column columns .blockMappingStart ++ tokens)) true none place) ∧
      place.rest = rest ∧ column < place.column := by
  have split : cursor.rest = List.replicate 0 ' ' ++ '?' ::
      (endLine (' ' :: scalarText (column + 2) false name) ++
        (indentation column ++ ':' :: rest)) := by
    rw [begins]
    exact congrArg (· ++ _) (endLine_cons '?' ' ' _)
  have blank : endsWord (endLine (' ' :: scalarText (column + 2) false name) ++
      (indentation column ++ ':' :: rest)) = true := by
    rw [endLine]
    split_ifs
    all_goals rfl
  obtain ⟨outer, opened⟩ := openedColumns_eq inside
  have mark := @scans_mark columns tokens cursor 0 '?' .key .blockMappingStart _ rfl split blank
    (by simpa [stands] using inside)
  simp only [Nat.add_zero, Nat.zero_add, stands, opened] at mark
  obtain ⟨place, scalar, placeRest, placeColumn⟩ := @scans_scalar column column outer
    (.key :: (openedTokens column columns .blockMappingStart ++ tokens)) true none (cursor.skip 1)
    (':' :: rest) name (idle_none _) (Cursor.rest_skip_one split) (stops_cons rfl)
    (by simp [stands]) (Nat.le_refl column) ((Cursor.past_skip _ 1).fits fits)
  have colon := @scans_mark (column :: outer) (.scalar (styleOf name false) name :: .key ::
    (openedTokens column columns .blockMappingStart ++ tokens)) place 0 ':' .value .blockMappingStart
    rest rfl placeRest ends (encloses_cons (Nat.le_of_eq placeColumn.symm))
  simp only [Nat.add_zero, Nat.zero_add, placeColumn, openedColumns_cons, openedTokens_cons,
    List.nil_append] at colon
  refine ⟨place.skip 1, ?_, Cursor.rest_skip_one placeRest, by simp [placeColumn]⟩
  rw [opened]
  exact (mark.trans scalar).trans colon

/-- A key and its colon, which may open the mapping. -/
theorem scans_key (name : String) (begins : cursor.rest = printKey column name ++ rest)
    (stands : cursor.column = column) (ends : endsWord rest = true)
    (inside : Encloses columns column) (fits : cursor.rest.length ≤ cursor.limit) :
    ∃ place allowed, Scans (outside columns tokens true none cursor)
        (outside (openedColumns column columns)
          (.value :: .scalar (keyStyle name) name :: .key ::
            (openedTokens column columns .blockMappingStart ++ tokens)) allowed none place) ∧
      place.rest = rest ∧ column < place.column := by
  by_cases simple : isSimpleKey name = true
  · rw [printKey, if_pos simple] at begins
    obtain ⟨place, scans, placeRest, placeColumn⟩ := @scans_simpleKey (column + 2) columns tokens
      cursor name rest simple (begins.trans (by simp)) ends (stands.symm ▸ inside) fits
    rw [stands] at scans placeColumn
    refine ⟨place, false, ?_, placeRest, placeColumn⟩
    rwa [keyStyle, simple]
  · rw [printKey, if_neg simple] at begins
    obtain ⟨place, scans, placeRest, placeColumn⟩ := @scans_markedKey column columns tokens cursor name
      rest (begins.trans (by simp)) stands ends inside fits
    refine ⟨place, true, ?_, placeRest, placeColumn⟩
    rwa [keyStyle, Bool.eq_false_iff.mpr simple]

end Keys

end ServoLink.Yaml
