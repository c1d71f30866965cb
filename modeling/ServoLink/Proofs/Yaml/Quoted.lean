import ServoLink.Proofs.Text.Digits
import ServoLink.Proofs.Yaml.Cursor
import ServoLink.Yaml.Printer

/-!
# Quoted scalars read back

A text between quotes is read word by word.  The gaps between its words are spaces or, in single
quotes only, line breaks with the indentation of the line after them.
-/

namespace ServoLink.Yaml

/-! ## Characters -/

/-- How a character that is no gap stands between quotes. -/
def spell (double : Bool) (c : Char) : List Char :=
  if double then doubleQuotedChar c else if c = '\'' then ['\'', '\''] else [c]

/-- What the parser makes of a word with a character in front. -/
def withChar (c : Char) (width : Nat) (read : List Char × Nat × Bool) : List Char × Nat × Bool :=
  (c :: read.1, width + read.2.1, read.2.2)

section Characters

variable {steps : Nat} {rest : List Char}

/-- A result of a table comes from its first row or from the rows below. -/
theorem row_of_ite {condition : Prop} [Decidable condition] {value result : Char}
    {below : Option Char} (found : (if condition then some value else below) = some result) :
    (condition ∧ value = result) ∨ below = some result := by
  by_cases holds : condition
  · rw [if_pos holds] at found
    exact .inl ⟨holds, Option.some.inj found⟩
  · rw [if_neg holds] at found
    exact .inr found

theorem escapeLetter?_spec {c letter : Char} (escaped : escapeLetter? c = some letter) :
    escaped? letter = some c ∧ escapeWidth? letter = none ∧ isBreak letter = false := by
  unfold escapeLetter? at escaped
  iterate 14
    rcases row_of_ite escaped with ⟨rfl, rfl⟩ | escaped
    · exact ⟨rfl, rfl, rfl⟩
  cases escaped

theorem isBlankOrBreak_escape : isBlankOrBreak '\\' = false := rfl

theorem readQuotedWord?_letter {c letter : Char} (escaped : escapeLetter? c = some letter) :
    readQuotedWord? true (steps + 1) ('\\' :: letter :: rest) =
      (readQuotedWord? true steps rest).map (withChar c 2) := by
  obtain ⟨means, narrow, inline⟩ := escapeLetter?_spec escaped
  simp [readQuotedWord?, means, narrow, inline, isBlankOrBreak_escape]
  rfl

theorem charOfHex?_fixedHex {width : Nat} {c : Char} (fits : c.toNat < 16 ^ width) :
    charOfHex? width (fixedHex upperHexDigit width c.toNat ++ rest) = some c := by
  have digits : (fixedHex upperHexDigit width c.toNat ++ rest).take width =
      fixedHex upperHexDigit width c.toNat :=
    List.take_left' (length_fixedHex upperHexDigit width c.toNat)
  have code := foldlM_fixedHex hexValue?_upperHexDigit width c.toNat
  rw [Nat.mod_eq_of_lt fits] at code
  have valid : c.toNat.isValidChar := c.valid
  simp [charOfHex?, digits, code, length_fixedHex, valid, Char.ofNat_toNat]

theorem readQuotedWord?_code {c kind : Char} {width : Nat} (numeric : escapeWidth? kind = some width)
    (inline : isBreak kind = false) (fits : c.toNat < 16 ^ width) :
    readQuotedWord? true (steps + 1)
        ('\\' :: kind :: (fixedHex upperHexDigit width c.toNat ++ rest)) =
      (readQuotedWord? true steps rest).map (withChar c (2 + width)) := by
  have digits : (fixedHex upperHexDigit width c.toNat ++ rest).drop width = rest :=
    List.drop_left' (length_fixedHex upperHexDigit width c.toNat)
  have code : charOfHex? width (_ ++ rest) = some c := charOfHex?_fixedHex fits
  simp [readQuotedWord?, numeric, inline, code, digits, isBlankOrBreak_escape]
  rfl

/-- Whether a character may stand inside a word between quotes. -/
def IsSpelled (double : Bool) (c : Char) : Prop :=
  if double then c ≠ ' ' else isBlankOrBreak c = false

/-- Characters that cannot stand as they are between double quotes have a letter. -/
theorem of_escapeLetter?_eq_none {c : Char} (unescaped : escapeLetter? c = none) (space : c ≠ ' ') :
    isBlankOrBreak c = false ∧ c ≠ '"' ∧ c ≠ '\\' := by
  refine ⟨?_, ?_, ?_⟩
  · by_contra gap
    simp only [isBlankOrBreak, isBlank, isBreak, Bool.not_eq_false, Bool.or_eq_true,
      beq_iff_eq] at gap
    rcases gap with (blank | tab) | (((rfl | rfl) | rfl) | rfl) | rfl
    · exact space blank
    · subst tab
      exact absurd unescaped (by decide)
    all_goals exact absurd unescaped (by decide)
  · rintro rfl
    exact absurd unescaped (by decide)
  · rintro rfl
    exact absurd unescaped (by decide)

theorem readQuotedWord?_self {double : Bool} {c : Char} (visible : isBlankOrBreak c = false)
    (quote : c ≠ if double then '"' else '\'') (escape : double = true → c ≠ '\\') :
    readQuotedWord? double (steps + 1) (c :: rest) =
      (readQuotedWord? double steps rest).map (withChar c 1) := by
  cases double with
  | false =>
      simp at quote
      simp [readQuotedWord?, visible, quote]
      rfl
  | true =>
      simp at quote escape
      simp [readQuotedWord?, visible, quote, escape]
      rfl

/-- A character that has no letter and cannot be printed is written by its code. -/
theorem doubleQuotedChar_of_unprintable {c : Char} (unescaped : escapeLetter? c = none)
    (unprintable : isPrintable c = false) :
    ∃ kind width, doubleQuotedChar c = '\\' :: kind :: fixedHex upperHexDigit width c.toNat ∧
      escapeWidth? kind = some width ∧ isBreak kind = false ∧ c.toNat < 16 ^ width := by
  have below : c.toNat < 0x110000 := by
    rcases c.valid with low | high
    · exact Nat.lt_trans low (by decide)
    · exact high.2
  by_cases byte : c.toNat ≤ 0xFF
  · exact ⟨'x', 2, by simp [doubleQuotedChar, unescaped, unprintable, byte], rfl, rfl, by omega⟩
  · by_cases word : c.toNat ≤ 0xFFFF
    · exact ⟨'u', 4, by simp [doubleQuotedChar, unescaped, unprintable, byte, word], rfl, rfl,
        by omega⟩
    · exact ⟨'U', 8, by simp [doubleQuotedChar, unescaped, unprintable, byte, word], rfl, rfl,
        by omega⟩

/-- A spelled character is read as this character, whatever follows. -/
theorem readQuotedWord?_spell {double : Bool} {c : Char} (spelled : IsSpelled double c) :
    readQuotedWord? double (steps + 1) (spell double c ++ rest) =
      (readQuotedWord? double steps rest).map (withChar c (spell double c).length) := by
  cases double with
  | false =>
      have visible : isBlankOrBreak c = false := spelled
      by_cases quote : c = '\''
      · subst quote
        simp [spell, readQuotedWord?, visible]
        rfl
      · have read : readQuotedWord? false (steps + 1) (c :: rest) = _ :=
          readQuotedWord?_self visible quote nofun
        simpa [spell, quote] using read
  | true =>
      have space : c ≠ ' ' := spelled
      cases escaped : escapeLetter? c with
      | some letter => simpa [spell, doubleQuotedChar, escaped] using readQuotedWord?_letter escaped
      | none =>
          obtain ⟨visible, quote, escape⟩ := of_escapeLetter?_eq_none escaped space
          by_cases printable : isPrintable c = true
          · have read : readQuotedWord? true (steps + 1) (c :: rest) = _ :=
              readQuotedWord?_self visible quote fun _ => escape
            simpa [spell, doubleQuotedChar, escaped, printable] using read
          · obtain ⟨kind, width, written, numeric, inline, fits⟩ :=
              doubleQuotedChar_of_unprintable escaped (Bool.eq_false_iff.mpr printable)
            have long : 2 + width = (spell true c).length := by
              simp only [spell, written, if_true, List.length_cons, length_fixedHex]
              omega
            have read : readQuotedWord? true (steps + 1)
                ('\\' :: kind :: (fixedHex upperHexDigit width c.toNat ++ rest)) = _ :=
              readQuotedWord?_code numeric inline fits
            rw [long] at read
            simpa [spell, written] using read

end Characters

/-! ## Words and gaps -/

/-- The quote that ends a scalar. -/
def quoteOf (double : Bool) : Char :=
  if double then '"' else '\''

/-- How a text is spelled between quotes: its words, and the gaps between them, which are spaces or
separators of lines with the indentation of the next line. -/
inductive Spells (double : Bool) : (body text : List Char) → Prop
  | last {word : List Char} (each : ∀ c ∈ word, IsSpelled double c) :
      Spells double (word.flatMap (spell double)) word
  | spaces {word body text : List Char} (each : ∀ c ∈ word, IsSpelled double c) (count : Nat)
      (stops : Stops isBlankOrBreak body) (rest : Spells double body text) :
      Spells double (word.flatMap (spell double) ++ (List.replicate (count + 1) ' ' ++ body))
        (word ++ (List.replicate (count + 1) ' ' ++ text))
  | separators {word body text feeds : List Char} (each : ∀ c ∈ word, IsSpelled double c)
      (separate : ∀ c ∈ feeds, c = '\u2028' ∨ c = '\u2029') (nonempty : feeds ≠ [])
      (count : Nat) (stops : Stops isBlankOrBreak body) (rest : Spells double body text) :
      Spells double
        (word.flatMap (spell double) ++ (feeds ++ (List.replicate (count + 1) ' ' ++ body)))
        (word ++ (feeds ++ text))

section Reading

variable {double : Bool} {later : List Char}

/-- Whether a word between quotes is over. -/
def EndsQuotedWord (double : Bool) (rest : List Char) : Prop :=
  ∀ steps, readQuotedWord? double (steps + 1) rest = some ([], 0, false)

theorem endsQuotedWord_gap {c : Char} {rest : List Char} (gap : isBlankOrBreak c = true) :
    EndsQuotedWord double (c :: rest) := by
  intro steps
  simp [readQuotedWord?, gap]

theorem endsQuotedWord_quote (single : double = false → later.head? ≠ some '\'') :
    EndsQuotedWord double (quoteOf double :: later) := by
  intro steps
  cases double with
  | false =>
      have visible : isBlankOrBreak '\'' = false := rfl
      simp [readQuotedWord?, quoteOf, visible, single rfl]
  | true =>
      have visible : isBlankOrBreak '"' = false := rfl
      simp [readQuotedWord?, quoteOf, visible]

theorem readQuotedWord?_word {word rest : List Char} {steps : Nat}
    (each : ∀ c ∈ word, IsSpelled double c) (ends : EndsQuotedWord double rest)
    (enough : word.length < steps) :
    readQuotedWord? double steps (word.flatMap (spell double) ++ rest) =
      some (word, (word.flatMap (spell double)).length, false) := by
  induction word generalizing steps with
  | nil =>
      obtain ⟨steps, rfl⟩ := Nat.exists_eq_add_one_of_ne_zero (Nat.ne_zero_of_lt enough)
      exact ends steps
  | cons c word inductionHypothesis =>
      obtain ⟨steps, rfl⟩ := Nat.exists_eq_add_one_of_ne_zero (Nat.ne_zero_of_lt enough)
      have read := inductionHypothesis (fun d member => each d (List.mem_cons_of_mem c member))
        (Nat.lt_of_succ_lt_succ enough)
      rw [List.flatMap_cons, List.append_assoc,
        readQuotedWord?_spell (each c List.mem_cons_self), read]
      simp [withChar]

section Steps

variable {cursor : Cursor} {steps count : Nat} {read word : List Char}

theorem readQuoted?_close (unmarked : cursor.atDocumentMarker = false)
    (words : readQuotedWord? double (cursor.limit + 1) cursor.rest = some (word, count, false))
    (closed : (cursor.skip count).rest = quoteOf double :: later) :
    readQuoted? double (steps + 1) cursor read =
      some (read ++ word, cursor.skip (count + 1)) := by
  have nonempty : cursor.rest ≠ [] := by
    intro empty
    simp [empty] at closed
  have quote : (cursor.skip count).startsWith (if double then '"' else '\'') = true := by
    simp [Cursor.startsWith, Cursor.peek_of_rest closed, quoteOf]
  simp [readQuoted?, unmarked, nonempty, words, quote, Cursor.skip_skip]

theorem readQuoted?_gap {c : Char} {gap : Gap} {next : Cursor}
    (unmarked : cursor.atDocumentMarker = false)
    (words : readQuotedWord? double (cursor.limit + 1) cursor.rest = some (word, count, false))
    (goes : (cursor.skip count).rest = c :: later) (blank : isBlankOrBreak c = true)
    (found : readGap? none false (cursor.limit + 1) (cursor.skip count) {} = some (gap, next)) :
    readQuoted? double (steps + 1) cursor read =
      readQuoted? double steps next (read ++ word ++ gap.text) := by
  have nonempty : cursor.rest ≠ [] := by
    intro empty
    simp [empty] at goes
  have noQuote : (cursor.skip count).startsWith (if double then '"' else '\'') = false := by
    have double' : c ≠ '"' := by
      rintro rfl
      exact absurd blank (by decide)
    have single : c ≠ '\'' := by
      rintro rfl
      exact absurd blank (by decide)
    cases double <;> simp [Cursor.startsWith, Cursor.peek_of_rest goes, double', single]
  simp [readQuoted?, unmarked, nonempty, words, noQuote, found]

end Steps

theorem spell_ne_nil (double : Bool) (c : Char) : spell double c ≠ [] := by
  cases double with
  | false =>
      by_cases quote : c = '\''
      all_goals simp [spell, quote]
  | true =>
      cases escaped : escapeLetter? c with
      | some letter => simp [spell, doubleQuotedChar, escaped]
      | none =>
          simp only [spell, doubleQuotedChar, escaped, if_true]
          split_ifs
          all_goals simp

theorem length_le_flatMap_spell (double : Bool) (word : List Char) :
    word.length ≤ (word.flatMap (spell double)).length := by
  induction word with
  | nil => exact Nat.le_refl 0
  | cons c word inductionHypothesis =>
      have long := List.length_pos_iff.mpr (spell_ne_nil double c)
      rw [List.flatMap_cons, List.length_append, List.length_cons]
      omega

theorem stops_quote {body : List Char} (stops : Stops isBlankOrBreak body) :
    Stops isBlankOrBreak (body ++ quoteOf double :: later) := by
  cases body with
  | nil => cases double <;> exact stops_cons rfl
  | cons c body => exact stops_cons stops.head

/-- Separators of lines stand for themselves. -/
theorem foldBreaks_separators {feeds : List Char}
    (separate : ∀ c ∈ feeds, c = '\u2028' ∨ c = '\u2029') : foldBreaks feeds = feeds := by
  cases feeds with
  | nil => rfl
  | cons c feeds => rcases separate c List.mem_cons_self with rfl | rfl <;> rfl

/-- A spelled text is read up to the closing quote. -/
theorem readQuoted?_eq {body text : List Char} (spells : Spells double body text)
    (single : double = false → later.head? ≠ some '\'') {cursor : Cursor} {steps : Nat}
    {read : List Char} (begins : cursor.rest = body ++ quoteOf double :: later)
    (inside : 0 < cursor.column) (fits : cursor.rest.length ≤ cursor.limit)
    (enough : body.length < steps) :
    ∃ finish, readQuoted? double steps cursor read = some (read ++ text, finish) ∧
      finish.rest = later ∧ Cursor.Past cursor finish ∧ 0 < finish.column ∧
      (hasBreak text = false → finish = cursor.skip (body.length + 1)) := by
  induction spells generalizing cursor steps read with
  | @last word each =>
      obtain ⟨steps, rfl⟩ := Nat.exists_eq_add_one_of_ne_zero (Nat.ne_zero_of_lt enough)
      have bounded := congrArg List.length begins
      have long := length_le_flatMap_spell double word
      simp only [List.length_append, List.length_cons] at bounded
      have words : readQuotedWord? double (cursor.limit + 1) cursor.rest = _ := begins ▸
        readQuotedWord?_word each (endsQuotedWord_quote single) (by omega)
      have closed := Cursor.rest_skip_of_append begins
      refine ⟨_, readQuoted?_close (atDocumentMarker_of_inside inside) words closed, ?_,
        Cursor.past_skip cursor _, by simp, fun _ => rfl⟩
      rw [← Cursor.skip_skip]
      exact Cursor.rest_skip_one closed
  | @spaces word body text each count stops rest inductionHypothesis =>
      obtain ⟨steps, rfl⟩ := Nat.exists_eq_add_one_of_ne_zero (Nat.ne_zero_of_lt enough)
      rw [List.append_assoc, List.append_assoc] at begins
      have bounded := congrArg List.length begins
      have long := length_le_flatMap_spell double word
      simp only [List.length_append, List.length_cons, List.length_replicate] at bounded enough
      have words : readQuotedWord? double (cursor.limit + 1) cursor.rest = _ := begins ▸
        readQuotedWord?_word each (endsQuotedWord_gap rfl) (by omega)
      have goes := Cursor.rest_skip_of_append begins
      have gap : readGap? none false (cursor.limit + 1)
          (cursor.skip (word.flatMap (spell double)).length) {} = _ :=
        readGap?_spaces goes (stops_quote stops) (by omega)
      rw [Cursor.skip_skip] at gap
      have behind : (cursor.skip ((word.flatMap (spell double)).length + (count + 1))).rest =
          body ++ quoteOf double :: later := by
        rw [← Cursor.skip_skip, Cursor.rest_skip, goes]
        simp
      obtain ⟨finish, found, ends, past, column, exact'⟩ :=
        @inductionHypothesis (cursor.skip ((word.flatMap (spell double)).length + (count + 1)))
          steps (read ++ word ++ List.replicate (count + 1) ' ') behind (by simp)
          (by rw [behind, Cursor.limit_skip, List.length_append, List.length_cons]; omega)
          (by omega)
      refine ⟨finish, ?_, ends, (Cursor.past_skip cursor _).trans past, column, fun unbroken => ?_⟩
      · rw [readQuoted?_gap (atDocumentMarker_of_inside inside) words goes rfl gap]
        simpa [Gap.text] using found
      · rw [exact' ?_, Cursor.skip_skip]
        · simp [Nat.add_assoc]
        · simp only [hasBreak, List.any_append, Bool.or_eq_false_iff] at unbroken ⊢
          exact unbroken.2.2
  | @separators word body text feeds each separate nonempty count stops rest inductionHypothesis =>
      obtain ⟨steps, rfl⟩ := Nat.exists_eq_add_one_of_ne_zero (Nat.ne_zero_of_lt enough)
      rw [List.append_assoc, List.append_assoc, List.append_assoc] at begins
      have bounded := congrArg List.length begins
      have long := length_le_flatMap_spell double word
      simp only [List.length_append, List.length_cons, List.length_replicate] at bounded enough
      obtain ⟨c, others, rfl⟩ := List.exists_cons_of_ne_nil nonempty
      have feed : ∀ d ∈ c :: others, IsFeed d := fun d member => .inr (separate d member)
      have first : isBlankOrBreak c = true := by
        simp [isBlankOrBreak, (feed c List.mem_cons_self).isBreak]
      have words : readQuotedWord? double (cursor.limit + 1) cursor.rest = _ := begins ▸
        readQuotedWord?_word each (endsQuotedWord_gap first) (by omega)
      have goes := Cursor.rest_skip_of_append begins
      obtain ⟨next, gap, behind, column, past, -⟩ := readGap?_feeds none false (cursor.limit + 1) {}
        feed goes (stops_quote stops) (by simp) (by omega) nofun
      have shorter := congrArg List.length behind
      simp only [List.length_append, List.length_cons] at shorter
      obtain ⟨finish, found, ends, further, inline, -⟩ :=
        @inductionHypothesis next steps (read ++ word ++ (c :: others)) behind (by omega)
          (by rw [past.limit, Cursor.limit_skip]; omega) (by omega)
      refine ⟨finish, ?_, ends, ((Cursor.past_skip cursor _).trans past).trans further, inline,
        fun unbroken => ?_⟩
      · rw [readQuoted?_gap (atDocumentMarker_of_inside inside) words goes first gap]
        simpa [Gap.text, foldBreaks_separators separate] using found
      · simp [hasBreak, (feed c List.mem_cons_self).isBreak] at unbroken

end Reading

/-! ## Double quotes -/

/-- What a text begins with between double quotes is no gap unless the text begins with a space. -/
theorem stops_doubleQuoted {text : List Char} (stops : Stops (· == ' ') text) :
    Stops isBlankOrBreak (text.flatMap doubleQuotedChar) := by
  cases text with
  | nil => exact stops_nil
  | cons c text =>
      have space : c ≠ ' ' := by simpa using stops.head
      rw [List.flatMap_cons]
      cases escaped : escapeLetter? c with
      | some letter => simpa [doubleQuotedChar, escaped] using stops_cons isBlankOrBreak_escape
      | none =>
          have visible := (of_escapeLetter?_eq_none escaped space).1
          by_cases printable : isPrintable c = true
          · simpa [doubleQuotedChar, escaped, printable] using stops_cons visible
          · obtain ⟨kind, width, written, -⟩ :=
              doubleQuotedChar_of_unprintable escaped (Bool.eq_false_iff.mpr printable)
            rw [written]
            exact stops_cons isBlankOrBreak_escape

theorem flatMap_spaces {write : Char → List Char} (kept : write ' ' = [' ']) (count : Nat) :
    (List.replicate count ' ').flatMap write = List.replicate count ' ' := by
  rw [List.flatMap_replicate, kept, List.flatten_replicate_singleton]

/-- Every text can stand between double quotes. -/
theorem spells_doubleQuoted (text : List Char) :
    Spells true (text.flatMap doubleQuotedChar) text := by
  induction long : text.length using Nat.strongRecOn generalizing text with
  | ind length inductionHypothesis =>
      obtain ⟨word, more, rfl, noSpace, stops⟩ := exists_run (· != ' ') text
      have each : ∀ c ∈ word, IsSpelled true c := fun c member => by
        simpa [IsSpelled] using noSpace c member
      rcases eq_nil_or_spaces stops with rfl | ⟨count, rest, rfl, rested⟩
      · rw [List.append_nil]
        exact .last each
      · rw [List.flatMap_append, List.flatMap_append, @flatMap_spaces doubleQuotedChar rfl]
        refine .spaces each count (stops_doubleQuoted rested)
          (inductionHypothesis rest.length ?_ rest rfl)
        simp only [← long, List.length_append, List.length_replicate]
        omega

/-! ## Single quotes -/

theorem hasNeighbours_of_append {first second : Char → Bool} {text rest : List Char}
    (free : hasNeighbours first second (text ++ rest) = false) :
    hasNeighbours first second rest = false := by
  induction text with
  | nil => exact free
  | cons c text inductionHypothesis =>
      apply inductionHypothesis
      cases tail : text ++ rest with
      | nil => rfl
      | cons d tail' =>
          rw [List.cons_append, tail] at free
          simp only [hasNeighbours, Bool.or_eq_false_iff] at free
          exact free.2

theorem second_of_hasNeighbours {first second : Char → Bool} {text rest : List Char} {c : Char}
    (free : hasNeighbours first second (text ++ c :: rest) = false) (holds : first c = true) :
    Stops second rest := by
  have tail := hasNeighbours_of_append free
  cases rest with
  | nil => exact stops_nil
  | cons d rest =>
      simp only [hasNeighbours, holds, Bool.true_and, Bool.or_eq_false_iff] at tail
      exact stops_cons tail.1

theorem singleQuotedBody_word {column : Nat} {word more : List Char}
    (each : ∀ c ∈ word, isBreak c = false) :
    singleQuotedBody column false (word ++ more) =
      word.flatMap (spell false) ++ singleQuotedBody column false more := by
  induction word with
  | nil => rfl
  | cons c word inductionHypothesis =>
      have rest := inductionHypothesis fun d member => each d (List.mem_cons_of_mem c member)
      simp [singleQuotedBody, each c List.mem_cons_self, spell, rest]

theorem singleQuotedBody_line {column : Nat} {more : List Char} (stops : Stops isBreak more) :
    singleQuotedBody column true more = indentation column ++ singleQuotedBody column false more := by
  cases more with
  | nil => simp [singleQuotedBody]
  | cons c more => simp [singleQuotedBody, stops.head]

theorem singleQuotedBody_feeds {column : Nat} {feeds more : List Char} (nonempty : feeds ≠ [])
    (each : ∀ c ∈ feeds, isBreak c = true) (stops : Stops isBreak more) (afterBreak : Bool) :
    singleQuotedBody column afterBreak (feeds ++ more) =
      feeds ++ (indentation column ++ singleQuotedBody column false more) := by
  induction feeds generalizing afterBreak with
  | nil => exact absurd rfl nonempty
  | cons c feeds inductionHypothesis =>
      rw [List.cons_append, singleQuotedBody, if_pos (each c List.mem_cons_self)]
      cases feeds with
      | nil => rw [List.nil_append, singleQuotedBody_line stops, List.singleton_append]
      | cons d feeds =>
          rw [inductionHypothesis (List.cons_ne_nil d feeds)
            (fun e member => each e (List.mem_cons_of_mem c member)) true]
          rfl

/-- Texts that single quotes can hold. -/
structure IsSingleQuoted (text : List Char) : Prop where
  printable : ∀ c ∈ text, isPrintable c = true ∧ c ≠ '\n'
  spaceBreak : hasNeighbours (· == ' ') isBreak text = false
  breakSpace : hasNeighbours isBreak (· == ' ') text = false

theorem IsSingleQuoted.rest {text rest : List Char} (quoted : IsSingleQuoted (text ++ rest)) :
    IsSingleQuoted rest where
  printable c member := quoted.printable c (List.mem_append_right text member)
  spaceBreak := hasNeighbours_of_append quoted.spaceBreak
  breakSpace := hasNeighbours_of_append quoted.breakSpace

/-- Behind spaces comes no line break, and behind a line break no space. -/
theorem IsSingleQuoted.stops {first : Char → Bool} {text rest : List Char} {c : Char}
    (quoted : IsSingleQuoted (text ++ c :: rest)) (other : Stops first rest)
    (pair : (first = (· == ' ') ∧ c = ' ') ∨ (first = isBreak ∧ isBreak c = true)) :
    Stops isBlankOrBreak rest := by
  cases rest with
  | nil => exact stops_nil
  | cons d rest =>
      have printable := (quoted.rest.printable d (by simp)).1
      have neighbours : d ≠ ' ' ∧ isBreak d = false := by
        rcases pair with ⟨rfl, rfl⟩ | ⟨rfl, line⟩
        · have next := second_of_hasNeighbours quoted.spaceBreak rfl
          exact ⟨by simpa using other.head, next.head⟩
        · have next := second_of_hasNeighbours quoted.breakSpace line
          exact ⟨by simpa using next.head, other.head⟩
      refine stops_cons (Bool.or_eq_false_iff.mpr ⟨?_, neighbours.2⟩)
      by_contra blank
      exact neighbours.1 (blank_of_isPrintable (Bool.not_eq_false _ ▸ blank) printable)

theorem stops_singleQuotedBody {column : Nat} {text : List Char}
    (stops : Stops isBlankOrBreak text) :
    Stops isBlankOrBreak (singleQuotedBody column false text) := by
  cases text with
  | nil => simpa [singleQuotedBody] using stops_nil
  | cons c text =>
      have visible := stops.head
      have line := (Bool.or_eq_false_iff.mp visible).2
      by_cases quote : c = '\''
      · subst quote
        simpa [singleQuotedBody, line] using stops_cons visible
      · simpa [singleQuotedBody, line, quote] using stops_cons visible

/-- A text that may stand in single quotes is spelled by what is written there. -/
theorem spells_singleQuoted {text : List Char} (quoted : IsSingleQuoted text) (column : Nat) :
    Spells false (singleQuotedBody (column + 1) false text) text := by
  induction long : text.length using Nat.strongRecOn generalizing text with
  | ind length inductionHypothesis =>
      obtain ⟨word, more, rfl, visible, stops⟩ := exists_run (fun c => !isBlankOrBreak c) text
      have each : ∀ c ∈ word, IsSpelled false c := fun c member => by
        simpa [IsSpelled] using visible c member
      have noBreak : ∀ c ∈ word, isBreak c = false := fun c member =>
        (Bool.or_eq_false_iff.mp (each c member)).2
      rw [singleQuotedBody_word noBreak]
      have behind := quoted.rest
      cases more with
      | nil => simpa [singleQuotedBody] using Spells.last each
      | cons c more =>
          have gap : isBlankOrBreak c = true := by simpa using stops.head
          by_cases space : c = ' '
          · subst space
            obtain ⟨count, rest, split, rested⟩ :=
              (eq_nil_or_spaces (stops_cons (by rfl))).resolve_left (List.cons_ne_nil ' ' more)
            rw [split] at behind long ⊢
            have rest' : Stops isBlankOrBreak rest := by
              rw [List.replicate_succ', List.append_assoc] at behind
              exact behind.stops rested (.inl ⟨rfl, rfl⟩)
            rw [singleQuotedBody_word (by simp [isBreak]), @flatMap_spaces (spell false) rfl]
            refine .spaces each count (stops_singleQuotedBody rest')
              (inductionHypothesis rest.length ?_ behind.rest rfl)
            simp only [← long, List.length_append, List.length_replicate]
            omega
          · have line : isBreak c = true := by
              rcases Bool.or_eq_true_iff.mp gap with blank | line
              · exact absurd (blank_of_isPrintable blank (behind.printable c (by simp)).1) space
              · exact line
            obtain ⟨feeds, rest, split, feed, rested⟩ := exists_run isBreak (c :: more)
            have nonempty : feeds ≠ [] := by
              rintro rfl
              rw [List.nil_append] at split
              exact absurd (rested c (by rw [← split]; rfl)) (by simp [line])
            rw [split] at behind long ⊢
            have rest' : Stops isBlankOrBreak rest := by
              have parted := behind
              rw [← List.dropLast_append_getLast nonempty, List.append_assoc] at parted
              exact parted.stops rested (.inr ⟨rfl, feed _ (List.getLast_mem nonempty)⟩)
            rw [singleQuotedBody_feeds nonempty feed (stops_break rest')]
            refine .separators each (fun d member => ?_) nonempty column
              (stops_singleQuotedBody rest') (inductionHypothesis rest.length ?_ behind.rest rfl)
            · have printable := behind.printable d (List.mem_append_left rest member)
              exact separator_of_isBreak (feed d member) printable.1 printable.2
            · have some' := List.length_pos_iff.mpr nonempty
              simp only [← long, List.length_append]
              omega

end ServoLink.Yaml
