import ServoLink.Proofs.Yaml.Cursor
import ServoLink.Yaml.Printer

/-!
# Plain scalars read back

A text without quotes is read word by word, with the spaces between its words, up to the colon of a
key or the line break after a value.
-/

namespace ServoLink.Yaml

/-! ## Words -/

theorem endsWord_append {rest stop : List Char} (nonempty : rest ≠ []) :
    endsWord (rest ++ stop) = endsWord rest := by
  cases rest with
  | nil => exact absurd rfl nonempty
  | cons c rest => rfl

/-- A colon inside a plain text is followed by a visible character of it. -/
theorem colon_of_hasInnerIndicator {c : Char} {rest : List Char}
    (inner : hasInnerIndicator (c :: rest) = false) (stop : List Char) :
    (c == ':' && endsWord (rest ++ stop)) = false := by
  simp only [hasInnerIndicator, Bool.or_eq_false_iff] at inner
  by_cases nonempty : rest = []
  · have letter : c ≠ ':' := by simpa [nonempty, endsWord] using inner.1.1
    simp [letter]
  · simpa [endsWord_append nonempty] using inner.1.1

theorem hasInnerIndicator_of_cons {c : Char} {rest : List Char}
    (inner : hasInnerIndicator (c :: rest) = false) : hasInnerIndicator rest = false := by
  simp only [hasInnerIndicator, Bool.or_eq_false_iff] at inner
  exact inner.2

theorem hasInnerIndicator_of_append {text rest : List Char}
    (inner : hasInnerIndicator (text ++ rest) = false) : hasInnerIndicator rest = false := by
  induction text with
  | nil => exact inner
  | cons c text inductionHypothesis =>
      exact inductionHypothesis (hasInnerIndicator_of_cons inner)

theorem readWord?_append {word more stop : List Char}
    (visible : ∀ c ∈ word, isBlankOrBreak c = false)
    (inner : hasInnerIndicator (word ++ more) = false)
    (ends : readWord? false (more ++ stop) = some []) :
    readWord? false (word ++ (more ++ stop)) = some word := by
  induction word with
  | nil => exact ends
  | cons c word inductionHypothesis =>
      rw [List.cons_append] at inner
      have colon := colon_of_hasInnerIndicator inner stop
      rw [List.append_assoc] at colon
      have read := inductionHypothesis (fun d member => visible d (List.mem_cons_of_mem c member))
        (hasInnerIndicator_of_cons inner)
      simp [readWord?, visible c List.mem_cons_self, colon, read]

/-! ## Plain texts -/

/-- Texts of visible words with single or more spaces between them, and without an indicator
inside. -/
structure IsPlain (text : List Char) : Prop where
  first : ∀ c ∈ text.head?, c ≠ ' ' ∧ c ≠ '#'
  nonempty : text ≠ []
  last : text.getLast? ≠ some ' '
  line : ∀ c ∈ text, c ≠ '\t' ∧ isBreak c = false
  inner : hasInnerIndicator text = false

/-- How reading ends after the last word of a plain text: right there, or after a line break and
the indentation of a line that lies further out. -/
def EndsPlain (indent : Nat) (after finish : Cursor) (broken : Bool) : Prop :=
  readWord? false after.rest = some [] ∧
    ((after.peek.any isBlankOrBreak = false ∧ finish = after ∧ broken = false) ∨
      (after.peek.any isBlankOrBreak = true ∧ finish.column < indent ∧
        ∃ gap, readGap? (some indent) false (after.limit + 1) after {} = some (gap, finish) ∧
          broken = !gap.breaks.isEmpty))

/-- The rest of a plain text after a word and the spaces behind it. -/
theorem IsPlain.rest {word rest : List Char} {count : Nat}
    (plain : IsPlain (word ++ (List.replicate (count + 1) ' ' ++ rest)))
    (stops : Stops (· == ' ') rest) : IsPlain rest := by
  have nonempty : rest ≠ [] := by
    rintro rfl
    apply plain.last
    simp [List.getLast?_append, List.getLast?_replicate]
  have inner : hasInnerIndicator (' ' :: rest) = false := by
    have behind := hasInnerIndicator_of_append plain.inner
    rw [List.replicate_succ', List.append_assoc] at behind
    exact hasInnerIndicator_of_append behind
  have noHash : rest.head? ≠ some '#' := by
    simp only [hasInnerIndicator, Bool.or_eq_false_iff] at inner
    simpa [isBlankOrBreak, isBlank] using inner.1.2
  refine ⟨fun c first => ⟨by simpa using stops c first, ?_⟩, nonempty, ?_, fun c member => ?_,
    hasInnerIndicator_of_cons inner⟩
  · rintro rfl
    exact noHash first
  · intro last
    apply plain.last
    rw [List.getLast?_append, List.getLast?_append, last]
    rfl
  · exact plain.line c (List.mem_append_right _ (List.mem_append_right _ member))

/-- A plain text begins with a word. -/
theorem IsPlain.exists_word {text : List Char} (plain : IsPlain text) :
    ∃ word more, text = word ++ more ∧ word ≠ [] ∧ (∀ c ∈ word, isBlankOrBreak c = false) ∧
      Stops (· != ' ') more := by
  obtain ⟨word, more, rfl, noSpace, stops⟩ := exists_run (· != ' ') text
  refine ⟨word, more, rfl, ?_, fun c member => ?_, stops⟩
  · rintro rfl
    cases more with
    | nil => exact plain.nonempty rfl
    | cons c more =>
        have space : c = ' ' := by simpa using stops.head
        exact (plain.first c rfl).1 space
  · have line := plain.line c (List.mem_append_left more member)
    have space : c ≠ ' ' := by simpa using noSpace c member
    simp [isBlankOrBreak, isBlank, space, line]

section Reading

variable {indent steps : Nat} {cursor finish : Cursor} {word stop read blanks : List Char}
  {broken : Bool}

/-- A text that is no comment and stands behind no marker begins with a word. -/
structure BeginsWord (cursor : Cursor) (word : List Char) : Prop where
  unmarked : cursor.atDocumentMarker = false
  noHash : cursor.startsWith '#' = false
  words : readWord? false cursor.rest = some word
  nonempty : word ≠ []

/-- A plain text has its first word where it stands. -/
theorem IsPlain.beginsWord {more : List Char} (plain : IsPlain (word ++ more))
    (begins : cursor.rest = word ++ (more ++ stop)) (unmarked : cursor.atDocumentMarker = false)
    (nonempty : word ≠ []) (visible : ∀ c ∈ word, isBlankOrBreak c = false)
    (ends : readWord? false (more ++ stop) = some []) : BeginsWord cursor word where
  unmarked
  noHash := by
    obtain ⟨c, word, rfl⟩ := List.exists_cons_of_ne_nil nonempty
    have first := (plain.first c rfl).2
    simpa [Cursor.startsWith, Cursor.peek, begins] using first
  words := by
    rw [begins]
    exact readWord?_append visible plain.inner ends
  nonempty

theorem readPlain?_last (starts : BeginsWord cursor word)
    (ends : EndsPlain indent (cursor.skip word.length) finish broken) :
    readPlain? false indent (steps + 1) cursor read { blanks } =
      some (read ++ blanks ++ word, finish, broken) := by
  have nonempty := starts.nonempty
  rw [readPlain?]
  rcases ends.2 with ⟨stays, rfl, rfl⟩ | ⟨goes, out, gap, next, rfl⟩
  · simp [starts.unmarked, starts.noHash, starts.words, stays, nonempty, Gap.text]
  · rw [Cursor.limit_skip] at next
    simp [starts.unmarked, starts.noHash, starts.words, goes, next, out, nonempty, Gap.text]

theorem readPlain?_spaces {count : Nat} {tail : List Char} (starts : BeginsWord cursor word)
    (behind : (cursor.skip word.length).rest = List.replicate (count + 1) ' ' ++ tail)
    (stops : Stops isBlankOrBreak tail) (enough : count < cursor.limit)
    (inside : indent ≤ (cursor.skip (word.length + (count + 1))).column) :
    readPlain? false indent (steps + 1) cursor read { blanks } =
      readPlain? false indent steps (cursor.skip (word.length + (count + 1)))
        (read ++ blanks ++ word) { blanks := List.replicate (count + 1) ' ' } := by
  have nonempty := starts.nonempty
  have goes : (cursor.skip word.length).peek.any isBlankOrBreak = true := by
    rw [Cursor.peek, behind]
    rfl
  have gap : readGap? (some indent) false (cursor.limit + 1) (cursor.skip word.length) {} =
      some ({ blanks := List.replicate (count + 1) ' ' },
        cursor.skip (word.length + (count + 1))) := by
    rw [← Cursor.skip_skip]
    exact readGap?_spaces behind stops (Nat.succ_lt_succ enough)
  rw [Cursor.column_skip] at inside
  rw [readPlain?]
  simp [starts.unmarked, starts.noHash, starts.words, goes, gap, nonempty, Gap.text,
    Nat.not_lt.mpr inside]

/-- A plain text is read up to its end. -/
theorem readPlain?_eq {text : List Char} (plain : IsPlain text) (begins : cursor.rest = text ++ stop)
    (unmarked : cursor.atDocumentMarker = false) (deep : indent ≤ cursor.column + 1)
    (ends : EndsPlain indent (cursor.skip text.length) finish broken)
    (fits : cursor.rest.length ≤ cursor.limit) (enough : text.length < steps) :
    readPlain? false indent steps cursor read { blanks } =
      some (read ++ blanks ++ text, finish, broken) := by
  induction steps generalizing cursor text read blanks with
  | zero => exact absurd enough (Nat.not_lt_zero _)
  | succ steps inductionHypothesis =>
      obtain ⟨word, more, rfl, nonempty, visible, stops⟩ := plain.exists_word
      rw [List.append_assoc] at begins
      rcases eq_nil_or_spaces stops with rfl | ⟨count, rest, rfl, rested⟩
      · have wordEnds := ends.1
        rw [List.append_nil, Cursor.rest_skip_of_append begins] at wordEnds
        rw [List.append_nil] at ends ⊢
        exact readPlain?_last (plain.beginsWord begins unmarked nonempty visible wordEnds) ends
      · have starts := plain.beginsWord begins unmarked nonempty visible (by
          simp [List.replicate_succ, readWord?, isBlankOrBreak, isBlank])
        have behind := Cursor.rest_skip_of_append begins
        rw [List.append_assoc] at behind
        have further := plain.rest rested
        have bounded := congrArg List.length begins
        simp only [List.length_append, List.length_replicate] at bounded enough
        have word' : Stops isBlankOrBreak (rest ++ stop) := by
          obtain ⟨c, rest, rfl⟩ := List.exists_cons_of_ne_nil further.nonempty
          have line := further.line c List.mem_cons_self
          have space : c ≠ ' ' := by simpa using rested.head
          exact stops_cons (by simp [isBlankOrBreak, isBlank, space, line])
        have long : 0 < word.length := List.length_pos_iff.mpr nonempty
        have onward : (cursor.skip (word.length + (count + 1))).rest = rest ++ stop := by
          rw [← Cursor.skip_skip, Cursor.rest_skip, behind]
          simp
        have column := cursor.column_skip (word.length + (count + 1))
        rw [readPlain?_spaces starts behind word' (by omega) (by omega),
          inductionHypothesis further onward (atDocumentMarker_of_inside (by omega)) (by omega) ?_
            (by rw [onward, Cursor.limit_skip, List.length_append]; omega) (by omega)]
        · simp
        · rw [Cursor.skip_skip, Nat.add_assoc, Nat.add_assoc]
          simpa [Nat.add_assoc] using ends

end Reading

end ServoLink.Yaml
