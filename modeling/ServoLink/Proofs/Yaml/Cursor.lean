import ServoLink.Proofs.Text.Runs
import ServoLink.Yaml.Cursor

/-!
# Positions and gaps

Where reading stands after spaces and line breaks, and what the gap between two words stands for.
-/

namespace ServoLink.Yaml

/-! ## Bytes -/

theorem byteCount_cons (c : Char) (text : List Char) :
    byteCount (c :: text) = c.utf8Size + byteCount text := rfl

theorem byteCount_append (text rest : List Char) :
    byteCount (text ++ rest) = byteCount text + byteCount rest := by
  induction text with
  | nil => simp [byteCount]
  | cons c text inductionHypothesis =>
      rw [List.cons_append, byteCount_cons, byteCount_cons, inductionHypothesis, Nat.add_assoc]

namespace Cursor

/-! ## Moving on -/

@[simp]
theorem rest_skip (cursor : Cursor) (count : Nat) :
    (cursor.skip count).rest = cursor.rest.drop count := rfl

@[simp]
theorem limit_skip (cursor : Cursor) (count : Nat) : (cursor.skip count).limit = cursor.limit := rfl

@[simp]
theorem line_skip (cursor : Cursor) (count : Nat) : (cursor.skip count).line = cursor.line := rfl

@[simp]
theorem column_skip (cursor : Cursor) (count : Nat) :
    (cursor.skip count).column = cursor.column + count := rfl

theorem skip_zero (cursor : Cursor) : cursor.skip 0 = cursor := by
  simp [skip, byteCount]

theorem skip_skip (cursor : Cursor) (first second : Nat) :
    (cursor.skip first).skip second = cursor.skip (first + second) := by
  simp [skip, List.take_add, byteCount_append, Nat.add_assoc]

theorem rest_skip_of_append {cursor : Cursor} {text rest : List Char}
    (begins : cursor.rest = text ++ rest) : (cursor.skip text.length).rest = rest := by
  simp [begins]

theorem index_skip_of_append {cursor : Cursor} {text rest : List Char}
    (begins : cursor.rest = text ++ rest) :
    (cursor.skip text.length).index = cursor.index + byteCount text := by
  simp [skip, begins]

theorem rest_skip_one {cursor : Cursor} {c : Char} {rest : List Char}
    (begins : cursor.rest = c :: rest) : (cursor.skip 1).rest = rest := by
  simp [begins]

theorem peek_of_rest {cursor : Cursor} {c : Char} {rest : List Char}
    (begins : cursor.rest = c :: rest) : cursor.peek = some c := by
  simp [peek, begins]

theorem peek_of_nil {cursor : Cursor} (ends : cursor.rest = []) : cursor.peek = none := by
  simp [peek, ends]

/-- Past a line break other than a carriage return. -/
theorem skipBreak_eq {cursor : Cursor} {c : Char} {rest : List Char}
    (begins : cursor.rest = c :: rest) (single : c ≠ '\r') :
    cursor.skipBreak =
      { cursor with rest, line := cursor.line + 1, column := 0, index := cursor.index + c.utf8Size } := by
  simp only [skipBreak, begins]
  split
  · next pair => exact absurd (List.cons.inj pair).1 single
  · simp [byteCount]

/-- A position that reading comes to later on. -/
structure Past (start finish : Cursor) : Prop where
  limit : finish.limit = start.limit
  line : start.line ≤ finish.line
  length : finish.rest.length ≤ start.rest.length

theorem Past.refl (cursor : Cursor) : Past cursor cursor :=
  ⟨rfl, Nat.le_refl _, Nat.le_refl _⟩

theorem Past.trans {start middle finish : Cursor} (first : Past start middle)
    (second : Past middle finish) : Past start finish :=
  ⟨second.limit.trans first.limit, Nat.le_trans first.line second.line,
    Nat.le_trans second.length first.length⟩

theorem Past.fits {start finish : Cursor} (past : Past start finish)
    (fits : start.rest.length ≤ start.limit) : finish.rest.length ≤ finish.limit := by
  rw [past.limit]
  exact Nat.le_trans past.length fits

theorem past_skip (cursor : Cursor) (count : Nat) : Past cursor (cursor.skip count) :=
  ⟨rfl, Nat.le_refl _, by simp⟩

theorem past_skipBreak {cursor : Cursor} {c : Char} {rest : List Char}
    (begins : cursor.rest = c :: rest) (single : c ≠ '\r') : Past cursor cursor.skipBreak := by
  rw [skipBreak_eq begins single]
  exact ⟨rfl, Nat.le_succ _, by simp [begins]⟩

end Cursor

/-- Markers of documents stand at the beginning of a line. -/
theorem atDocumentMarker_of_inside {cursor : Cursor} (inside : 0 < cursor.column) :
    cursor.atDocumentMarker = false := by
  simp [Cursor.atDocumentMarker, Cursor.atMarker, Nat.pos_iff_ne_zero.mp inside]

/-! ## Gaps -/

/-- Behind a word a text is over or goes on with spaces. -/
theorem eq_nil_or_spaces {more : List Char} (stops : Stops (· != ' ') more) :
    more = [] ∨ ∃ count rest, more = List.replicate (count + 1) ' ' ++ rest ∧
      Stops (· == ' ') rest := by
  obtain ⟨spaces, rest, rfl, all, ends⟩ := exists_run (· == ' ') more
  cases spaces with
  | nil =>
      cases rest with
      | nil => exact .inl rfl
      | cons c rest =>
          have space : c = ' ' := by simpa using stops.head
          have other : c ≠ ' ' := by simpa using ends.head
          exact absurd space other
  | cons space spaces =>
      have same := List.eq_replicate_of_mem fun c member => eq_of_beq (all c member)
      exact .inr ⟨spaces.length, rest, congrArg (· ++ rest) same, ends⟩

/-- The line breaks that are written as they are. -/
def IsFeed (c : Char) : Prop :=
  c = '\n' ∨ c = '\u2028' ∨ c = '\u2029'

theorem IsFeed.isBreak {c : Char} (feed : IsFeed c) : isBreak c = true := by
  rcases feed with rfl | rfl | rfl <;> rfl

theorem IsFeed.single {c : Char} (feed : IsFeed c) : c ≠ '\r' := by
  rcases feed with rfl | rfl | rfl <;> decide

theorem IsFeed.not_blank {c : Char} (feed : IsFeed c) : isBlank c = false := by
  rcases feed with rfl | rfl | rfl <;> rfl

theorem IsFeed.breakChar {c : Char} (feed : IsFeed c) : Cursor.breakChar c = c := by
  rcases feed with rfl | rfl | rfl <;> rfl

/-- Of the line breaks other than the line feed only the separators are printable. -/
theorem separator_of_isBreak {c : Char} (line : isBreak c = true) (printable : isPrintable c = true)
    (feed : c ≠ '\n') : c = '\u2028' ∨ c = '\u2029' := by
  simp only [isBreak, Bool.or_eq_true, beq_iff_eq] at line
  rcases line with (((rfl | rfl) | rfl) | rfl) | rfl
  · exact absurd rfl feed
  · exact absurd printable (by decide)
  · exact absurd printable (by decide)
  · exact .inl rfl
  · exact .inr rfl

theorem blank_of_isPrintable {c : Char} (blank : isBlank c = true) (printable : isPrintable c = true) :
    c = ' ' := by
  simp only [isBlank, Bool.or_eq_true, beq_iff_eq] at blank
  rcases blank with rfl | rfl
  · rfl
  · exact absurd printable (by decide)

theorem tab_of_isPrintable {c : Char} (printable : isPrintable c = true) : c ≠ '\t' := by
  rintro rfl
  exact absurd printable (by decide)

theorem feed_of_isPrintable {c : Char} (line : isBreak c = true) (printable : isPrintable c = true) :
    IsFeed c := by
  by_cases feed : c = '\n'
  · exact .inl feed
  · exact .inr (separator_of_isBreak line printable feed)

theorem stops_blank {tail : List Char} (stops : Stops isBlankOrBreak tail) : Stops isBlank tail :=
  fun c first => (Bool.or_eq_false_iff.mp (stops c first)).1

theorem stops_break {tail : List Char} (stops : Stops isBlankOrBreak tail) : Stops isBreak tail :=
  fun c first => (Bool.or_eq_false_iff.mp (stops c first)).2

section Gaps

variable {indent : Option Nat} {afterBreak : Bool} {steps count : Nat} {cursor : Cursor} {gap : Gap}
  {tail : List Char}

theorem readGap?_end (ends : cursor.rest = tail) (stops : Stops isBlankOrBreak tail) :
    readGap? indent afterBreak (steps + 1) cursor gap = some (gap, cursor) := by
  cases tail with
  | nil => simp [readGap?, Cursor.peek_of_nil ends]
  | cons c tail =>
      simp [readGap?, Cursor.peek_of_rest ends, (stops_blank stops).head, (stops_break stops).head]

theorem readGap?_space {rest : List Char} (first : cursor.rest = ' ' :: rest) :
    readGap? indent afterBreak (steps + 1) cursor gap =
      readGap? indent afterBreak steps (cursor.skip 1)
        (if afterBreak || !gap.breaks.isEmpty then gap
          else { gap with blanks := gap.blanks ++ [' '] }) := by
  simp [readGap?, Cursor.peek_of_rest first, isBlank]

theorem readGap?_feed {c : Char} {rest : List Char} (feed : IsFeed c)
    (first : cursor.rest = c :: rest) :
    readGap? indent afterBreak (steps + 1) cursor gap =
      readGap? indent afterBreak steps cursor.skipBreak
        { gap with breaks := gap.breaks ++ [c] } := by
  simp [readGap?, Cursor.peek_of_rest first, feed.not_blank, feed.isBreak, feed.breakChar]

/-- Spaces in front of the next word of a line count as blanks. -/
theorem readGap?_spaces {blanks : List Char}
    (begins : cursor.rest = List.replicate count ' ' ++ tail)
    (stops : Stops isBlankOrBreak tail) (enough : count < steps) :
    readGap? indent false steps cursor { blanks } =
      some ({ blanks := blanks ++ List.replicate count ' ' }, cursor.skip count) := by
  induction count generalizing steps cursor blanks with
  | zero =>
      obtain ⟨steps, rfl⟩ := Nat.exists_eq_add_one_of_ne_zero (Nat.ne_zero_of_lt enough)
      rw [readGap?_end begins stops]
      simp [Cursor.skip_zero]
  | succ count inductionHypothesis =>
      obtain ⟨steps, rfl⟩ := Nat.exists_eq_add_one_of_ne_zero (Nat.ne_zero_of_lt enough)
      have first : cursor.rest = ' ' :: (List.replicate count ' ' ++ tail) := begins
      have read := @inductionHypothesis steps (cursor.skip 1) (blanks ++ [' '])
        (Cursor.rest_skip_one first) (Nat.lt_of_succ_lt_succ enough)
      rw [readGap?_space first]
      simpa [Cursor.skip_skip, List.replicate_succ, Nat.add_comm] using read

/-- Spaces after a line break count for nothing. -/
theorem readGap?_indentation (begins : cursor.rest = List.replicate count ' ' ++ tail)
    (stops : Stops isBlankOrBreak tail) (broken : gap.breaks ≠ []) (enough : count < steps) :
    readGap? indent afterBreak steps cursor gap = some (gap, cursor.skip count) := by
  induction count generalizing steps cursor with
  | zero =>
      obtain ⟨steps, rfl⟩ := Nat.exists_eq_add_one_of_ne_zero (Nat.ne_zero_of_lt enough)
      rw [readGap?_end begins stops, Cursor.skip_zero]
  | succ count inductionHypothesis =>
      obtain ⟨steps, rfl⟩ := Nat.exists_eq_add_one_of_ne_zero (Nat.ne_zero_of_lt enough)
      have first : cursor.rest = ' ' :: (List.replicate count ' ' ++ tail) := begins
      have read := inductionHypothesis (Cursor.rest_skip_one first)
        (Nat.lt_of_succ_lt_succ enough)
      rw [readGap?_space first]
      simpa [broken, Cursor.skip_skip, Nat.add_comm] using read

/-- Line breaks are kept, and the indentation of the line after them is not. -/
theorem readGap?_feeds (indent : Option Nat) (afterBreak : Bool) (steps : Nat) (gap : Gap)
    {feeds : List Char} (each : ∀ c ∈ feeds, IsFeed c)
    (begins : cursor.rest = feeds ++ (List.replicate count ' ' ++ tail))
    (stops : Stops isBlankOrBreak tail) (broken : gap.breaks ++ feeds ≠ [])
    (enough : feeds.length + count < steps) (start : feeds = [] → cursor.column = 0) :
    ∃ finish, readGap? indent afterBreak steps cursor gap =
        some ({ gap with breaks := gap.breaks ++ feeds }, finish) ∧
      finish.rest = tail ∧ finish.column = count ∧ Cursor.Past cursor finish ∧
      (feeds ≠ [] → cursor.line < finish.line) := by
  induction feeds generalizing steps cursor gap with
  | nil =>
      refine ⟨cursor.skip count, ?_, ?_, ?_, Cursor.past_skip cursor count, nofun⟩
      · rw [List.append_nil] at broken ⊢
        exact readGap?_indentation begins stops broken (by simpa using enough)
      · simp [begins]
      · simp [start rfl]
  | cons c feeds inductionHypothesis =>
      obtain ⟨steps, rfl⟩ := Nat.exists_eq_add_one_of_ne_zero (Nat.ne_zero_of_lt enough)
      have feed : IsFeed c := each c List.mem_cons_self
      have first : cursor.rest = c :: (feeds ++ (List.replicate count ' ' ++ tail)) := begins
      have moved := Cursor.skipBreak_eq first feed.single
      obtain ⟨finish, read, rest, column, past, later⟩ :=
        @inductionHypothesis cursor.skipBreak steps { gap with breaks := gap.breaks ++ [c] }
          (fun d member => each d (List.mem_cons_of_mem c member)) (by rw [moved]) (by simp)
          (by simp at enough; omega) (fun _ => by rw [moved])
      refine ⟨finish, ?_, rest, column, (Cursor.past_skipBreak first feed.single).trans past,
        fun _ => ?_⟩
      · rw [readGap?_feed feed first, read]
        simp
      · have next := past.line
        rw [moved] at next
        exact next

end Gaps

end ServoLink.Yaml
