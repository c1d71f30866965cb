import Mathlib.Data.List.Basic
import ServoLink.Proofs.Yaml.Cursor
import ServoLink.Yaml.Printer

/-!
# Literal blocks read back

A literal block holds a text line by line, each one behind the same indentation.  Its header says
where the indentation cannot be seen from the first line, and what becomes of the line breaks at the
end.
-/

namespace ServoLink.Yaml

/-! ## Lines -/

/-- A line with its content and the line breaks behind it. -/
structure BlockLine where
  content : List Char
  feeds : List Char
  written : content ≠ []
  inline : ∀ c ∈ content, isBreak c = false
  broken : feeds ≠ []
  each : ∀ c ∈ feeds, IsFeed c

/-- The text of lines. -/
def textOfLines (lines : List BlockLine) : List Char :=
  lines.flatMap fun line => line.content ++ line.feeds

/-- Lines behind their indentation. -/
def bodyOfLines (column : Nat) (lines : List BlockLine) : List Char :=
  lines.flatMap fun line => indentation column ++ (line.content ++ line.feeds)

theorem literalBody_content {column : Nat} {content more : List Char}
    (inline : ∀ c ∈ content, isBreak c = false) :
    literalBody column false (content ++ more) = content ++ literalBody column false more := by
  induction content with
  | nil => rfl
  | cons c content inductionHypothesis =>
      have rest := inductionHypothesis fun d member => inline d (List.mem_cons_of_mem c member)
      simp [literalBody, inline c List.mem_cons_self, rest]

theorem literalBody_feeds {column : Nat} {feeds more : List Char} (broken : feeds ≠ [])
    (each : ∀ c ∈ feeds, IsFeed c) (afterBreak : Bool) :
    literalBody column afterBreak (feeds ++ more) = feeds ++ literalBody column true more := by
  induction feeds generalizing afterBreak with
  | nil => exact absurd rfl broken
  | cons c feeds inductionHypothesis =>
      rw [List.cons_append, literalBody, if_pos (each c List.mem_cons_self).isBreak]
      cases feeds with
      | nil => rfl
      | cons d feeds =>
          rw [inductionHypothesis (List.cons_ne_nil d feeds)
            (fun e member => each e (List.mem_cons_of_mem c member)) true]
          rfl

theorem literalBody_lines (column : Nat) (lines : List BlockLine) :
    literalBody column true (textOfLines lines) = bodyOfLines column lines := by
  induction lines with
  | nil => rfl
  | cons line lines inductionHypothesis =>
      obtain ⟨c, content, written⟩ := List.exists_cons_of_ne_nil line.written
      have inline := line.inline
      rw [written] at inline
      have rest : literalBody column false (content ++ (line.feeds ++ textOfLines lines)) = _ :=
        literalBody_content fun d member => inline d (List.mem_cons_of_mem c member)
      rw [literalBody_feeds line.broken line.each, inductionHypothesis] at rest
      simp only [textOfLines, List.flatMap_cons] at rest ⊢
      simp only [written, List.cons_append, List.append_assoc, literalBody,
        inline c List.mem_cons_self, rest, bodyOfLines, List.flatMap_cons]
      simp

theorem head?_textOfLines {lines : List BlockLine} {c : Char}
    (first : (textOfLines lines).head? = some c) : isBreak c = false := by
  cases lines with
  | nil => cases first
  | cons line lines =>
      obtain ⟨d, content, written⟩ := List.exists_cons_of_ne_nil line.written
      have same : d = c := by simpa [textOfLines, written] using first
      exact line.inline c (by simp [written, same])

/-- A text whose last character is a line break consists of lines, behind leading line breaks. -/
theorem exists_lines {text : List Char} (each : ∀ c ∈ text, isBreak c = true → IsFeed c)
    (ends : ∀ c ∈ text.getLast?, isBreak c = true) :
    ∃ leading lines, text = leading ++ textOfLines lines ∧ ∀ c ∈ leading, IsFeed c := by
  induction long : text.length using Nat.strongRecOn generalizing text with
  | ind length inductionHypothesis =>
      obtain ⟨leading, rest, rfl, feeds, stops⟩ := exists_run isBreak text
      have feed : ∀ c ∈ leading, IsFeed c := fun c member =>
        each c (List.mem_append_left rest member) (feeds c member)
      cases rest with
      | nil => exact ⟨leading, [], rfl, feed⟩
      | cons c rest =>
          obtain ⟨content, more, split, inline, stops'⟩ := exists_run (fun c => !isBreak c) (c :: rest)
          have written : content ≠ [] := by
            rintro rfl
            rw [List.nil_append] at split
            have other := stops' c (by rw [← split]; rfl)
            simp [stops.head] at other
          have goes : more ≠ [] := by
            rintro rfl
            rw [List.append_nil] at split
            have last := ends (content.getLast written) 
              (by simp [split, List.getLast?_eq_some_getLast written])
            simpa [last] using inline _ (List.getLast_mem written)
          rw [split] at each ends long ⊢
          obtain ⟨behind, lines, same, broken⟩ := @inductionHypothesis more.length
            (by
              have some' := List.length_pos_iff.mpr written
              simp only [← long, List.length_append]
              omega)
            more (fun d member => each d (by simp [member]))
            (fun d last => ends d (by
              rw [List.getLast?_append, List.getLast?_append, Option.mem_def.mp last]
              rfl)) rfl
          have nonempty : behind ≠ [] := by
            rintro rfl
            obtain ⟨d, more, rfl⟩ := List.exists_cons_of_ne_nil goes
            have first : (textOfLines lines).head? = some d := (congrArg List.head? same).symm
            have line : isBreak d = true := by simpa using stops'.head
            simp [head?_textOfLines first] at line
          refine ⟨leading, ⟨content, behind, written, fun d member => by
            simpa using inline d member, nonempty, broken⟩ :: lines, ?_, feed⟩
          rw [same]
          simp [textOfLines]

/-! ## Indentation -/

/-- What may follow the indentation of a line. -/
structure BeginsLine (tail : List Char) : Prop where
  noBreak : Stops isBreak tail
  noTab : Stops (· == '\t') tail

/-- Whether of the spaces in front of a line as many are indentation: all that are asked for, or
all that there are. -/
def TakesIndentation (indent count : Nat) (tail : List Char) : Prop :=
  (count = indent ∧ 0 < indent) ∨ (count < indent ∨ indent = 0) ∧ Stops (· == ' ') tail

section Reading

variable {indent count : Nat} {tail : List Char}

theorem TakesIndentation.width (taken : TakesIndentation indent count tail) :
    (if indent = 0 then ((List.replicate count ' ' ++ tail).takeWhile (· == ' ')).length
      else min ((List.replicate count ' ' ++ tail).takeWhile (· == ' ')).length (indent - 0)) =
        count := by
  have all : ∀ c ∈ List.replicate count ' ', (c == ' ') = true := fun c member => by
    simp [List.eq_of_mem_replicate member]
  rcases taken with ⟨rfl, positive⟩ | ⟨shallow, stops⟩
  · rw [List.takeWhile_append_of_pos all]
    simp [Nat.pos_iff_ne_zero.mp positive]
  · rw [takeWhile_run all stops, List.length_replicate]
    split_ifs
    · rfl
    · omega

/-- The line breaks in front of a line are collected, and its indentation is passed over. -/
theorem readBlockBreaks?_eq {steps deepest : Nat} {cursor : Cursor} {breaks feeds : List Char}
    (each : ∀ c ∈ feeds, IsFeed c)
    (begins : cursor.rest = feeds ++ (List.replicate count ' ' ++ tail))
    (start : cursor.column = 0) (line : BeginsLine tail)
    (taken : TakesIndentation indent count tail) (enough : feeds.length < steps) :
    ∃ finish, readBlockBreaks? indent steps cursor breaks deepest =
        some (breaks ++ feeds, max deepest count, finish) ∧
      finish.rest = tail ∧ finish.column = count ∧ Cursor.Past cursor finish := by
  induction feeds generalizing steps cursor breaks deepest with
  | nil =>
      obtain ⟨steps, rfl⟩ := Nat.exists_eq_add_one_of_ne_zero (Nat.ne_zero_of_lt enough)
      have width := taken.width
      have behind : (cursor.skip count).rest = tail := by simp [begins]
      refine ⟨cursor.skip count, ?_, behind, by simp [start], Cursor.past_skip cursor count⟩
      rw [readBlockBreaks?]
      simp only [begins, List.nil_append, start, width]
      cases tail with
      | nil => simp [Cursor.peek_of_nil behind, start]
      | cons c tail =>
          have noTab : c ≠ '\t' := by simpa using line.noTab.head
          simp [Cursor.peek_of_rest behind, start, noTab, line.noBreak.head]
  | cons c feeds inductionHypothesis =>
      obtain ⟨steps, rfl⟩ := Nat.exists_eq_add_one_of_ne_zero (Nat.ne_zero_of_lt enough)
      have feed : IsFeed c := each c List.mem_cons_self
      have first : cursor.rest = c :: (feeds ++ (List.replicate count ' ' ++ tail)) := begins
      have moved := Cursor.skipBreak_eq first feed.single
      have noSpace : c ≠ ' ' := by
        rintro rfl
        exact absurd feed.isBreak (by decide)
      have noTab : c ≠ '\t' := by
        rintro rfl
        exact absurd feed.isBreak (by decide)
      obtain ⟨finish, read, rest, column, past⟩ :=
        @inductionHypothesis steps deepest cursor.skipBreak (breaks ++ [c])
          (fun d member => each d (List.mem_cons_of_mem c member)) (by rw [moved])
          (by rw [moved]) (Nat.lt_of_succ_lt_succ enough)
      refine ⟨finish, ?_, rest, column, (Cursor.past_skipBreak first feed.single).trans past⟩
      rw [readBlockBreaks?]
      simp [first, noSpace, noTab, feed.isBreak, feed.breakChar, Cursor.skip_zero, read, start,
        Cursor.peek_of_rest first]

end Reading

/-! ## Lines of a block -/

/-- What has been read of a block: lines, the line break behind them, and the empty lines behind
that. -/
structure BlockParts where
  text : List Char := []
  ending : List Char := []
  breaks : List Char := []

namespace BlockParts

/-- With one more line. -/
def add (parts : BlockParts) (line : BlockLine) : BlockParts where
  text := parts.text ++ parts.ending ++ parts.breaks ++ line.content
  ending := line.feeds.take 1
  breaks := line.feeds.drop 1

def whole (parts : BlockParts) : List Char :=
  parts.text ++ (parts.ending ++ parts.breaks)

theorem whole_eq (parts : BlockParts) :
    parts.whole = parts.text ++ parts.ending ++ parts.breaks := by
  simp [whole]

theorem whole_add (parts : BlockParts) (line : BlockLine) :
    (parts.add line).whole = parts.whole ++ (line.content ++ line.feeds) := by
  simp only [whole, add, List.append_assoc, List.take_append_drop]

theorem whole_foldl (parts : BlockParts) (lines : List BlockLine) :
    (lines.foldl add parts).whole = parts.whole ++ textOfLines lines := by
  induction lines generalizing parts with
  | nil => simp [textOfLines]
  | cons line lines inductionHypothesis =>
      rw [List.foldl_cons, inductionHypothesis, whole_add]
      simp [textOfLines]

/-- Line breaks only stand behind the lines, the first of them right behind the last line. -/
structure Trimmed (parts : BlockParts) : Prop where
  stem : ∀ c ∈ parts.text.getLast?, isBreak c = false
  run : ∀ c ∈ parts.ending ++ parts.breaks, isBreak c = true
  single : (parts.text = [] ∧ parts.ending = []) ∨ (∃ c, parts.ending = [c])

theorem trimmed_add (parts : BlockParts) (line : BlockLine) : (parts.add line).Trimmed := by
  obtain ⟨c, feeds, broken⟩ := List.exists_cons_of_ne_nil line.broken
  refine ⟨fun d last => ?_, fun d member => ?_, .inr ⟨c, by simp [add, broken]⟩⟩
  · refine line.inline d (List.mem_of_getLast? ?_)
    simpa [add, line.written] using last
  · rw [add, List.take_append_drop] at member
    exact (line.each d member).isBreak

theorem trimmed_foldl {parts : BlockParts} (trimmed : parts.Trimmed) (lines : List BlockLine) :
    (lines.foldl add parts).Trimmed := by
  induction lines generalizing parts with
  | nil => exact trimmed
  | cons line lines inductionHypothesis => exact inductionHypothesis (parts.trimmed_add line)

end BlockParts

/-! ## Reading lines -/

section Lines

variable {column outer : Nat} {tail : List Char}

/-- The column at which a line begins, or what follows behind the last line. -/
def lineColumn (column outer : Nat) (lines : List BlockLine) : Nat :=
  if lines.isEmpty then outer else column

/-- Lines without the indentation of the first, in front of what follows at a column further out. -/
def lineRest (column outer : Nat) (tail : List Char) : List BlockLine → List Char
  | [] => tail
  | line :: lines =>
      line.content ++ (line.feeds ++
        (indentation (lineColumn column outer lines) ++ lineRest column outer tail lines))

theorem bodyOfLines_append (lines : List BlockLine) :
    bodyOfLines column lines ++ (indentation outer ++ tail) =
      indentation (lineColumn column outer lines) ++ lineRest column outer tail lines := by
  induction lines with
  | nil => rfl
  | cons line lines inductionHypothesis =>
      have more : bodyOfLines column (line :: lines) =
          indentation column ++ (line.content ++ line.feeds) ++ bodyOfLines column lines := rfl
      simp [more, inductionHypothesis, lineRest, lineColumn]

theorem beginsLine_lineRest {lines : List BlockLine}
    (visible : ∀ line ∈ lines, ∀ c ∈ line.content, c ≠ '\t') (begins : BeginsLine tail) :
    BeginsLine (lineRest column outer tail lines) := by
  cases lines with
  | nil => exact begins
  | cons line lines =>
      obtain ⟨c, content, written⟩ := List.exists_cons_of_ne_nil line.written
      have member : c ∈ line.content := by simp [written]
      have tab := visible line List.mem_cons_self c member
      rw [lineRest, written]
      exact ⟨stops_cons (line.inline c member), stops_cons (by simpa using tab)⟩

theorem length_le_lineRest (column outer : Nat) (tail : List Char) (lines : List BlockLine) :
    lines.length ≤ (lineRest column outer tail lines).length := by
  induction lines with
  | nil => exact Nat.zero_le _
  | cons line lines inductionHypothesis =>
      have long := List.length_pos_iff.mpr line.written
      simp only [lineRest, List.length_append, List.length_cons]
      omega

/-- With an indentation that is known, it is taken in full in front of each line, and what there is
of it in front of what follows. -/
theorem takesIndentation_lineRest (lines : List BlockLine) (out : outer < column)
    (stops : Stops (· == ' ') tail) :
    TakesIndentation column (lineColumn column outer lines) (lineRest column outer tail lines) := by
  cases lines with
  | nil => exact .inr ⟨.inl out, stops⟩
  | cons line lines => exact .inl ⟨rfl, Nat.zero_lt_of_lt out⟩

/-- A line of a block is read up to where the next one begins. -/
theorem exists_readBlockLines?_add {cursor : Cursor} {first : BlockLine} {lines : List BlockLine}
    (visible : ∀ line ∈ lines, ∀ c ∈ line.content, c ≠ '\t')
    (begins : cursor.rest = lineRest column outer tail (first :: lines))
    (level : cursor.column = column) (line : BeginsLine tail) (stops : Stops (· == ' ') tail)
    (out : outer < column) (fits : cursor.rest.length ≤ cursor.limit) :
    ∃ next blank', (∀ (steps : Nat) (parts : BlockParts) (blank : Bool),
        readBlockLines? true column (steps + 1) cursor parts.text parts.ending parts.breaks blank =
          readBlockLines? true column steps next (parts.add first).text (parts.add first).ending
            (parts.add first).breaks blank') ∧
      next.rest = lineRest column outer tail lines ∧
      next.column = lineColumn column outer lines ∧ Cursor.Past cursor next := by
  obtain ⟨c, content, written⟩ := List.exists_cons_of_ne_nil first.written
  obtain ⟨d, feeds, broken⟩ := List.exists_cons_of_ne_nil first.broken
  have feed : IsFeed d := first.each d (by simp [broken])
  have peeked : cursor.peek = some c := by
    simp [Cursor.peek, begins, lineRest, written]
  have inline : cursor.rest.takeWhile (fun c => !isBreak c) = first.content := by
    rw [begins, lineRest, broken]
    refine takeWhile_run (fun e member => by simp [first.inline e member]) (stops_cons ?_)
    simp [feed.isBreak]
  have behind : (cursor.skip first.content.length).rest = d :: (feeds ++
      (indentation (lineColumn column outer lines) ++ lineRest column outer tail lines)) :=
    Cursor.rest_skip_of_append (by rw [begins, lineRest, broken]; rfl)
  have moved := Cursor.skipBreak_eq behind feed.single
  have bounded := congrArg List.length begins
  simp only [lineRest, broken, List.length_append, List.length_cons] at bounded
  have around : Cursor.Past cursor (cursor.skip first.content.length).skipBreak :=
    (Cursor.past_skip cursor first.content.length).trans
      (Cursor.past_skipBreak behind feed.single)
  obtain ⟨next, breaks, rest, place, past⟩ :=
    @readBlockBreaks?_eq column (lineColumn column outer lines) (lineRest column outer tail lines)
      (cursor.limit + 1) 0 (cursor.skip first.content.length).skipBreak [] feeds
      (fun e member => first.each e (by simp [broken, member])) (by rw [moved]; rfl)
      (by rw [moved]) (beginsLine_lineRest visible line) (takesIndentation_lineRest lines out stops)
      (by omega)
  refine ⟨next, isBlank c, fun steps parts blank => ?_, rest, place, around.trans past⟩
  have limit : ((cursor.skip first.content.length).skipBreak).limit = cursor.limit := around.limit
  rw [readBlockLines?]
  simp [peeked, level, inline, Cursor.peek_of_rest behind, limit, breaks, feed.breakChar,
    BlockParts.add, broken]

/-- The lines of a block are read up to a line further out. -/
theorem readBlockLines?_eq {steps : Nat} {cursor : Cursor} {lines : List BlockLine} {blank : Bool}
    (parts : BlockParts) (visible : ∀ line ∈ lines, ∀ c ∈ line.content, c ≠ '\t')
    (begins : cursor.rest = lineRest column outer tail lines)
    (stands : cursor.column = lineColumn column outer lines)
    (line : BeginsLine tail) (stops : Stops (· == ' ') tail) (out : outer < column)
    (fits : cursor.rest.length ≤ cursor.limit) (enough : lines.length < steps) :
    ∃ finish, readBlockLines? true column steps cursor parts.text parts.ending parts.breaks blank =
        some ((lines.foldl BlockParts.add parts).text, (lines.foldl BlockParts.add parts).ending,
          (lines.foldl BlockParts.add parts).breaks, finish) ∧
      finish.rest = tail ∧ finish.column = outer ∧ Cursor.Past cursor finish := by
  induction lines generalizing steps cursor parts blank with
  | nil =>
      obtain ⟨steps, rfl⟩ := Nat.exists_eq_add_one_of_ne_zero (Nat.ne_zero_of_lt enough)
      refine ⟨cursor, ?_, begins, stands, Cursor.Past.refl cursor⟩
      have shallow : cursor.column ≠ column := by
        rw [stands]
        exact Nat.ne_of_lt out
      rw [readBlockLines?]
      cases cursor.peek with
      | none => rfl
      | some c => simp [shallow]
  | cons first lines inductionHypothesis =>
      obtain ⟨steps, rfl⟩ := Nat.exists_eq_add_one_of_ne_zero (Nat.ne_zero_of_lt enough)
      have later := fun more member => visible more (List.mem_cons_of_mem first member)
      obtain ⟨next, blank', step, rest, place, past⟩ :=
        exists_readBlockLines?_add later begins stands line stops out fits
      obtain ⟨finish, read, stopped, stood, beyond⟩ :=
        @inductionHypothesis steps next blank' (parts.add first) later rest place (past.fits fits)
          (Nat.lt_of_succ_lt_succ enough)
      exact ⟨finish, (step steps parts blank).trans read, stopped, stood, past.trans beyond⟩

end Lines

/-! ## Headers -/

/-- What is to become of the line breaks at the end of a text. -/
def chompingOf (text : List Char) : Chomping :=
  if !text.reverse.head?.any isBreak then .strip
  else if text.reverse.tail.isEmpty || text.reverse.tail.head?.any isBreak then .keep
  else .clip

def Chomping.sign : Chomping → List Char
  | .strip => ['-']
  | .clip => []
  | .keep => ['+']

def widthOf (text : List Char) : Option Nat :=
  if beginsWithBlankSpace text then some 2 else none

theorem literalHeader_eq (text : List Char) :
    literalHeader text =
      '|' :: ((if beginsWithBlankSpace text then ['2'] else []) ++
        ((chompingOf text).sign ++ ['\n'])) := by
  simp only [literalHeader, chompingOf]
  split_ifs
  all_goals rfl

theorem readBlockHeader?_eq {cursor : Cursor} {text more : List Char}
    (begins : '|' :: cursor.rest = literalHeader text ++ more) :
    ∃ finish, readBlockHeader? cursor = some (chompingOf text, widthOf text, finish) ∧
      finish.rest = '\n' :: more ∧ Cursor.Past cursor finish := by
  have rest : cursor.rest = (if beginsWithBlankSpace text then ['2'] else []) ++
      ((chompingOf text).sign ++ '\n' :: more) := by
    rw [literalHeader_eq] at begins
    simpa using begins
  refine ⟨cursor.skip ((if beginsWithBlankSpace text then ['2'] else []) ++
    (chompingOf text).sign).length, ?_, ?_, Cursor.past_skip cursor _⟩
  · have digit : Char.isDigit '2' = true := rfl
    have feed : Char.isDigit '\n' = false := rfl
    by_cases hint : beginsWithBlankSpace text = true
    · rw [if_pos hint] at rest ⊢
      cases style : chompingOf text
      all_goals
        rw [style] at rest
        simp [readBlockHeader?, Cursor.peek, rest, Chomping.sign, digit, widthOf, hint,
          Cursor.skip_skip]
    · rw [if_neg hint] at rest ⊢
      cases style : chompingOf text
      all_goals
        rw [style] at rest
        simp [readBlockHeader?, Cursor.peek, rest, Chomping.sign, feed, widthOf, hint,
          Cursor.skip_zero]
  · exact Cursor.rest_skip_of_append (by rw [rest, List.append_assoc])

/-- What a block scalar stands for. -/
def BlockParts.chomped (parts : BlockParts) : Chomping → List Char
  | .strip => parts.text
  | .clip => parts.text ++ parts.ending
  | .keep => parts.text ++ parts.ending ++ parts.breaks

/-- Behind a text that does not end in a line break there is just the one that ends its line. -/
theorem BlockParts.stem_eq {stem run text : List Char} (stops : ∀ c ∈ stem.getLast?, isBreak c = false)
    (breaks : ∀ c ∈ run, isBreak c = true) (whole : stem ++ run = text ++ ['\n'])
    (goes : text.getLast?.any isBreak = false) : stem = text := by
  rcases List.eq_nil_or_concat' run with rfl | ⟨run, last, rfl⟩
  · have feed : stem.getLast? = some '\n' := by
      rw [List.append_nil] at whole
      simp [whole]
    exact absurd (stops '\n' feed) (by decide)
  · rw [← List.append_assoc] at whole
    obtain ⟨same, _⟩ := List.append_inj' whole rfl
    rcases List.eq_nil_or_concat' run with rfl | ⟨run, c, rfl⟩
    · simpa using same
    · have line : isBreak c = true := breaks c (by simp)
      rw [← same, ← List.append_assoc] at goes
      simp [line] at goes

/-- Behind the last line of a text that ends in a single line break there is no empty one. -/
theorem BlockParts.breaks_eq_nil {parts : BlockParts} {text : List Char} {last : Char}
    (trimmed : parts.Trimmed) (whole : parts.whole = text ++ [last]) (nonempty : text ≠ [])
    (inline : text.getLast?.any isBreak = false) : parts.breaks = [] := by
  rcases List.eq_nil_or_concat' parts.breaks with none | ⟨breaks, c, more⟩
  · exact none
  · rw [whole_eq, more, ← List.append_assoc] at whole
    obtain ⟨same, _⟩ := List.append_inj' whole rfl
    have member : ∀ d ∈ parts.ending ++ breaks, isBreak d = true := fun d member =>
      trimmed.run d (by rcases List.mem_append.mp member with first | second <;> simp [*])
    have nothing : parts.ending ++ breaks = [] := by
      rcases List.eq_nil_or_concat' (parts.ending ++ breaks) with none | ⟨front, d, split⟩
      · exact none
      · have line : isBreak d = true := member d (by simp [split])
        rw [← same, List.append_assoc, split, ← List.append_assoc] at inline
        simp [line] at inline
    obtain ⟨noEnding, -⟩ := List.append_eq_nil_iff.mp nothing
    rcases trimmed.single with ⟨noText, -⟩ | ⟨d, ending⟩
    · rw [List.append_assoc, nothing, noText] at same
      exact absurd same.symm nonempty
    · rw [ending] at noEnding
      cases noEnding

theorem chompingOf_append (text : List Char) (last : Char) :
    chompingOf (text ++ [last]) =
      if isBreak last then if text.isEmpty || text.getLast?.any isBreak then .keep else .clip
      else .strip := by
  have front : (text ++ [last]).reverse = last :: text.reverse := by simp
  simp only [chompingOf, front, List.head?_cons, List.tail_cons, Option.any_some,
    List.isEmpty_reverse, List.head?_reverse, Bool.not_eq_true']
  by_cases line : isBreak last = true
  all_goals simp [line]

/-- A text is what its chomping makes of its lines. -/
theorem BlockParts.chomped_eq {parts : BlockParts} {text : List Char} (trimmed : parts.Trimmed)
    (whole : parts.whole = endLine text) : parts.chomped (chompingOf text) = text := by
  by_cases ends : text.getLast?.any isBreak = true
  · rw [endLine, if_pos ends] at whole
    rcases List.eq_nil_or_concat' text with rfl | ⟨front, last, rfl⟩
    · cases ends
    · have line : isBreak last = true := by simpa using ends
      rw [chompingOf_append, if_pos line]
      by_cases inline : front ≠ [] ∧ front.getLast?.any isBreak = false
      · have none := breaks_eq_nil trimmed whole inline.1 inline.2
        rw [BlockParts.whole, none, List.append_nil] at whole
        simp [inline.1, inline.2, chomped, whole]
      · have keep : (front.isEmpty || front.getLast?.any isBreak) = true := by
          simpa [or_iff_not_imp_left] using inline
        rw [if_pos keep, ← whole, whole_eq]
        rfl
  · rw [endLine, if_neg ends] at whole
    have strip : chompingOf text = .strip := by simp [chompingOf, ends]
    rw [strip]
    exact stem_eq trimmed.stem trimmed.run whole (Bool.eq_false_iff.mpr ends)

/-! ## Whole blocks -/

/-- Texts that a literal block can hold. -/
structure IsLiteral (text : List Char) : Prop where
  nonempty : text ≠ []
  printable : ∀ c ∈ text, isPrintable c = true

theorem endLine_concat (text : List Char) (last : Char) :
    endLine (text ++ [last]) = text ++ [last] ++ if isBreak last then [] else ['\n'] := by
  by_cases line : isBreak last = true
  all_goals simp [endLine, line]

theorem endLine_cons (c d : Char) (text : List Char) :
    endLine (c :: d :: text) = c :: endLine (d :: text) := by
  rw [endLine, endLine, List.getLast?_cons_cons]
  split_ifs
  all_goals rfl

/-- The last character of a block is that of its text. -/
theorem literalBody_concat (column : Nat) (afterBreak : Bool) (text : List Char) (last : Char) :
    ∃ body, literalBody column afterBreak (text ++ [last]) = body ++ [last] ∧
      literalBody column afterBreak (text ++ [last, '\n']) = body ++ [last, '\n'] := by
  induction text generalizing afterBreak with
  | nil =>
      by_cases line : isBreak last = true
      · exact ⟨[], by simp [literalBody, line, show isBreak '\n' = true from rfl]⟩
      · exact ⟨if afterBreak then indentation column else [], by
          simp [literalBody, line, show isBreak '\n' = true from rfl]⟩
  | cons c text inductionHypothesis =>
      obtain ⟨body, written, ended⟩ := inductionHypothesis (isBreak c)
      by_cases line : isBreak c = true
      · rw [line] at written ended
        exact ⟨c :: body, by simp [literalBody, line, written, ended]⟩
      · rw [Bool.eq_false_iff.mpr line] at written ended
        exact ⟨(if afterBreak then indentation column else []) ++ c :: body, by
          simp [literalBody, line, written, ended]⟩

/-- A block ends its line as its text does. -/
theorem endLine_literal {text : List Char} (nonempty : text ≠ []) (column : Nat)
    (header : List Char) :
    endLine (header ++ literalBody column true text) =
      header ++ literalBody column true (endLine text) := by
  obtain ⟨front, last, rfl⟩ := (List.eq_nil_or_concat' text).resolve_left nonempty
  obtain ⟨body, written, ended⟩ := literalBody_concat column true front last
  rw [written, ← List.append_assoc, endLine_concat, endLine_concat]
  by_cases line : isBreak last = true
  · simp [line, written]
  · simp [line, ended]

theorem exists_body {text : List Char} (literal : IsLiteral text) (column : Nat) :
    ∃ leading lines, endLine text = leading ++ textOfLines lines ∧ (∀ c ∈ leading, IsFeed c) ∧
      literalBody column true (endLine text) = leading ++ bodyOfLines column lines := by
  have each : ∀ c ∈ endLine text, isBreak c = true → IsFeed c := fun c member line => by
    rw [endLine] at member
    split_ifs at member
    · exact feed_of_isPrintable line (literal.printable c member)
    · rcases List.mem_append.mp member with inside | last
      · exact feed_of_isPrintable line (literal.printable c inside)
      · exact .inl (List.mem_singleton.mp last)
  have ends : ∀ c ∈ (endLine text).getLast?, isBreak c = true := fun c last => by
    rw [endLine] at last
    split_ifs at last with goes
    · rw [Option.mem_def.mp last] at goes
      exact goes
    · have feed : c = '\n' := by simpa using last.symm
      exact feed ▸ rfl
  obtain ⟨leading, lines, whole, feeds⟩ := exists_lines each ends
  refine ⟨leading, lines, whole, feeds, ?_⟩
  rw [whole, ← literalBody_lines]
  cases leading with
  | nil => rfl
  | cons c leading => exact literalBody_feeds (List.cons_ne_nil c leading) feeds true

/-- Without a hint the indentation is that of the first line, which does not begin with a space. -/
theorem takesIndentation_first {text leading tail : List Char} {lines : List BlockLine}
    {column outer : Nat} (nonempty : text ≠ []) (feeds : ∀ c ∈ leading, IsFeed c)
    (whole : endLine text = leading ++ textOfLines lines)
    (visible : beginsWithBlankSpace text = false) :
    lineColumn column outer lines = column ∧
      Stops (· == ' ') (lineRest column outer tail lines) := by
  obtain ⟨c, text, rfl⟩ := List.exists_cons_of_ne_nil nonempty
  have head : c ≠ ' ' ∧ isBreak c = false := by simpa [beginsWithBlankSpace] using visible
  have first : (leading ++ textOfLines lines).head? = some c := by
    rw [← whole, endLine]
    split_ifs
    all_goals rfl
  cases leading with
  | cons d leading =>
      have same : d = c := by simpa using first
      have feed := (feeds d List.mem_cons_self).isBreak
      rw [same, head.2] at feed
      cases feed
  | nil =>
      cases lines with
      | nil => cases first
      | cons line lines =>
          obtain ⟨d, content, written⟩ := List.exists_cons_of_ne_nil line.written
          have same : d = c := by simpa [textOfLines, written] using first
          refine ⟨rfl, ?_⟩
          rw [lineRest, written, same]
          exact stops_cons (by simpa using head.1)

/-- The indentation of a block is known from its header or from its first line. -/
theorem takesIndentation_header {text leading tail : List Char} {lines : List BlockLine}
    {parent outer : Nat} (nonempty : text ≠ []) (feeds : ∀ c ∈ leading, IsFeed c)
    (whole : endLine text = leading ++ textOfLines lines) (out : outer < parent + 2)
    (stops : Stops (· == ' ') tail) :
    TakesIndentation (((widthOf text).map (parent + ·)).getD 0)
        (lineColumn (parent + 2) outer lines) (lineRest (parent + 2) outer tail lines) ∧
      ((widthOf text).map (parent + ·)).getD
        (max (max (max 0 (lineColumn (parent + 2) outer lines)) (parent + 1)) 1) = parent + 2 := by
  by_cases hint : beginsWithBlankSpace text = true
  · rw [widthOf, if_pos hint]
    exact ⟨takesIndentation_lineRest lines out stops, rfl⟩
  · rw [widthOf, if_neg hint]
    obtain ⟨level, inside⟩ := @takesIndentation_first text leading tail lines (parent + 2) outer
      nonempty feeds whole (Bool.eq_false_iff.mpr hint)
    refine ⟨.inr ⟨.inr rfl, inside⟩, ?_⟩
    simp [level]

theorem mem_endLine {text : List Char} {c : Char} (member : c ∈ endLine text) :
    c ∈ text ∨ c = '\n' := by
  rw [endLine] at member
  split_ifs at member
  · exact .inl member
  · simpa using member

/-- A literal block is read up to a line further out. -/
theorem readBlock?_eq {text tail : List Char} {cursor : Cursor} {parent outer : Nat}
    (literal : IsLiteral text)
    (begins : '|' :: cursor.rest = literalHeader text ++
      (literalBody (parent + 2) true (endLine text) ++ (indentation outer ++ tail)))
    (out : outer < parent + 2) (line : BeginsLine tail) (stops : Stops (· == ' ') tail)
    (fits : cursor.rest.length ≤ cursor.limit) :
    ∃ finish, readBlock? true (some parent) cursor = some (text, finish) ∧ finish.rest = tail ∧
      finish.column = outer ∧ Cursor.Past cursor finish := by
  obtain ⟨behind, header, rest, past⟩ := readBlockHeader?_eq begins
  obtain ⟨leading, lines, whole, feeds, body⟩ := exists_body literal (parent + 2)
  rw [body, List.append_assoc, bodyOfLines_append] at rest
  have blanks : behind.skipWhile isBlank = behind := by
    simp [Cursor.skipWhile, rest, isBlank, Cursor.skip_zero]
  have comment : behind.skipComment = behind := by
    simp [Cursor.skipComment, Cursor.startsWith, Cursor.peek_of_rest rest]
  have moved := Cursor.skipBreak_eq rest (by decide)
  have around := past.trans (Cursor.past_skipBreak rest (by decide))
  have visible : ∀ line ∈ lines, ∀ c ∈ line.content, c ≠ '\t' := fun line member c inside => by
    have found : c ∈ endLine text := by
      rw [whole]
      exact List.mem_append_right _ (List.mem_flatMap.mpr
        ⟨line, member, List.mem_append_left _ inside⟩)
    rcases mem_endLine found with first | rfl
    · exact tab_of_isPrintable (literal.printable c first)
    · decide
  obtain ⟨taken, level⟩ := takesIndentation_header literal.nonempty feeds whole out stops
  have length := around.length
  rw [moved] at length
  simp only [List.length_append] at length
  obtain ⟨next, breaks, nextRest, place, nextPast⟩ :=
    @readBlockBreaks?_eq _ _ _ (behind.limit + 1) 0 behind.skipBreak [] leading feeds
      (by rw [moved]; rfl) (by rw [moved]) (beginsLine_lineRest visible line) taken
      (by rw [past.limit]; omega)
  have forward := around.trans nextPast
  have remaining := forward.length
  rw [nextRest] at remaining
  have count := length_le_lineRest (parent + 2) outer tail lines
  obtain ⟨finish, read, stopped, stood, beyond⟩ :=
    @readBlockLines?_eq _ _ _ (next.limit + 1) next lines false { breaks := leading } visible
      nextRest place line stops out (by rw [nextRest, forward.limit]; omega)
      (by rw [forward.limit]; omega)
  refine ⟨finish, ?_, stopped, stood, forward.trans beyond⟩
  have trimmed : ({ breaks := leading } : BlockParts).Trimmed :=
    ⟨fun c last => absurd last (by simp), fun c member => (feeds c member).isBreak, .inl ⟨rfl, rfl⟩⟩
  have chomped := BlockParts.chomped_eq (BlockParts.trimmed_foldl trimmed lines)
    ((BlockParts.whole_foldl _ lines).trans whole.symm)
  have onward : behind.skipBreak.limit = behind.limit := by rw [moved]
  simp only [List.nil_append] at breaks
  simp only [readBlock?, header, Option.bind_eq_bind, Option.bind_some, blanks, comment,
    Cursor.peek_of_rest rest, show isBreak '\n' = true from rfl, if_true, Option.getD_some, onward,
    breaks, level]
  rw [read, Option.bind_some]
  generalize chompingOf text = style at chomped
  cases style
  all_goals rw [← chomped]; rfl

end ServoLink.Yaml
