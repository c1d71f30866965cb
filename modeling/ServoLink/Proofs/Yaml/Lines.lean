import ServoLink.Proofs.Yaml.Flow
import ServoLink.Proofs.Yaml.Keys

/-!
# Values and entries line by line

A value ends in front of the next line, which lies at the column of its entry or further out.  So
the entries of a collection follow one another, and a collection further in ends with the last of
them.
-/

namespace ServoLink.Yaml

open Scanner

/-! ## Lines at a column -/

section Lines

variable {column : Nat} {start : Token}

theorem begins_append {text : List Char} (nonempty : text ≠ []) (begins : Begins text)
    (more : List Char) : Begins (text ++ more) := by
  obtain ⟨c, rest, rfl⟩ := List.exists_cons_of_ne_nil nonempty
  exact stops_cons (Stops.head begins)

/-- `IsLines column start body words` says that lines at a column are scanned as words up to a line
that lies no further in; the first of them may open a collection. -/
structure IsLines (column : Nat) (start : Token) (body : List Char) (words : List Token) : Prop where
  nonempty : body ≠ []
  begins : Begins body
  scans : ∀ (columns : List Nat) (tokens : List Token) (cursor : Cursor) (count : Nat)
    (tail : List Char), Encloses columns column →
      cursor.rest = body ++ (indentation count ++ tail) → cursor.column = column →
      Begins tail → count ≤ column → cursor.rest.length ≤ cursor.limit →
      ∃ place, Scans (outside columns tokens true none cursor)
          (outside (openedColumns column columns)
            (words.reverse ++ (openedTokens column columns start ++ tokens)) true none place) ∧
        place.rest = tail ∧ place.column = count

theorem IsLines.append {first second : List Char} {words more : List Token}
    (lines : IsLines column start first words) (later : IsLines column start second more) :
    IsLines column start (first ++ (indentation column ++ second)) (words ++ more) where
  nonempty := by simp [lines.nonempty]
  begins := begins_append lines.nonempty lines.begins _
  scans := by
    intro columns tokens cursor count tail inside begins stands stops out fits
    obtain ⟨middle, scanned, rest, place⟩ := lines.scans columns tokens cursor column
      (second ++ (indentation count ++ tail)) inside (begins.trans (by simp)) stands
      (begins_append later.nonempty later.begins _) (Nat.le_refl column) fits
    obtain ⟨outer, opened⟩ := openedColumns_eq inside
    rw [opened] at scanned ⊢
    obtain ⟨finish, next, finishRest, finishColumn⟩ := later.scans (column :: outer) _ middle count
      tail (encloses_cons (Nat.le_refl column)) rest place stops out (scanned.past.fits fits)
    rw [openedColumns_cons, openedTokens_cons] at next
    refine ⟨finish, ?_, finishRest, finishColumn⟩
    simpa using scanned.trans next

/-- Lines that follow one another at a column. -/
theorem IsLines.flatMap {α : Type} {body : α → List Char} {words : α → List Token}
    {first : List Char} {more : List Token} (lines : IsLines column start first more)
    {later : List α} (each : ∀ line ∈ later, IsLines column start (body line) (words line)) :
    IsLines column start (first ++ later.flatMap fun line => indentation column ++ body line)
      (more ++ later.flatMap words) := by
  induction later generalizing first more with
  | nil => simpa using lines
  | cons line later inductionHypothesis =>
      have next := inductionHypothesis (lines.append (each line List.mem_cons_self))
        fun other member => each other (List.mem_cons_of_mem line member)
      simpa using next

end Lines

/-! ## Values -/

/-- `IsValue inMapping text words` says that the text of a value at any column is scanned as words up
to a line at that column or further out. -/
structure IsValue (inMapping : Bool) (text : Nat → List Char) (words : List Token) : Prop where
  spaced : ∀ column, ∃ c rest, text column = c :: rest ∧ isBlankOrBreak c = true
  scans : ∀ (column : Nat) (columns : List Nat) (tokens : List Token) (allowed : Bool)
    (cursor : Cursor) (count : Nat) (tail : List Char),
    (inMapping = false → allowed = true ∧ cursor.column = column + 1) →
    cursor.rest = text column ++ (indentation count ++ tail) → column < cursor.column →
    Begins tail → count ≤ column → cursor.rest.length ≤ cursor.limit →
    ∃ place, Scans (outside (column :: columns) tokens allowed none cursor)
        (outside (column :: columns) (words.reverse ++ tokens) true none place) ∧
      place.rest = tail ∧ place.column = count

theorem IsValue.endsWord {inMapping : Bool} {text : Nat → List Char} {words : List Token}
    (value : IsValue inMapping text words) (column : Nat) (more : List Char) :
    endsWord (text column ++ more) = true := by
  obtain ⟨c, rest, split, blank⟩ := value.spaced column
  rw [split]
  exact blank

section Entries

variable {text : Nat → List Char} {words : List Token}

/-- A dash and an item behind it are lines of a sequence. -/
theorem isLines_item (value : IsValue false text words) (column : Nat) :
    IsLines column .blockSequenceStart ('-' :: text column) (.blockEntry :: words) where
  nonempty := List.cons_ne_nil _ _
  begins := stops_cons rfl
  scans := by
    intro columns tokens cursor count tail inside begins stands stops out fits
    obtain ⟨outer, opened⟩ := openedColumns_eq inside
    have mark := @scans_mark columns tokens cursor 0 '-' .blockEntry .blockSequenceStart _ rfl begins
      (value.endsWord column _) (by simpa [stands] using inside)
    simp only [Nat.add_zero, Nat.zero_add, stands, opened] at mark
    obtain ⟨place, scans, placeRest, placeColumn⟩ := value.scans column outer
      (.blockEntry :: (openedTokens column columns .blockSequenceStart ++ tokens)) true
      (cursor.skip 1) count tail (fun _ => ⟨rfl, by simp [stands]⟩) (Cursor.rest_skip_one begins)
      (by simp [stands]) stops out ((Cursor.past_skip _ 1).fits fits)
    refine ⟨place, ?_, placeRest, placeColumn⟩
    rw [opened]
    simpa using mark.trans scans

theorem begins_scalarText_key {name : String} (simple : isSimpleKey name = true) (column : Nat) :
    scalarText column true name ≠ [] ∧ Begins (scalarText column true name) := by
  rcases scalarText_key simple column with ⟨-, nonempty, plain, written⟩ | ⟨double, -, -, written⟩
  · rw [written]
    obtain ⟨c, rest, split⟩ := List.exists_cons_of_ne_nil nonempty
    rw [split] at plain ⊢
    have begins := (@beginsPlain_of_plainAllowed c rest [] plain).begins
    rw [List.append_nil] at begins
    exact ⟨List.cons_ne_nil _ _, begins⟩
  · rw [written]
    refine ⟨List.cons_ne_nil _ _, ?_⟩
    cases double
    all_goals exact stops_cons rfl

theorem begins_printKey (column : Nat) (name : String) :
    printKey column name ≠ [] ∧ Begins (printKey column name) := by
  by_cases simple : isSimpleKey name = true
  · obtain ⟨nonempty, begins⟩ := begins_scalarText_key simple (column + 2)
    rw [printKey, if_pos simple]
    exact ⟨by simp, begins_append nonempty begins _⟩
  · have mark : endLine ("? ".toList ++ scalarText (column + 2) false name) =
        '?' :: endLine (' ' :: scalarText (column + 2) false name) := endLine_cons '?' ' ' _
    rw [printKey, if_neg simple, mark]
    exact ⟨by simp, stops_cons rfl⟩

/-- A key and the value behind its colon are lines of a mapping. -/
theorem isLines_entry (value : IsValue true text words) (column : Nat) (name : String) :
    IsLines column .blockMappingStart (printKey column name ++ text column)
      (.key :: .scalar (keyStyle name) name :: .value :: words) where
  nonempty := by simp [(begins_printKey column name).1]
  begins := begins_append (begins_printKey column name).1 (begins_printKey column name).2 _
  scans := by
    intro columns tokens cursor count tail inside begins stands stops out fits
    obtain ⟨middle, allowed, key, rest, inner⟩ := @scans_key column columns tokens cursor _ name
      (begins.trans (List.append_assoc _ _ _)) stands (value.endsWord column _) inside fits
    obtain ⟨outer, opened⟩ := openedColumns_eq inside
    rw [opened] at key ⊢
    obtain ⟨place, scans, placeRest, placeColumn⟩ := value.scans column outer _ allowed middle count
      tail nofun rest inner stops out (key.past.fits fits)
    refine ⟨place, ?_, placeRest, placeColumn⟩
    simpa using key.trans scans

end Entries

/-! ## Values of one line -/

section Scalars

variable (inMapping : Bool)

theorem isValue_plain {text : List Char} (plain : plainAllowed text = true) (nonempty : text ≠ []) :
    IsValue inMapping (fun _ => ' ' :: (text ++ ['\n']))
      [.scalar .plain (String.ofList text)] where
  spaced _ := ⟨' ', _, rfl, rfl⟩
  scans _ _ _ _ _ _ _ _ begins inside stops out fits :=
    scans_plain plain nonempty (idle_none _) (begins.trans (by simp [indentation])) stops inside out
      fits

theorem isValue_text (value : String) :
    IsValue inMapping (fun column => endLine (' ' :: scalarText (column + 2) false value))
      [.scalar (styleOf value false) value] where
  spaced column := by
    refine ⟨' ', (endLine (' ' :: scalarText (column + 2) false value)).tail, ?_, rfl⟩
    rw [endLine]
    split_ifs
    all_goals rfl
  scans _ _ _ _ _ _ _ _ begins inside stops out fits :=
    scans_scalar value (idle_none _) begins stops inside out fits

theorem isValue_empty {opening closing : Char} {start finish : Token}
    (brackets : bracketsOf opening = some (start, closing, finish)) :
    IsValue inMapping (fun _ => [' ', opening, closing, '\n']) [start, finish] where
  spaced _ := ⟨' ', _, rfl, rfl⟩
  scans _ _ _ _ _ _ _ _ begins inside stops _ fits :=
    scans_emptyFlow brackets (idle_none _) begins stops inside fits

/-- A variant whose payload is a plain text. -/
theorem isValue_variant {name : String} (word : IsWord name) {text : List Char}
    (plain : plainAllowed text = true) (nonempty : text ≠ []) :
    IsValue inMapping (fun _ => ' ' :: '!' :: (name.toList ++ ' ' :: (text ++ ['\n'])))
      [.tag "!" (asciiBytes name.toList), .scalar .plain (String.ofList text)] where
  spaced _ := ⟨' ', _, rfl, rfl⟩
  scans column columns tokens allowed cursor count tail _ begins inside stops out fits := by
    obtain ⟨middle, noted, tag, rest, later, idle⟩ := @scans_tag column columns tokens allowed none
      cursor name (text ++ '\n' :: (List.replicate count ' ' ++ tail)) word (idle_none _)
      (begins.trans (by simp [indentation])) inside
    obtain ⟨place, scans, placeRest, placeColumn⟩ := scans_plain plain nonempty idle rest stops
      (Nat.lt_trans inside later) out (tag.past.fits fits)
    exact ⟨place, tag.trans scans, placeRest, placeColumn⟩

end Scalars

/-! ## Collections -/

section Collections

variable {start : Token} {body : Nat → List Char} {words : List Token}

/-- Lines further in are a collection that ends in front of a line further out. -/
theorem scans_nested {column count : Nat} {lines tail : List Char}
    (nested : IsLines (column + 2) start lines words) {columns : List Nat} {tokens : List Token}
    {cursor : Cursor} (begins : cursor.rest = lines ++ (indentation count ++ tail))
    (stands : cursor.column = column + 2) (stops : Begins tail) (out : count ≤ column)
    (fits : cursor.rest.length ≤ cursor.limit) :
    ∃ place, Scans (outside (column :: columns) tokens true none cursor)
        (outside (column :: columns) ((start :: (words ++ [.blockEnd])).reverse ++ tokens) true none
          place) ∧
      place.rest = tail ∧ place.column = count := by
  have deeper : ¬ column + 2 ≤ column := by omega
  obtain ⟨place, scans, placeRest, placeColumn⟩ := nested.scans (column :: columns) tokens cursor
    count tail (encloses_cons (Nat.le_add_right column 2)) begins stands stops (Nat.le_add_right_of_le out) fits
  have opened : openedColumns (column + 2) (column :: columns) = (column + 2) :: column :: columns := by
    simp [openedColumns]
  have started : openedTokens (column + 2) (column :: columns) start = [start] := by
    simp [openedTokens]
  rw [opened, started] at scans
  have close := @scans_out (column :: columns) (words.reverse ++ ([start] ++ tokens)) place (column + 2)
    (placeRest.symm ▸ stops) (by omega)
  exact ⟨place, by simpa using scans.trans close, placeRest, placeColumn⟩

theorem scans_space {columns : List Nat} {tokens : List Token} {cursor : Cursor} {tail : List Char}
    (begins : cursor.rest = ' ' :: tail) (stops : Begins tail)
    (inside : Encloses columns (cursor.column + 1)) :
    Scans (outside columns tokens true none cursor)
      (outside columns tokens true none (cursor.skip 1)) := by
  refine .of_settle? (Cursor.past_skip cursor 1) ?_
  have here : (cursor.skip 1).rest = List.replicate 0 ' ' ++ tail := Cursor.rest_skip_one begins
  have first := @settle?_blank columns tokens true cursor tail 1 begins stops inside
  have second := @settle?_blank columns tokens true (cursor.skip 1) tail 0 here stops inside
  rw [Cursor.skip_zero] at second
  rw [first, second]

/-- A collection may begin on the line of a dash. -/
theorem isValue_compact (lines : ∀ column, IsLines (column + 2) start (body column) words) :
    IsValue false (fun column => ' ' :: body column) (start :: (words ++ [.blockEnd])) where
  spaced _ := ⟨' ', _, rfl, rfl⟩
  scans column columns tokens allowed cursor count tail item begins inside stops out fits := by
    obtain ⟨rfl, stands⟩ := item rfl
    have nested := lines column
    have space := @scans_space (column :: columns) tokens cursor _ begins
      (begins_append nested.nonempty nested.begins _) (encloses_cons (by omega))
    obtain ⟨place, scans, placeRest, placeColumn⟩ := @scans_nested _ _ column count _ tail nested
      columns tokens (cursor.skip 1) (Cursor.rest_skip_one begins) (by simp [stands]) stops out
      (space.past.fits fits)
    exact ⟨place, space.trans scans, placeRest, placeColumn⟩

/-- A mapping behind a colon begins on the next line. -/
theorem isValue_mapping (lines : ∀ column, IsLines (column + 2) start (body column) words) :
    IsValue true (fun column => '\n' :: (indentation (column + 2) ++ body column))
      (start :: (words ++ [.blockEnd])) where
  spaced _ := ⟨'\n', _, rfl, rfl⟩
  scans column columns tokens allowed cursor count tail _ begins inside stops out fits := by
    have nested := lines column
    obtain ⟨middle, line, rest, stands⟩ := @scans_line (column :: columns) tokens allowed none cursor
      (body column ++ (indentation count ++ tail)) (column + 2) (idle_none _)
      (begins.trans (by simp [indentation])) (begins_append nested.nonempty nested.begins _) fits
    obtain ⟨place, scans, placeRest, placeColumn⟩ := @scans_nested _ _ column count _ tail nested
      columns tokens middle rest stands stops out (line.past.fits fits)
    exact ⟨place, line.trans scans, placeRest, placeColumn⟩

/-- A sequence behind a colon lies at the column of the mapping. -/
theorem isValue_indentless (lines : ∀ column, IsLines column start (body column) words) :
    IsValue true (fun column => '\n' :: (indentation column ++ body column)) words where
  spaced _ := ⟨'\n', _, rfl, rfl⟩
  scans column columns tokens allowed cursor count tail _ begins inside stops out fits := by
    have nested := lines column
    obtain ⟨middle, line, rest, stands⟩ := @scans_line (column :: columns) tokens allowed none cursor
      (body column ++ (indentation count ++ tail)) column (idle_none _)
      (begins.trans (by simp [indentation])) (begins_append nested.nonempty nested.begins _) fits
    obtain ⟨place, scans, placeRest, placeColumn⟩ := nested.scans (column :: columns) tokens middle
      count tail (encloses_cons (Nat.le_refl column)) rest stands stops out (line.past.fits fits)
    rw [openedColumns_cons, openedTokens_cons] at scans
    exact ⟨place, line.trans scans, placeRest, placeColumn⟩

end Collections

end ServoLink.Yaml
