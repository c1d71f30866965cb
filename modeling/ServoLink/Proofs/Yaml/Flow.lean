import ServoLink.Proofs.Snapshot.Representation
import ServoLink.Proofs.Yaml.Words

/-!
# Empty collections and tags as tokens

Collections without items are the only flow collections that are written, and a variant is written
as a tag in front of its payload.
-/

namespace ServoLink.Yaml

open Scanner

/-! ## Empty collections -/

section Flow

variable {column count : Nat} {columns : List Nat} {tokens : List Token} {allowed : Bool}
  {candidate : Option KeyCandidate} {cursor : Cursor} {rest tail : List Char}

/-- The scanner right inside a flow collection. -/
def Scanner.insideFlow (columns : List Nat) (tokens : List Token) (suspended : Option KeyCandidate)
    (cursor : Cursor) : Scanner :=
  { outside columns tokens true none cursor with suspended := [suspended] }

/-- The brackets of a flow collection with their tokens. -/
def bracketsOf : Char → Option (Token × Char × Token)
  | '[' => some (.flowSequenceStart, ']', .flowSequenceEnd)
  | '\x7b' => some (.flowMappingStart, '\x7d', .flowMappingEnd)
  | _ => none

variable {opening closing : Char} {start finish : Token}

theorem bracketsOf_eq_some (brackets : bracketsOf opening = some (start, closing, finish)) :
    (opening = '[' ∧ start = .flowSequenceStart ∧ closing = ']' ∧ finish = .flowSequenceEnd) ∨
      (opening = '\x7b' ∧ start = .flowMappingStart ∧ closing = '\x7d' ∧
        finish = .flowMappingEnd) := by
  unfold bracketsOf at brackets
  split at brackets
  all_goals cases brackets
  all_goals simp

theorem token?_opening {noted : Option KeyCandidate}
    (brackets : bracketsOf opening = some (start, closing, finish))
    (begins : cursor.rest = opening :: rest)
    (noting : (outside columns tokens allowed candidate cursor).noteKey? =
      some (outside columns tokens allowed noted cursor)) :
    (outside columns tokens allowed candidate cursor).token? opening rest =
      some (insideFlow columns (start :: tokens) noted (cursor.skip 1)) := by
  have taken : (outside columns tokens allowed candidate cursor).token? opening rest =
      (outside columns tokens allowed candidate cursor).openFlow? start := by
    rcases bracketsOf_eq_some brackets with ⟨rfl, rfl, -, -⟩ | ⟨rfl, rfl, -, -⟩
    all_goals simp [token?, outside, no_marker begins (.inl (by decide))]
  rw [taken, openFlow?, noting]
  rfl

theorem token?_closing (brackets : bracketsOf opening = some (start, closing, finish))
    (begins : cursor.rest = closing :: rest) :
    (insideFlow columns tokens candidate cursor).token? closing rest =
      some (outside columns (finish :: tokens) false candidate (cursor.skip 1)) := by
  have taken : (insideFlow columns tokens candidate cursor).token? closing rest =
      (insideFlow columns tokens candidate cursor).closeFlow? finish := by
    rcases bracketsOf_eq_some brackets with ⟨-, -, rfl, rfl⟩ | ⟨-, -, rfl, rfl⟩
    all_goals simp [token?, insideFlow, outside, no_marker begins (.inl (by decide))]
  rw [taken]
  rfl

theorem settle?_insideFlow (idle : Idle cursor.line candidate) (stops : Begins cursor.rest) :
    ∃ left, (insideFlow columns tokens candidate cursor).settle? =
        some (insideFlow columns tokens left cursor) ∧ Idle cursor.line left := by
  have stays : (insideFlow columns tokens candidate cursor).skipToToken
      ((insideFlow columns tokens candidate cursor).cursor.limit + 1) =
      insideFlow columns tokens candidate cursor := by
    have skipped := @skipToToken_spaces (insideFlow columns tokens candidate cursor) cursor.rest 0
      cursor.limit rfl stops
    exact skipped.trans (congrArg (insideFlow columns tokens candidate) cursor.skip_zero)
  rw [settle?, stays]
  cases candidate with
  | none => exact ⟨none, rfl, idle⟩
  | some key =>
      have optional := (idle key rfl).1
      by_cases goes : KeyCandidate.reaches key cursor = true
      · refine ⟨some key, ?_, idle⟩
        simp [dropStaleKeys?, insideFlow, outside, optional, goes, closeBlocks, inFlow]
      · refine ⟨none, ?_, idle_none _⟩
        simp [dropStaleKeys?, insideFlow, outside, optional, goes, closeBlocks, inFlow]

/-- A collection without items is two tokens, up to the next line. -/
theorem scans_emptyFlow (brackets : bracketsOf opening = some (start, closing, finish))
    (idle : Idle cursor.line candidate)
    (begins : cursor.rest =
      ' ' :: opening :: closing :: '\n' :: (List.replicate count ' ' ++ tail))
    (stops : Begins tail) (inside : column < cursor.column)
    (fits : cursor.rest.length ≤ cursor.limit) :
    ∃ place, Scans (outside (column :: columns) tokens allowed candidate cursor)
        (outside (column :: columns) (finish :: start :: tokens) true none place) ∧
      place.rest = tail ∧ place.column = count := by
  have opens : Begins (opening :: closing :: '\n' :: (List.replicate count ' ' ++ tail)) ∧
      Begins (closing :: '\n' :: (List.replicate count ' ' ++ tail)) := by
    rcases bracketsOf_eq_some brackets with ⟨rfl, -, rfl, -⟩ | ⟨rfl, -, rfl, -⟩
    all_goals exact ⟨stops_cons rfl, stops_cons rfl⟩
  obtain ⟨left, noted, -, notedIdle, noting, scans⟩ :=
    @exists_scans_word column columns tokens allowed candidate cursor opening _ idle begins opens.1
      inside
  have behind := Cursor.rest_skip_one begins
  have second := Cursor.rest_skip_one behind
  have third := Cursor.rest_skip_one second
  have limited := (Cursor.past_skip cursor 1).fits fits
  have first := scans _ (token?_opening brackets behind noting) (Cursor.past_skip _ 1) (by
    change ((cursor.skip 1).skip 1).rest.length ≤ _
    rw [second])
  obtain ⟨suspended, settled, suspendedIdle⟩ := @settle?_insideFlow (column :: columns)
    (start :: tokens) noted ((cursor.skip 1).skip 1) notedIdle (second ▸ opens.2)
  have close := Scans.of_token? settled second (token?_closing brackets second)
    (Cursor.Past.refl _) (Cursor.past_skip _ 1) (by
      change (((cursor.skip 1).skip 1).skip 1).rest.length < ((cursor.skip 1).skip 1).rest.length
      rw [third, second]
      exact Nat.lt_succ_self _)
  obtain ⟨place, next, placeRest, placeColumn⟩ := @scans_line (column :: columns)
    (finish :: start :: tokens) false suspended (((cursor.skip 1).skip 1).skip 1) tail count
    suspendedIdle third stops
    ((Cursor.past_skip _ 1).fits ((Cursor.past_skip _ 1).fits limited))
  exact ⟨place, (first.trans close).trans next, placeRest, placeColumn⟩

end Flow

/-! ## Tags -/

section Tags

variable {column : Nat} {columns : List Nat} {tokens : List Token} {allowed : Bool}
  {candidate : Option KeyCandidate} {cursor : Cursor} {name : String} {rest : List Char}

theorem isWordChar_of_isWord (word : IsWord name) : ∀ c ∈ name.toList, isWordChar c = true := by
  intro c member
  have letter := List.all_eq_true.mp word.2 c member
  simp only [Bool.or_eq_true] at letter
  simp only [isWordChar, Bool.or_eq_true]
  exact .inl letter

theorem asciiByte_of_letter {c : Char} (letter : (c.isAlphanum || c == '_') = true) :
    48 ≤ c.toNat ∧ c.toNat ≤ 122 := by
  have code : c.toNat = c.val.toNat := rfl
  rcases (Bool.or_eq_true _ _).mp letter with alphanumeric | underscore
  · have ranges : (65 ≤ c.val ∧ c.val ≤ 90 ∨ 97 ≤ c.val ∧ c.val ≤ 122) ∨ 48 ≤ c.val ∧ c.val ≤ 57 := by
      change ((decide (65 ≤ c.val ∧ c.val ≤ 90) || (decide (97 ≤ c.val) && decide (c.val ≤ 122))) ||
        (decide (48 ≤ c.val) && decide (c.val ≤ 57))) = true at alphanumeric
      simpa using alphanumeric
    simp only [UInt32.le_iff_toNat_le, UInt32.reduceToNat] at ranges
    omega
  · rw [eq_of_beq underscore]
    decide

theorem beforeZero_asciiBytes (word : IsWord name) :
    beforeZero (asciiBytes name.toList) = asciiBytes name.toList := by
  refine List.takeWhile_eq_self_iff.mpr fun byte member => ?_
  obtain ⟨c, inside, rfl⟩ := List.mem_map.mp member
  have range := asciiByte_of_letter (List.all_eq_true.mp word.2 c inside)
  have code : (UInt8.ofNat c.toNat).toNat = c.toNat := by
    rw [UInt8.toNat_ofNat']
    exact Nat.mod_eq_of_lt (by omega)
  refine bne_iff_ne.mpr fun zero => ?_
  rw [zero, UInt8.toNat_zero] at code
  omega

theorem readTag?_eq (word : IsWord name) (begins : cursor.rest = '!' :: (name.toList ++ ' ' :: rest)) :
    readTag? false cursor =
      some ("!", asciiBytes name.toList, cursor.skip (1 + name.toList.length)) := by
  have letters : (name.toList ++ ' ' :: rest).takeWhile isWordChar = name.toList :=
    takeWhile_run (isWordChar_of_isWord word) (stops_cons rfl)
  have nonempty : name.toList ≠ [] := fun empty => word.1 (String.toList_eq_nil_iff.mp empty)
  obtain ⟨c, more, split⟩ := List.exists_cons_of_ne_nil nonempty
  have bare : (cursor.peekAt 1 == some '<') = false := by
    have letter := isWordChar_of_isWord word c (by simp [split])
    have other : c ≠ '<' := by
      rintro rfl
      exact absurd letter (by decide)
    simp [Cursor.peekAt, begins, split, other]
  have start : cursor.rest.drop 1 = name.toList ++ ' ' :: rest := by simp [begins]
  have behind : cursor.rest.drop (1 + name.toList.length) = ' ' :: rest := by
    rw [begins, Nat.add_comm]
    simp
  have length : cursor.rest.length - (rest.length + 1) = 1 + name.toList.length := by
    simp [begins]
    omega
  have text : readTagText? false (cursor.limit + 1) (' ' :: rest) = some ([], ' ' :: rest) := by
    simp [readTagText?, show isTagChar ' ' = false from rfl]
  have ends : endsWord (' ' :: rest) = true := rfl
  have bytes : asciiBytes name.toList = UInt8.ofNat c.toNat :: asciiBytes more := by
    rw [split]
    rfl
  have whole := beforeZero_asciiBytes word
  rw [bytes] at whole ⊢
  simp [readTag?, bare, start, letters, behind, text, bytes, whole, Cursor.upTo, length, ends]

/-- The tag of a variant is one token in front of its payload. -/
theorem scans_tag (word : IsWord name) (idle : Idle cursor.line candidate)
    (begins : cursor.rest = ' ' :: '!' :: (name.toList ++ ' ' :: rest))
    (inside : column < cursor.column) :
    ∃ place noted, Scans (outside (column :: columns) tokens allowed candidate cursor)
        (outside (column :: columns) (.tag "!" (asciiBytes name.toList) :: tokens) false noted
          place) ∧
      place.rest = ' ' :: rest ∧ cursor.column < place.column ∧ Idle place.line noted := by
  obtain ⟨left, noted, -, notedIdle, noting, scans⟩ :=
    @exists_scans_word column columns tokens allowed candidate cursor '!' _ idle begins
      (stops_cons rfl) inside
  have behind := Cursor.rest_skip_one begins
  have last : ((cursor.skip 1).skip (1 + name.toList.length)).rest = ' ' :: rest := by
    rw [← Cursor.skip_skip, Cursor.rest_skip_of_append (Cursor.rest_skip_one behind)]
  refine ⟨(cursor.skip 1).skip (1 + name.toList.length), noted,
    scans _ ?_ (Cursor.past_skip _ _) ?_, last, ?_, notedIdle⟩
  · have unmarked := no_marker behind (.inl (by decide))
    have taken : (outside (column :: columns) tokens allowed left (cursor.skip 1)).token? '!'
        (name.toList ++ ' ' :: rest) =
        (outside (column :: columns) tokens allowed left (cursor.skip 1)).keyToken? fun cursor =>
          (readTag? false cursor).map fun read => (.tag read.1 read.2.1, read.2.2) := by
      simp [token?, outside, unmarked, inFlow]
    rw [taken, keyToken?, noting]
    change ((readTag? false (cursor.skip 1)).map _).bind _ = _
    rw [readTag?_eq word behind]
    rfl
  · change ((cursor.skip 1).skip (1 + name.toList.length)).rest.length ≤ _
    rw [last]
    simp
  · simp
    omega

end Tags

end ServoLink.Yaml
