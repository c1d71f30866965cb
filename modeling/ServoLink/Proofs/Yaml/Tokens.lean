import ServoLink.Proofs.Text.Digits
import ServoLink.Proofs.Yaml.Lines

/-!
# The tokens of printed data

The text of a datum is scanned as the tokens that stand for the datum, whatever the texts and names
inside it.
-/

namespace ServoLink.Yaml

open Scanner

/-! ## Tokens that stand for data -/

mutual

/-- The tokens of a value behind a colon or a dash. -/
def tokensOf (inMapping : Bool) : Datum → List Token
  | .null => [.scalar .plain "null"]
  | .bool value => [.scalar .plain (if value then "true" else "false")]
  | .number value => [.scalar .plain (toString value)]
  | .text value => [.scalar (styleOf value false) value]
  | .list [] => [.flowSequenceStart, .flowSequenceEnd]
  | .list (item :: items) =>
      if inMapping then
        itemTokens (item :: items)
      else
        .blockSequenceStart :: (itemTokens (item :: items) ++ [.blockEnd])
  | .map [] => [.flowMappingStart, .flowMappingEnd]
  | .map (entry :: entries) =>
      .blockMappingStart :: (entryTokens (entry :: entries) ++ [.blockEnd])
  | .variant name payload => .tag "!" (asciiBytes name.toList) :: tokensOf inMapping payload

def itemTokens : List Datum → List Token
  | [] => []
  | item :: items => .blockEntry :: (tokensOf false item ++ itemTokens items)

def entryTokens : List (String × Datum) → List Token
  | [] => []
  | (name, value) :: entries =>
      .key :: .scalar (keyStyle name) name :: .value ::
        (tokensOf true value ++ entryTokens entries)

end

/-! ## Words and numbers -/

/-- A letter or digit has no meaning of its own. -/
theorem ordinary_of_isAlphanum {c : Char} (letter : c.isAlphanum = true) :
    isPrintable c = true ∧ isBlankOrBreak c = false ∧
      "-?:,[]\x7b\x7d#&*!|>'\"%@\x60. ".toList.contains c = false := by
  have range := asciiByte_of_letter (show (c.isAlphanum || c == '_') = true by simp [letter])
  refine ⟨?_, ?_, ?_⟩
  · have low : 0x20 ≤ c.toNat ∧ c.toNat ≤ 0x7E := by omega
    simp [isPrintable, low]
  · by_contra gap
    simp only [isBlankOrBreak, isBlank, isBreak, Bool.not_eq_false, Bool.or_eq_true,
      beq_iff_eq] at gap
    rcases gap with (rfl | rfl) | (((rfl | rfl) | rfl) | rfl) | rfl
    all_goals exact absurd letter (by decide)
  · by_contra sign
    simp only [String.reduceToList, List.contains_cons, List.contains_nil, Bool.not_eq_false,
      Bool.or_eq_true, beq_iff_eq, Bool.or_false] at sign
    rcases sign with rfl | rfl | rfl | rfl | rfl | rfl | rfl | rfl | rfl | rfl | rfl | rfl | rfl |
      rfl | rfl | rfl | rfl | rfl | rfl | rfl | rfl
    all_goals exact absurd letter (by decide)

theorem hasInnerIndicator_of_ordinary {text : List Char}
    (each : ∀ c ∈ text, c ≠ ':' ∧ c ≠ '#') : hasInnerIndicator text = false := by
  induction text with
  | nil => rfl
  | cons c text inductionHypothesis =>
      have rest := inductionHypothesis fun d member => each d (List.mem_cons_of_mem c member)
      have next : (text.head? == some '#') = false := by
        cases text with
        | nil => rfl
        | cons d text => simpa using (each d (by simp)).2
      simp [hasInnerIndicator, rest, (each c List.mem_cons_self).1, next]

theorem hasNeighbours_of_first {first second : Char → Bool} {text : List Char}
    (each : ∀ c ∈ text, first c = false) : hasNeighbours first second text = false := by
  induction text with
  | nil => rfl
  | cons c text inductionHypothesis =>
      have rest := inductionHypothesis fun d member => each d (List.mem_cons_of_mem c member)
      cases text with
      | nil => rfl
      | cons d text => simp [hasNeighbours, each c List.mem_cons_self, rest]

/-- Letters and digits need no quotes. -/
theorem plainAllowed_of_isAlphanum {text : List Char} (letters : ∀ c ∈ text, c.isAlphanum = true) :
    plainAllowed text = true := by
  have each : ∀ c ∈ text, isPrintable c = true ∧ c ≠ ' ' ∧ isBreak c = false ∧
      c ≠ ':' ∧ c ≠ '#' := fun c member => by
    obtain ⟨printable, visible, sign⟩ := ordinary_of_isAlphanum (letters c member)
    simp only [String.reduceToList, List.contains_cons, Bool.or_eq_false_iff,
      beq_eq_false_iff_ne, ne_eq] at sign
    have space : c ≠ ' ' := by
      rintro rfl
      cases visible
    exact ⟨printable, space, (Bool.or_eq_false_iff.mp visible).2, by simp [sign], by simp [sign]⟩
  have start : beginsWithBlankSpace text = false ∧ beginsWithIndicator text = false := by
    cases text with
    | nil => exact ⟨rfl, rfl⟩
    | cons c text =>
        obtain ⟨-, space, line, -⟩ := each c List.mem_cons_self
        have sign := (ordinary_of_isAlphanum (letters c List.mem_cons_self)).2.2
        simp only [String.reduceToList, List.contains_cons, Bool.or_eq_false_iff,
          beq_eq_false_iff_ne, ne_eq] at sign
        exact ⟨by simp [beginsWithBlankSpace, space, line], by simp [beginsWithIndicator, sign]⟩
  have finish : endsWithBlankSpace text = false := by
    cases last : text.getLast? with
    | none => simp [endsWithBlankSpace, last]
    | some c =>
        obtain ⟨-, space, line, -⟩ := each c (List.mem_of_getLast? last)
        simp [endsWithBlankSpace, last, space, line]
  have inline : hasBreak text = false := List.any_eq_false.mpr fun c member => by
    simp [(each c member).2.2.1]
  have escapes : needsEscapes text = false := by
    have printable : text.any (fun c => !isPrintable c) = false :=
      List.any_eq_false.mpr fun c member => by simp [(each c member).1]
    have neighbours : hasNeighbours (· == ' ') isBreak text = false :=
      hasNeighbours_of_first fun c member => by simp [(each c member).2.1]
    rw [needsEscapes, printable, neighbours]
    rfl
  have inner := hasInnerIndicator_of_ordinary fun c member => (each c member).2.2.2
  simp [plainAllowed, start, finish, inline, escapes, inner]

theorem plainAllowed_decimalDigits (value : Nat) : plainAllowed (decimalDigits value) = true :=
  plainAllowed_of_isAlphanum fun c member => by
    simp [Char.isAlphanum, isDigit_of_mem_decimalDigits member]

-- Stated here by reduction: the equations that are generated for `printValue` compare its texts with
-- one another first, which is slow.
theorem printValue_number (column : Nat) (inMapping : Bool) (value : Int) :
    printValue column inMapping (.number value) = ' ' :: (toString value).toList ++ ['\n'] :=
  rfl

theorem printValue_list_cons (column : Nat) (inMapping : Bool) (item : Datum)
    (items : List Datum) :
    printValue column inMapping (.list (item :: items)) =
      if inMapping then
        '\n' :: printItems column (item :: items)
      else
        " -".toList ++ printValue (column + 2) false item ++ printItems (column + 2) items :=
  rfl

theorem printValue_map_cons (column : Nat) (inMapping : Bool) (entry : String × Datum)
    (entries : List (String × Datum)) :
    printValue column inMapping (.map (entry :: entries)) =
      if inMapping then
        '\n' :: printEntries (column + 2) (entry :: entries)
      else
        ' ' :: printKey (column + 2) entry.1 ++ printValue (column + 2) true entry.2 ++
          printEntries (column + 2) entries :=
  rfl

theorem printValue_variant (column : Nat) (inMapping : Bool) (name : String) (payload : Datum) :
    printValue column inMapping (.variant name payload) =
      " !".toList ++ name.toList ++ printValue column inMapping payload :=
  rfl

theorem printItems_eq (column : Nat) (items : List Datum) :
    printItems column items =
      items.flatMap fun item => indentation column ++ '-' :: printValue column false item := by
  induction items with
  | nil => rfl
  | cons item items inductionHypothesis => simp [printItems, inductionHypothesis]

theorem printEntries_eq (column : Nat) (entries : List (String × Datum)) :
    printEntries column entries = entries.flatMap fun entry =>
      indentation column ++ (printKey column entry.1 ++ printValue column true entry.2) := by
  induction entries with
  | nil => rfl
  | cons entry entries inductionHypothesis => simp [printEntries, inductionHypothesis]

theorem itemTokens_eq (items : List Datum) :
    itemTokens items = items.flatMap fun item => .blockEntry :: tokensOf false item := by
  induction items with
  | nil => rfl
  | cons item items inductionHypothesis => simp [itemTokens, inductionHypothesis]

theorem entryTokens_eq (entries : List (String × Datum)) :
    entryTokens entries = entries.flatMap fun entry =>
      .key :: .scalar (keyStyle entry.1) entry.1 :: .value :: tokensOf true entry.2 := by
  induction entries with
  | nil => rfl
  | cons entry entries inductionHypothesis => simp [entryTokens, inductionHypothesis]

theorem toString_natural (count : Nat) :
    toString (count : Int) = String.ofList (decimalDigits count) := by
  rw [← toList_toString_natural, String.ofList_toList]
  rfl

/-! ## All data -/

/-- The text of a datum is scanned as its tokens. -/
theorem isValue_datum {nesting : Nat} {datum : Datum} (recorded : datum.Recorded nesting)
    (inMapping : Bool) :
    IsValue inMapping (fun column => printValue column inMapping datum) (tokensOf inMapping datum) := by
  induction recorded generalizing inMapping with
  | null => exact @isValue_plain inMapping "null".toList (by decide) (by decide)
  | bool value =>
      cases value with
      | false => exact @isValue_plain inMapping "false".toList (by decide) (by decide)
      | true => exact @isValue_plain inMapping "true".toList (by decide) (by decide)
  | @number _ count _ =>
      have digits := isValue_plain inMapping (plainAllowed_decimalDigits count)
        (decimalDigits_ne_nil count)
      simp only [printValue_number, tokensOf, toString_natural]
      simpa using digits
  | text value => exact isValue_text inMapping value
  | @list _ items each inductionHypothesis =>
      cases items with
      | nil => exact isValue_empty inMapping (by rfl)
      | cons item items =>
          have lines : ∀ column, IsLines column .blockSequenceStart _ _ := fun column =>
            (isLines_item (inductionHypothesis item List.mem_cons_self false) column).flatMap
              fun later member =>
                isLines_item (inductionHypothesis later (List.mem_cons_of_mem item member) false) column
          cases inMapping with
          | false =>
              have value := isValue_compact fun column => lines (column + 2)
              simpa [printValue_list_cons, printItems_eq, tokensOf, itemTokens_eq] using value
          | true =>
              have value := isValue_indentless lines
              simpa [printValue_list_cons, printItems_eq, tokensOf, itemTokens_eq] using value
  | @map _ entries _ each inductionHypothesis =>
      cases entries with
      | nil => exact isValue_empty inMapping (by rfl)
      | cons entry entries =>
          have lines : ∀ column, IsLines column .blockMappingStart _ _ := fun column =>
            (isLines_entry (inductionHypothesis entry List.mem_cons_self true) column entry.1).flatMap
              fun later member => isLines_entry
                (inductionHypothesis later (List.mem_cons_of_mem entry member) true) column later.1
          cases inMapping with
          | false =>
              have value := isValue_compact fun column => lines (column + 2)
              simpa [printValue_map_cons, printEntries_eq, tokensOf, entryTokens_eq] using value
          | true =>
              have value := isValue_mapping fun column => lines (column + 2)
              simpa [printValue_map_cons, printEntries_eq, tokensOf, entryTokens_eq] using value
  | @variant _ count name word _ =>
      have value := isValue_variant inMapping word (plainAllowed_decimalDigits count)
        (decimalDigits_ne_nil count)
      simp only [printValue_variant, printValue_number, tokensOf, toString_natural]
      simpa using value

end ServoLink.Yaml
