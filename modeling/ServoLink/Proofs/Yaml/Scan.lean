import ServoLink.Proofs.Yaml.Tokens

/-!
# Printed documents are scanned

All that is printed is allowed in documents, and the tokens of a document are those of its datum.
-/

namespace ServoLink.Yaml

open Scanner

/-! ## Allowed characters -/

theorem isAllowed_of_isPrintable {c : Char} (printable : isPrintable c = true) :
    isAllowed c = true := by
  simp only [isPrintable, Bool.or_eq_true, Bool.and_eq_true, beq_iff_eq, bne_iff_ne,
    decide_eq_true_eq] at printable
  simp only [isAllowed, Bool.or_eq_true, Bool.and_eq_true, beq_iff_eq, decide_eq_true_eq]
  omega

/-- Whether all characters of a text may occur in a document. -/
def Allowed (text : List Char) : Prop :=
  ∀ c ∈ text, isAllowed c = true

theorem allowed_nil : Allowed [] := fun _ member => absurd member List.not_mem_nil

theorem Allowed.append {first second : List Char} (left : Allowed first) (right : Allowed second) :
    Allowed (first ++ second) := by
  intro c member
  rcases List.mem_append.mp member with inside | inside
  · exact left c inside
  · exact right c inside

theorem Allowed.cons {c : Char} {text : List Char} (first : isAllowed c = true)
    (rest : Allowed text) : Allowed (c :: text) :=
  List.forall_mem_cons.mpr ⟨first, rest⟩

theorem Allowed.flatMap {α : Type} {f : α → List Char} {items : List α}
    (each : ∀ item ∈ items, Allowed (f item)) : Allowed (items.flatMap f) := by
  intro c member
  obtain ⟨item, inside, found⟩ := List.mem_flatMap.mp member
  exact each item inside c found

theorem allowed_indentation (column : Nat) : Allowed (indentation column) := by
  intro c member
  rw [List.eq_of_mem_replicate member]
  rfl

theorem Allowed.endLine {text : List Char} (allowed : Allowed text) : Allowed (endLine text) := by
  intro c member
  rcases mem_endLine member with inside | rfl
  · exact allowed c inside
  · rfl

theorem allowed_of_isAlphanum {text : List Char}
    (letters : ∀ c ∈ text, (c.isAlphanum || c == '_') = true) : Allowed text := by
  intro c member
  have range := asciiByte_of_letter (letters c member)
  have code : 0x20 ≤ c.toNat ∧ c.toNat ≤ 0x7E := by omega
  simp [isAllowed, code]

theorem isAlphanum_upperHexDigit : ∀ value < 16, (upperHexDigit value).isAlphanum = true := by
  decide

theorem allowed_fixedHex (width value : Nat) : Allowed (fixedHex upperHexDigit width value) := by
  induction width generalizing value with
  | zero => exact allowed_nil
  | succ width inductionHypothesis =>
      refine (inductionHypothesis _).append (allowed_of_isAlphanum fun c member => ?_)
      rw [List.mem_singleton.mp member, isAlphanum_upperHexDigit _ (Nat.mod_lt value (by decide))]
      rfl

theorem isAllowed_of_escapeLetter? {c letter : Char} (escaped : escapeLetter? c = some letter) :
    isAllowed letter = true := by
  unfold escapeLetter? at escaped
  iterate 14
    rcases row_of_ite escaped with ⟨rfl, rfl⟩ | escaped
    · rfl
  cases escaped

theorem allowed_doubleQuotedChar (c : Char) : Allowed (doubleQuotedChar c) := by
  cases escaped : escapeLetter? c with
  | some letter =>
      rw [doubleQuotedChar, escaped]
      exact .cons rfl (.cons (isAllowed_of_escapeLetter? escaped) allowed_nil)
  | none =>
      rw [doubleQuotedChar, escaped]
      simp only
      split_ifs with printable
      · exact .cons (isAllowed_of_isPrintable printable) allowed_nil
      all_goals exact .cons rfl (.cons rfl (allowed_fixedHex _ _))

theorem allowed_singleQuotedBody {text : List Char} (allowed : Allowed text) (column : Nat)
    (afterBreak : Bool) : Allowed (singleQuotedBody column afterBreak text) := by
  induction text generalizing afterBreak with
  | nil =>
      rw [singleQuotedBody]
      split_ifs
      · exact allowed_indentation column
      · exact allowed_nil
  | cons c text inductionHypothesis =>
      have rest := fun after => inductionHypothesis (fun d member => allowed d (.tail c member)) after
      have first : isAllowed c = true := allowed c List.mem_cons_self
      rw [singleQuotedBody]
      split_ifs
      · exact .cons first (rest true)
      · exact ((allowed_indentation column).append (.cons rfl (.cons rfl allowed_nil))).append (rest false)
      · exact ((allowed_indentation column).append (.cons first allowed_nil)).append (rest false)
      · exact (.cons rfl (.cons rfl (rest false)))
      · exact .cons first (rest false)

theorem allowed_literalBody {text : List Char} (allowed : Allowed text) (column : Nat)
    (afterBreak : Bool) : Allowed (literalBody column afterBreak text) := by
  induction text generalizing afterBreak with
  | nil => exact allowed_nil
  | cons c text inductionHypothesis =>
      have rest := fun after => inductionHypothesis (fun d member => allowed d (.tail c member)) after
      have first : isAllowed c = true := allowed c List.mem_cons_self
      rw [literalBody]
      split_ifs
      · exact .cons first (rest true)
      · exact (allowed_indentation column).append (.cons first (rest false))
      · exact .cons first (rest false)

theorem allowed_literalHeader (text : List Char) : Allowed (literalHeader text) := by
  rw [literalHeader_eq]
  have sign : Allowed (chompingOf text).sign := by
    cases chompingOf text with
    | strip => exact .cons rfl allowed_nil
    | clip => exact allowed_nil
    | keep => exact .cons rfl allowed_nil
  refine .cons rfl (Allowed.append ?_ (sign.append (.cons rfl allowed_nil)))
  split_ifs
  · exact .cons rfl allowed_nil
  · exact allowed_nil

theorem allowed_scalarText (column : Nat) (asSimpleKey : Bool) (text : String) :
    Allowed (scalarText column asSimpleKey text) := by
  rw [scalarText]
  rcases styleOf_cases text asSimpleKey with ⟨style, -, plain⟩ | ⟨style, quoted⟩ | style |
    ⟨style, -, literal⟩
  · simp only [plainAllowed, Bool.not_eq_true', Bool.or_eq_false_iff] at plain
    rw [style]
    exact fun c member =>
      isAllowed_of_isPrintable ((printable_of_needsEscapes plain.1.1.2).1 c member)
  · rw [style]
    have body := allowed_singleQuotedBody
      (fun c member => isAllowed_of_isPrintable (quoted.printable c member).1) column false
    exact .cons rfl (body.append (.cons rfl allowed_nil))
  · rw [style]
    have body := Allowed.flatMap fun c (_ : c ∈ text.toList) => allowed_doubleQuotedChar c
    exact .cons rfl (body.append (.cons rfl allowed_nil))
  · rw [style]
    have body := allowed_literalBody
      (fun c member => isAllowed_of_isPrintable (literal.printable c member)) column true
    exact (allowed_literalHeader text.toList).append body

theorem allowed_printKey (column : Nat) (name : String) : Allowed (printKey column name) := by
  rw [printKey]
  split_ifs
  · exact (allowed_scalarText _ _ name).append (.cons rfl allowed_nil)
  · have marked : Allowed ("? ".toList ++ scalarText (column + 2) false name) :=
      .cons rfl (.cons rfl (allowed_scalarText _ _ name))
    exact (marked.endLine.append (allowed_indentation column)).append (.cons rfl allowed_nil)

theorem allowed_items {column : Nat} {items : List Datum}
    (each : ∀ item ∈ items, Allowed (printValue column false item)) :
    Allowed (printItems column items) := by
  rw [printItems_eq]
  exact .flatMap fun item member => (allowed_indentation column).append (.cons rfl (each item member))

theorem allowed_entries {column : Nat} {entries : List (String × Datum)}
    (each : ∀ entry ∈ entries, Allowed (printValue column true entry.2)) :
    Allowed (printEntries column entries) := by
  rw [printEntries_eq]
  exact .flatMap fun entry member => (allowed_indentation column).append
    ((allowed_printKey column entry.1).append (each entry member))

theorem allowed_decimalDigits (value : Nat) : Allowed (decimalDigits value) :=
  allowed_of_isAlphanum fun c member => by
    simp [Char.isAlphanum, isDigit_of_mem_decimalDigits member]

theorem allowed_printNumber (count column : Nat) (inMapping : Bool) :
    Allowed (printValue column inMapping (.number count)) := by
  rw [printValue_number, toString_natural, String.toList_ofList]
  exact .cons rfl ((allowed_decimalDigits count).append (.cons rfl allowed_nil))

theorem allowed_printValue {nesting : Nat} {datum : Datum} (recorded : datum.Recorded nesting)
    (column : Nat) (inMapping : Bool) : Allowed (printValue column inMapping datum) := by
  induction recorded generalizing column inMapping with
  | null => exact List.all_eq_true.mp (by decide : " null\n".toList.all isAllowed = true)
  | bool value =>
      cases value with
      | false => exact List.all_eq_true.mp (by decide : " false\n".toList.all isAllowed = true)
      | true => exact List.all_eq_true.mp (by decide : " true\n".toList.all isAllowed = true)
  | @number _ count _ =>
      exact allowed_printNumber count column inMapping
  | text value => exact (Allowed.cons rfl (allowed_scalarText _ _ value)).endLine
  | @list _ items each inductionHypothesis =>
      cases items with
      | nil => exact List.all_eq_true.mp (by decide : " []\n".toList.all isAllowed = true)
      | cons item items =>
          rw [printValue_list_cons]
          split_ifs
          · exact .cons rfl (allowed_items fun other member => inductionHypothesis other member _ _)
          · have first : Allowed (" -".toList ++ printValue (column + 2) false item) :=
              .cons rfl (.cons rfl (inductionHypothesis item List.mem_cons_self _ _))
            exact first.append (allowed_items fun other member =>
              inductionHypothesis other (List.mem_cons_of_mem item member) _ _)
  | @map _ entries _ each inductionHypothesis =>
      cases entries with
      | nil => exact List.all_eq_true.mp (by decide : [' ', '\x7b', '\x7d', '\n'].all isAllowed = true)
      | cons entry entries =>
          rw [printValue_map_cons]
          split_ifs
          · exact .cons rfl (allowed_entries fun other member => inductionHypothesis other member _ _)
          · have first : Allowed (' ' :: printKey (column + 2) entry.1 ++
                printValue (column + 2) true entry.2) :=
              .cons rfl ((allowed_printKey _ entry.1).append
                (inductionHypothesis entry List.mem_cons_self _ _))
            exact first.append (allowed_entries fun other member =>
              inductionHypothesis other (List.mem_cons_of_mem entry member) _ _)
  | @variant _ count name word _ =>
      have payload := allowed_printNumber count column inMapping
      rw [printValue_variant]
      have letters : Allowed name.toList := allowed_of_isAlphanum (List.all_eq_true.mp word.2)
      have tag : Allowed (" !".toList ++ name.toList) := .cons rfl (.cons rfl letters)
      exact tag.append payload

/-! ## Whole documents -/

/-- At the end of the text the one collection that is open ends as well. -/
theorem finish?_end {tokens : List Token} {cursor : Cursor} (ends : cursor.rest = [])
    (steps : Nat) :
    finish? (steps + 1) (outside [0] tokens true none cursor) =
      some (.blockEnd :: tokens).reverse := by
  have stops : Begins cursor.rest := ends ▸ stops_nil
  rw [finish?_succ, settle?_none stops, closeBlocks_inside (encloses_cons (Nat.zero_le _)),
    Option.bind_some, proceed?_end ends]
  rfl

/-- A record is scanned as the tokens of its datum. -/
theorem scan?_render {nesting : Nat} {entry : String × Datum} {entries : List (String × Datum)}
    (recorded : (Datum.map (entry :: entries)).Recorded nesting) :
    Token.scan? (render (.map (entry :: entries))).toList =
      some (tokensOf true (.map (entry :: entries))) := by
  obtain ⟨_, each⟩ : ∃ inner, ∀ other ∈ entry :: entries, other.2.Recorded inner := by
    cases recorded with
    | map _ each => exact ⟨_, each⟩
  have text : (render (.map (entry :: entries))).toList = printEntries 0 (entry :: entries) := by
    rw [render, String.toList_ofList]
  have allowed : (printEntries 0 (entry :: entries)).all isAllowed = true :=
    List.all_eq_true.mpr (allowed_entries fun other member =>
      allowed_printValue (each other member) 0 true)
  have lines := (isLines_entry (isValue_datum (each entry List.mem_cons_self) true) 0 entry.1).flatMap
    fun later member => isLines_entry
      (isValue_datum (each later (List.mem_cons_of_mem entry member)) true) 0 later.1
  obtain ⟨place, scans, rest, stands⟩ := lines.scans [] []
    { rest := printEntries 0 (entry :: entries),
      limit := (printEntries 0 (entry :: entries)).length } 0 [] nofun
    (by simp [printEntries_eq, indentation]) rfl stops_nil (Nat.le_refl 0) (Nat.le_refl _)
  obtain ⟨count, bound, scanned⟩ := scans.steps
  obtain ⟨steps, enough⟩ := Nat.exists_eq_add_of_le' (Nat.le_of_add_right_le bound)
  have fuel : (printEntries 0 (entry :: entries)).length + 1 = steps + 1 + count := by
    change (printEntries 0 (entry :: entries)).length = steps + count at enough
    omega
  rw [text, Token.scan?, allowed]
  change finish? ((printEntries 0 (entry :: entries)).length + 1) (outside [] [] true none _) = _
  rw [fuel, scanned]
  refine (finish?_end rest steps).trans ?_
  simp [openedTokens, tokensOf, entryTokens_eq]

end ServoLink.Yaml
