import ServoLink.Json.Parser
import ServoLink.Json.Printer
import ServoLink.Proofs.Text.Digits
import ServoLink.Proofs.Text.Runs

/-!
# Strings and numbers of JSON read back

What the printer writes for a text is read as this text, up to the closing quote, and a number is
read up to its last digit.
-/

namespace ServoLink.Json

/-! ## Strings -/

/-- A part of a string in front of further parts and of what follows them. -/
def withPart (part : StringPart) (read : List StringPart × List Char) :
    List StringPart × List Char :=
  (part :: read.1, read.2)

theorem stringParts?_letter {letter c : Char} (escaped : escaped? letter = some c)
    (rest : List Char) :
    stringParts? ('\\' :: letter :: rest) = (stringParts? rest).map (withPart (.char c)) := by
  have noUnit : letter ≠ 'u' := fun unit => nomatch (unit ▸ escaped : escaped? 'u' = some c)
  rw [stringParts?]
  · rw [escaped]
    cases stringParts? rest <;> rfl
  · exact fun _ _ _ _ _ unit => absurd unit noUnit

theorem stringParts?_unit {code : Nat} (fits : code < 0x10000) (rest : List Char) :
    stringParts? ('\\' :: 'u' :: fixedHex hexDigit 4 code ++ rest) =
      (stringParts? rest).map (withPart (.unit code)) := by
  have value : valueOfHex? (fixedHex hexDigit 4 code) = some code :=
    (foldlM_fixedHex hexValue?_hexDigit 4 code).trans (congrArg some (Nat.mod_eq_of_lt fits))
  have digits : fixedHex hexDigit 4 code =
      [hexDigit (code / 16 / 16 / 16 % 16), hexDigit (code / 16 / 16 % 16),
        hexDigit (code / 16 % 16), hexDigit (code % 16)] := rfl
  rw [digits] at value ⊢
  change stringParts? ('\\' :: 'u' :: _ :: _ :: _ :: _ :: rest) = _
  rw [stringParts?, value]
  cases stringParts? rest <;> rfl

theorem stringParts?_plain {c : Char} (printable : 32 ≤ c.toNat) (noQuote : c ≠ '"')
    (noEscape : c ≠ '\\') (rest : List Char) :
    stringParts? (c :: rest) = (stringParts? rest).map (withPart (.char c)) := by
  rw [stringParts?]
  · rw [if_neg (by simp only [noEscape, or_false]; omega)]
    cases stringParts? rest <;> rfl
  · exact fun quote => absurd quote noQuote
  · exact fun _ _ _ _ _ escape => absurd escape noEscape
  · exact fun _ _ escape => absurd escape noEscape

/-- A character is escaped by a letter or, where no letter stands for it, by its code, or it is
not escaped at all. -/
theorem escapeChar_cases (c : Char) :
    (∃ letter, escapeChar c = ['\\', letter] ∧ escaped? letter = some c) ∨
      (escapeChar c = '\\' :: 'u' :: fixedHex hexDigit 4 c.toNat ∧ c.toNat < 32) ∨
      (escapeChar c = [c] ∧ 32 ≤ c.toNat ∧ c ≠ '"' ∧ c ≠ '\\') := by
  unfold escapeChar
  by_cases quote : c = '"'
  · rw [if_pos quote]
    exact .inl ⟨'"', rfl, congrArg some quote.symm⟩
  rw [if_neg quote]
  by_cases backslash : c = '\\'
  · rw [if_pos backslash]
    exact .inl ⟨'\\', rfl, congrArg some backslash.symm⟩
  rw [if_neg backslash]
  by_cases backspace : c = '\x08'
  · rw [if_pos backspace]
    exact .inl ⟨'b', rfl, congrArg some backspace.symm⟩
  rw [if_neg backspace]
  by_cases tab : c = '\t'
  · rw [if_pos tab]
    exact .inl ⟨'t', rfl, congrArg some tab.symm⟩
  rw [if_neg tab]
  by_cases lineFeed : c = '\n'
  · rw [if_pos lineFeed]
    exact .inl ⟨'n', rfl, congrArg some lineFeed.symm⟩
  rw [if_neg lineFeed]
  by_cases formFeed : c = '\x0c'
  · rw [if_pos formFeed]
    exact .inl ⟨'f', rfl, congrArg some formFeed.symm⟩
  rw [if_neg formFeed]
  by_cases carriageReturn : c = '\r'
  · rw [if_pos carriageReturn]
    exact .inl ⟨'r', rfl, congrArg some carriageReturn.symm⟩
  rw [if_neg carriageReturn]
  by_cases control : c.toNat < 32
  · rw [if_pos control]
    exact .inr (.inl ⟨rfl, control⟩)
  · rw [if_neg control]
    exact .inr (.inr ⟨rfl, Nat.le_of_not_lt control, quote, backslash⟩)

/-- How a character of a printed text may be read: as itself, or as its code where that is a
control character and so no surrogate. -/
inductive StandsFor : StringPart → Char → Prop
  | char (c : Char) : StandsFor (.char c) c
  | unit {c : Char} (control : c.toNat < 32) : StandsFor (.unit c.toNat) c

theorem stringParts?_escapeChar (c : Char) :
    ∃ part, StandsFor part c ∧ ∀ rest,
      stringParts? (escapeChar c ++ rest) = (stringParts? rest).map (withPart part) := by
  rcases escapeChar_cases c with ⟨letter, written, escaped⟩ | ⟨written, control⟩ | ⟨written, plain⟩
  · exact ⟨.char c, .char c, fun rest => written ▸ stringParts?_letter escaped rest⟩
  · exact ⟨.unit c.toNat, .unit control, fun rest =>
      written ▸ stringParts?_unit (Nat.lt_trans control (by decide)) rest⟩
  · exact ⟨.char c, .char c, fun rest =>
      written ▸ stringParts?_plain plain.1 plain.2.1 plain.2.2 rest⟩

theorem stringParts?_flatMap (chars rest : List Char) :
    ∃ parts, List.Forall₂ StandsFor parts chars ∧
      stringParts? (chars.flatMap escapeChar ++ '"' :: rest) = some (parts, rest) := by
  induction chars with
  | nil => exact ⟨[], .nil, rfl⟩
  | cons c chars inductionHypothesis =>
      obtain ⟨parts, stand, read⟩ := inductionHypothesis
      obtain ⟨part, stands, step⟩ := stringParts?_escapeChar c
      refine ⟨part :: parts, .cons stands stand, ?_⟩
      rw [List.flatMap_cons, List.append_assoc, step, read]
      rfl

/-- A code that is no surrogate stands for its character, whatever follows. -/
theorem charsOfParts?_unit {c : Char} (control : c.toNat < 32) (parts : List StringPart) :
    charsOfParts? (.unit c.toNat :: parts) = (charsOfParts? parts).map (c :: ·) := by
  have low : isLowSurrogate c.toNat = false := by
    simp only [isLowSurrogate, Bool.and_eq_false_imp, decide_eq_true_eq]
    omega
  have high : isHighSurrogate c.toNat = false := by
    simp only [isHighSurrogate, Bool.and_eq_false_imp, decide_eq_true_eq]
    omega
  cases parts with
  | nil => simp [charsOfParts?, low, high, Char.ofNat_toNat]
  | cons part parts =>
      cases part <;> simp [charsOfParts?, low, high, Char.ofNat_toNat]

theorem charsOfParts?_eq_some {parts : List StringPart} {chars : List Char}
    (stand : List.Forall₂ StandsFor parts chars) : charsOfParts? parts = some chars := by
  induction stand with
  | nil => rfl
  | @cons part c parts chars stands _ inductionHypothesis =>
      cases stands with
      | char => rw [charsOfParts?, inductionHypothesis]; rfl
      | unit control => rw [charsOfParts?_unit control, inductionHypothesis]; rfl

/-- A text between quotes is read as this text. -/
theorem string?_quoted (text : String) (rest : List Char) :
    ∃ body, quoted text ++ rest = '"' :: body ∧ string? body = some (some text, rest) := by
  refine ⟨text.toList.flatMap escapeChar ++ '"' :: rest, by simp [quoted], ?_⟩
  obtain ⟨parts, stand, read⟩ := stringParts?_flatMap text.toList rest
  unfold string?
  rw [read]
  change some ((charsOfParts? parts).map String.ofList, rest) = _
  rw [charsOfParts?_eq_some stand, Option.map_some, String.ofList_toList]

/-! ## Numbers -/

/-- Whether no digit, fraction or exponent follows. -/
def EndsNumber (rest : List Char) : Prop :=
  ∀ c ∈ rest.head?, isDigit c = false ∧ c ≠ '.' ∧ c ≠ 'e' ∧ c ≠ 'E'

theorem EndsNumber.stops {rest : List Char} (ends : EndsNumber rest) : Stops isDigit rest :=
  fun c first => (ends c first).1

/-- A number that ends here has no fraction and no exponent. -/
theorem EndsNumber.skips {rest : List Char} (ends : EndsNumber rest) :
    skipFraction? rest = some rest ∧ skipExponent? rest = some rest ∧
      continuesNumber rest = false := by
  cases rest with
  | nil => exact ⟨rfl, rfl, rfl⟩
  | cons c rest =>
      obtain ⟨_, point, lower, upper⟩ := ends c rfl
      refine ⟨?_, ?_, ?_⟩
      · unfold skipFraction?
        split
        · next same => exact absurd (List.cons.inj same).1 point
        · rfl
      · simp [skipExponent?, lower, upper]
      · simp [continuesNumber, point, lower, upper]

/-- No digits are left out, and none but a zero alone begins with a zero. -/
theorem decimalDigits_wellFormed (value : Nat) :
    ((decimalDigits value).isEmpty ||
      ((decimalDigits value).head? == some '0' && decide (1 < (decimalDigits value).length))) =
        false := by
  rw [Bool.or_eq_false_iff]
  refine ⟨List.isEmpty_eq_false_iff.mpr (decimalDigits_ne_nil value), ?_⟩
  by_cases zero : (decimalDigits value).head? = some '0'
  · rw [eq_zero_of_head?_decimalDigits zero]
    rfl
  · rw [beq_false_of_ne zero, Bool.false_and]

theorem unsignedNumber?_decimalDigits (value : Nat) {rest : List Char} (ends : EndsNumber rest) :
    unsignedNumber? (decimalDigits value ++ rest) = some (natural value, rest) := by
  have all : ∀ c ∈ decimalDigits value, isDigit c = true := fun c member =>
    isDigit_of_mem_decimalDigits member
  obtain ⟨fraction, exponent, whole⟩ := ends.skips
  unfold unsignedNumber?
  simp only [takeWhile_run all ends.stops, dropWhile_run all ends.stops,
    decimalDigits_wellFormed, fraction]
  change ((skipExponent? rest).bind _) = _
  rw [exponent, Option.bind_some, whole]
  exact congrArg (fun value => some (natural value, rest)) (foldl_decimalDigits value)

theorem decimalDigits_cons (value : Nat) :
    ∃ c digits, decimalDigits value = c :: digits ∧ c.isDigit = true := by
  obtain ⟨c, digits, equal⟩ := List.exists_cons_of_ne_nil (decimalDigits_ne_nil value)
  exact ⟨c, digits, equal, isDigit_of_mem_decimalDigits (equal ▸ List.mem_cons_self)⟩

/-- Whether a number may begin with a character. -/
def beginsNumber (c : Char) : Bool :=
  c.isDigit || c == '-'

theorem toString_cons (value : Int) :
    ∃ c digits, (toString value).toList = c :: digits ∧ beginsNumber c = true := by
  cases value with
  | ofNat value =>
      have written : (toString (Int.ofNat value)).toList = decimalDigits value :=
        toList_toString_natural value
      obtain ⟨c, digits, equal, digit⟩ := decimalDigits_cons value
      exact ⟨c, digits, written.trans equal, by rw [beginsNumber, digit, Bool.true_or]⟩
  | negSucc value => exact ⟨'-', _, toList_toString_negative value, rfl⟩

/-- A number that a field may hold is read as what it is, and a number below zero as some number
that no field can hold. -/
theorem number?_toString (value : Int) {rest : List Char} (ends : EndsNumber rest) :
    number? ((toString value).toList ++ rest) =
      some (if 0 ≤ value then natural value.toNat else otherNumber, rest) := by
  cases value with
  | ofNat value =>
      have written : (toString (Int.ofNat value)).toList = decimalDigits value :=
        toList_toString_natural value
      obtain ⟨c, digits, equal, digit⟩ := decimalDigits_cons value
      have read := unsignedNumber?_decimalDigits value ends
      rw [written]
      rw [equal] at read ⊢
      unfold number?
      split
      · next same =>
          rw [(List.cons.inj same).1] at digit
          exact absurd digit (by decide)
      · exact read
  | negSucc value =>
      rw [toList_toString_negative]
      change (unsignedNumber? (decimalDigits (value + 1) ++ rest)).map _ = _
      rw [unsignedNumber?_decimalDigits _ ends]
      rfl

end ServoLink.Json
