import ServoLink.Proofs.Text.Bytes
import ServoLink.Proofs.Yaml.Nodes
import ServoLink.Yaml.Document

/-!
# YAML read back

The text of a record is parsed as a document that represents the record.
-/

namespace ServoLink.Yaml

/-! ## Scalars taken for values -/

/-- The digits of a number have no mark for another base, no sign and no leading zero. -/
theorem natural?_decimalDigits (count : Nat) : natural? (decimalDigits count) = some count := by
  obtain ⟨c, rest, split⟩ := List.exists_cons_of_ne_nil (decimalDigits_ne_nil count)
  have digit : ∀ d ∈ c :: rest, d.isDigit = true := fun d member =>
    isDigit_of_mem_decimalDigits (split ▸ member)
  have bare : withoutPlus (c :: rest) = c :: rest ∧ withoutSign (c :: rest) = c :: rest := by
    have plus : c ≠ '+' := by
      rintro rfl
      exact absurd (digit '+' List.mem_cons_self) (by decide)
    have minus : c ≠ '-' := by
      rintro rfl
      exact absurd (digit '-' List.mem_cons_self) (by decide)
    constructor
    · simp [withoutPlus, plus]
    · simp [withoutSign, plus, minus]
  have decimal : radixNumber? (c :: rest) = none := by
    unfold radixNumber?
    split
    · exact absurd (digit 'x' (by simp [*])) (by decide)
    · exact absurd (digit 'o' (by simp [*])) (by decide)
    · exact absurd (digit 'b' (by simp [*])) (by decide)
    · rfl
  have leading : hasLeadingZero (c :: rest) = false := by
    by_cases zero : c = '0'
    · have none : count = 0 := eq_zero_of_head?_decimalDigits (by rw [split, zero]; rfl)
      rw [← split, none]
      decide
    · simp [hasLeadingZero, bare.2, zero]
  rw [split, natural?, bare.1, decimal, leading, ← split]
  exact natOfDigits?_decimalDigits count

theorem natural?_toString (count : Nat) : natural? (toString (count : Int)).toList = some count := by
  rw [toString_natural, String.toList_ofList, natural?_decimalDigits]

theorem localName?_variantTag {name : String} (word : IsWord name) :
    (variantTag name).localName? = some name := by
  have ascii : ∀ c ∈ name.toList, c.toNat < 128 := fun c member => by
    have range := asciiByte_of_letter (List.all_eq_true.mp word.2 c member)
    omega
  have bytes := toUTF8_ascii ascii
  rw [name.ofList_toList] at bytes
  change String.fromUTF8? ⟨(asciiBytes name.toList).toArray⟩ = some name
  rw [asciiBytes, ← bytes, fromUTF8?_toUTF8]

/-! ## Nodes that represent data -/

variable {targets : List (Nat × Node)}

theorem itemsOf_eq_map (items : List Datum) : itemsOf items = items.map nodeOf := by
  induction items with
  | nil => rfl
  | cons item items inductionHypothesis => rw [itemsOf, inductionHypothesis, List.map_cons]

theorem entriesOf_eq_map (entries : List (String × Datum)) :
    entriesOf entries = entries.map fun entry =>
      (.scalar {} (keyStyle entry.1) entry.1, nodeOf entry.2) := by
  induction entries with
  | nil => rfl
  | cons entry entries inductionHypothesis =>
      rw [entriesOf, inductionHypothesis, List.map_cons]

/-- The node of a datum represents the datum. -/
theorem represents_nodeOf {nesting : Nat} {datum : Datum} (recorded : datum.Recorded nesting) :
    Represents (⟨nodeOf datum, targets⟩ : Linked) datum := by
  induction recorded with
  | null => exact .null rfl rfl
  | bool value =>
      refine .bool rfl ?_
      cases value
      · rfl
      · rfl
  | @number _ count _ => exact .number rfl (natural?_toString count)
  | text value => exact .text rfl rfl rfl
  | @list _ items each inductionHypothesis =>
      refine .list rfl rfl ?_
      rw [itemsOf_eq_map]
      simp only [List.forall₂_map_left_iff]
      exact List.forall₂_same.mpr inductionHypothesis
  | @map _ entries _ each inductionHypothesis =>
      refine .map rfl rfl (fun _ => rfl) rfl ?_ ?_
      · rw [entriesOf_eq_map]
        simp only [List.forall₂_map_left_iff]
        exact List.forall₂_same.mpr fun _ _ => ⟨rfl, rfl⟩
      · rw [entriesOf_eq_map]
        simp only [List.forall₂_map_left_iff]
        exact List.forall₂_same.mpr inductionHypothesis
  | @variant _ count name word _ =>
      have payload : Represents (⟨(nodeOf (.number count)).tagged (variantTag name), targets⟩ : Linked)
          (.number count) := .number rfl (natural?_toString count)
      refine .variant rfl ?_ payload
      have named : (variantTag name).localName? = some name := localName?_variantTag word
      change Option.map _ (Node.variant? (.scalar { tag := some (variantTag name) } .plain _)) = _
      simp [Node.variant?, Label.localName?, named]
      rfl

/-- The text of a record is parsed as a document that represents the record. -/
theorem represents_parse?_render {nesting : Nat} {entry : String × Datum}
    {entries : List (String × Datum)}
    (recorded : (Datum.map (entry :: entries)).Recorded nesting) :
    ∃ value, Linked.parse? (render (.map (entry :: entries))) = some value ∧
      Represents value (.map (entry :: entries)) := by
  rw [Linked.parse?, parse?_render recorded]
  exact ⟨_, rfl, represents_nodeOf recorded⟩

end ServoLink.Yaml
