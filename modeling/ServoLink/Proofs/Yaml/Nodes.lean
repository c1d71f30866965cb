import ServoLink.Proofs.Yaml.Scan
import ServoLink.Yaml.Alias

/-!
# Nodes built from tokens

The tokens of a datum are composed to the node that stands for the datum.
-/

namespace ServoLink.Yaml

/-! ## Nodes that stand for data -/

/-- A node with a tag in front of it. -/
def Node.tagged (tag : Tag) : Node → Node
  | .scalar label style text => .scalar { label with tag := some tag } style text
  | .sequence label items => .sequence { label with tag := some tag } items
  | .mapping label entries => .mapping { label with tag := some tag } entries
  | .alias number => .alias number

/-- The tag of a variant. -/
def variantTag (name : String) : Tag :=
  ⟨asciiBytes ['!'] ++ asciiBytes name.toList⟩

mutual

/-- The node that the text of a datum is parsed as. -/
def nodeOf : Datum → Node
  | .null => .scalar {} .plain "null"
  | .bool value => .scalar {} .plain (if value then "true" else "false")
  | .number value => .scalar {} .plain (toString value)
  | .text value => .scalar {} (styleOf value false) value
  | .list items => .sequence {} (itemsOf items)
  | .map entries => .mapping {} (entriesOf entries)
  | .variant name payload => (nodeOf payload).tagged (variantTag name)

def itemsOf : List Datum → List Node
  | [] => []
  | item :: items => nodeOf item :: itemsOf items

def entriesOf : List (String × Datum) → List (Node × Node)
  | [] => []
  | (name, value) :: entries => (.scalar {} (keyStyle name) name, nodeOf value) :: entriesOf entries

end

namespace Compose

/-! ## Single steps -/

/-- The composer in front of tokens, with no other tag handles than the usual ones. -/
def before (tokens : List Token) : Composer where
  tokens
  handles := defaultHandles

variable {token : Token} {later : List Token} {steps : Nat} {block indentless : Bool}

theorem run_peek (tokens : List Token) :
    peek.run (before tokens) = some (tokens.head?, before tokens) := rfl

theorem run_advance (tokens : List Token) :
    advance.run (before tokens) = some ((), before tokens.tail) := rfl

theorem run_nextIsOneOf (expected tokens : List Token) :
    (nextIsOneOf expected).run (before tokens) =
      some (tokens.head?.any expected.contains, before tokens) := rfl

/-- Whether a token is no anchor, alias or tag. -/
def isPlainToken : Token → Bool
  | .alias _ => false
  | .anchor _ => false
  | .tag _ _ => false
  | _ => true

theorem run_label (bare : isPlainToken token = true) :
    label.run (before (token :: later)) = some ({}, before (token :: later)) := by
  cases token
  all_goals first
  | rfl
  | cases bare

/-- The tag of a variant in front of a token that is no anchor. -/
theorem run_label_tag (suffix : List UInt8) (bare : isPlainToken token = true) :
    label.run (before (.tag "!" suffix :: token :: later)) =
      some ({ tag := some ⟨asciiBytes ['!'] ++ suffix⟩ }, before (token :: later)) := by
  cases token
  all_goals first
  | rfl
  | cases bare

theorem run_node_scalar (style : ScalarStyle) (text : String) :
    (node (steps + 1) block indentless).run (before (.scalar style text :: later)) =
      some (.scalar {} style text, before later) := by
  have labelled := @run_label (.scalar style text) later rfl
  simp [node, run_peek, run_advance, labelled]

theorem run_node_tagged (suffix : List UInt8) (style : ScalarStyle) (text : String) :
    (node (steps + 1) block indentless).run
        (before (.tag "!" suffix :: .scalar style text :: later)) =
      some (.scalar { tag := some ⟨asciiBytes ['!'] ++ suffix⟩ } style text, before later) := by
  have labelled := @run_label_tag (.scalar style text) later suffix rfl
  simp [node, run_peek, run_advance, labelled]

theorem run_node_sequence {items : List Node} {composer : Composer}
    (run : (blockItems steps).run (before later) = some (items, composer)) :
    (node (steps + 1) true indentless).run (before (.blockSequenceStart :: later)) =
      some (.sequence {} items, composer) := by
  have labelled := @run_label .blockSequenceStart later rfl
  simp [node, run_peek, run_advance, labelled, run]

theorem run_node_mapping {entries : List (Node × Node)} {composer : Composer}
    (run : (blockEntries steps).run (before later) = some (entries, composer)) :
    (node (steps + 1) true indentless).run (before (.blockMappingStart :: later)) =
      some (.mapping {} entries, composer) := by
  have labelled := @run_label .blockMappingStart later rfl
  simp [node, run_peek, run_advance, labelled, run]

theorem run_node_indentless {items : List Node} {composer : Composer}
    (run : (indentlessItems steps).run (before (.blockEntry :: later)) = some (items, composer)) :
    (node (steps + 1) block true).run (before (.blockEntry :: later)) =
      some (.sequence {} items, composer) := by
  have labelled := @run_label .blockEntry later rfl
  simp [node, run_peek, labelled, run]

theorem run_node_emptySequence :
    (node (steps + 2) block indentless).run
        (before (.flowSequenceStart :: .flowSequenceEnd :: later)) =
      some (.sequence {} [], before later) := by
  have labelled := @run_label .flowSequenceStart (.flowSequenceEnd :: later) rfl
  simp [node, flowItems, run_peek, run_advance, run_nextIsOneOf, labelled]

theorem run_node_emptyMapping :
    (node (steps + 2) block indentless).run
        (before (.flowMappingStart :: .flowMappingEnd :: later)) =
      some (.mapping {} [], before later) := by
  have labelled := @run_label .flowMappingStart (.flowMappingEnd :: later) rfl
  simp [node, flowEntries, run_peek, run_advance, run_nextIsOneOf, labelled]

/-! ## Tokens of a node -/

/-- `Composes inMapping words made` says that words are composed to a node wherever a value may
stand. -/
structure Composes (inMapping : Bool) (words : List Token) (made : Node) : Prop where
  first : ∃ token rest, words = token :: rest ∧ token ≠ .key ∧ token ≠ .value ∧
    token ≠ .blockEnd ∧ (inMapping = false → token ≠ .blockEntry)
  run : ∀ (steps : Nat) (later : List Token), 2 * words.length + 1 < steps →
    (inMapping = true → later.head? ≠ some .blockEntry) →
    (node steps true inMapping).run (before (words ++ later)) = some (made, before later)

/-- Words that make up a node are not taken for nothing. -/
theorem Composes.run_before {inMapping : Bool} {words : List Token} {made : Node}
    (composes : Composes inMapping words made) (ends : List Token)
    (others : ∀ token ∈ ends, token = .key ∨ token = .value ∨ token = .blockEnd ∨
      (inMapping = false ∧ token = .blockEntry))
    (enough : 2 * words.length + 1 < steps)
    (stops : inMapping = true → later.head? ≠ some .blockEntry) :
    (blockNodeBefore steps inMapping ends).run (before (words ++ later)) =
      some (made, before later) := by
  obtain ⟨token, rest, split, noKey, noValue, noEnd, noEntry⟩ := composes.first
  have goes : (words ++ later).head?.any ends.contains = false := by
    rw [split]
    by_contra found
    simp only [List.cons_append, List.head?_cons, Option.any_some, Bool.not_eq_false,
      List.contains_iff_mem] at found
    rcases others token found with same | same | same | ⟨item, same⟩
    · exact noKey same
    · exact noValue same
    · exact noEnd same
    · exact noEntry item same
  have run := composes.run steps later enough stops
  simp only [blockNodeBefore, StateT.run_bind, run_nextIsOneOf, goes]
  exact run

/-! ## Collections -/

theorem run_blockItems {items : List Datum}
    (each : ∀ item ∈ items, Composes false (tokensOf false item) (nodeOf item))
    (enough : 2 * (itemTokens items).length < steps) :
    (blockItems steps).run (before (itemTokens items ++ .blockEnd :: later)) =
      some (itemsOf items, before later) := by
  induction items generalizing steps with
  | nil =>
      obtain ⟨steps, rfl⟩ := Nat.exists_eq_add_one_of_ne_zero (Nat.ne_zero_of_lt enough)
      simp [blockItems, itemTokens, run_peek, run_advance, itemsOf]
  | cons item items inductionHypothesis =>
      obtain ⟨steps, rfl⟩ := Nat.exists_eq_add_one_of_ne_zero (Nat.ne_zero_of_lt enough)
      simp only [itemTokens, List.length_cons, List.length_append] at enough
      have first := @Composes.run_before (itemTokens items ++ .blockEnd :: later) steps false _ _
        (each item List.mem_cons_self) [.blockEntry, .blockEnd] (by simp) (by omega)
        (fun inside => absurd inside Bool.false_ne_true)
      have rest := @inductionHypothesis steps
        (fun other member => each other (List.mem_cons_of_mem item member)) (by omega)
      simp [blockItems, itemTokens, run_peek, run_advance, itemsOf, first, rest]

theorem run_indentlessItems {items : List Datum}
    (each : ∀ item ∈ items, Composes false (tokensOf false item) (nodeOf item))
    (enough : 2 * (itemTokens items).length < steps) (stops : later.head? ≠ some .blockEntry) :
    (indentlessItems steps).run (before (itemTokens items ++ later)) =
      some (itemsOf items, before later) := by
  induction items generalizing steps with
  | nil =>
      obtain ⟨steps, rfl⟩ := Nat.exists_eq_add_one_of_ne_zero (Nat.ne_zero_of_lt enough)
      have ends : later.head?.any [Token.blockEntry].contains = false := by
        cases later with
        | nil => rfl
        | cons token later => simpa using stops
      simp [indentlessItems, itemTokens, run_nextIsOneOf, itemsOf, ends]
  | cons item items inductionHypothesis =>
      obtain ⟨steps, rfl⟩ := Nat.exists_eq_add_one_of_ne_zero (Nat.ne_zero_of_lt enough)
      simp only [itemTokens, List.length_cons, List.length_append] at enough
      have first := @Composes.run_before (itemTokens items ++ later) steps false _ _
        (each item List.mem_cons_self) [.blockEntry, .key, .value, .blockEnd] (by simp) (by omega)
        (fun inside => absurd inside Bool.false_ne_true)
      have rest := @inductionHypothesis steps
        (fun other member => each other (List.mem_cons_of_mem item member)) (by omega)
      simp [indentlessItems, itemTokens, run_nextIsOneOf, run_advance, itemsOf, first, rest]

theorem composes_scalar (inMapping : Bool) (style : ScalarStyle) (text : String) :
    Composes inMapping [.scalar style text] (.scalar {} style text) where
  first := ⟨_, [], rfl, by simp, by simp, by simp, by simp⟩
  run steps later enough _ := by
    obtain ⟨steps, rfl⟩ := Nat.exists_eq_add_one_of_ne_zero (Nat.ne_zero_of_lt enough)
    exact run_node_scalar style text

theorem run_blockEntries {entries : List (String × Datum)}
    (each : ∀ entry ∈ entries, Composes true (tokensOf true entry.2) (nodeOf entry.2))
    (enough : 2 * (entryTokens entries).length < steps) :
    (blockEntries steps).run (before (entryTokens entries ++ .blockEnd :: later)) =
      some (entriesOf entries, before later) := by
  induction entries generalizing steps with
  | nil =>
      obtain ⟨steps, rfl⟩ := Nat.exists_eq_add_one_of_ne_zero (Nat.ne_zero_of_lt enough)
      simp [blockEntries, entryTokens, run_peek, run_advance, entriesOf]
  | cons entry entries inductionHypothesis =>
      obtain ⟨steps, rfl⟩ := Nat.exists_eq_add_one_of_ne_zero (Nat.ne_zero_of_lt enough)
      simp only [entryTokens, List.length_cons, List.length_append] at enough
      have key := @Composes.run_before
        (.value :: (tokensOf true entry.2 ++ (entryTokens entries ++ .blockEnd :: later))) steps true
        _ _ (composes_scalar true (keyStyle entry.1) entry.1) [.key, .value, .blockEnd] (by simp)
        (by simp; omega) (by simp)
      have value := @Composes.run_before (entryTokens entries ++ .blockEnd :: later) steps true _ _
        (each entry List.mem_cons_self) [.key, .value, .blockEnd] (by simp) (by omega) (by
          cases entries <;> simp [entryTokens])
      have rest := @inductionHypothesis steps
        (fun other member => each other (List.mem_cons_of_mem entry member)) (by omega)
      simp only [List.cons_append, List.nil_append] at key
      simp [blockEntries, blockValue, entryTokens, run_peek, run_advance, run_nextIsOneOf, entriesOf,
        key, value, rest]

section Wholes

variable {inMapping : Bool}

theorem composes_emptySequence :
    Composes inMapping [.flowSequenceStart, .flowSequenceEnd] (.sequence {} []) where
  first := ⟨_, _, rfl, by simp, by simp, by simp, by simp⟩
  run steps later enough _ := by
    obtain ⟨steps, rfl⟩ := Nat.exists_eq_add_of_le' (Nat.le_of_lt (Nat.lt_of_le_of_lt (by simp) enough) :
      2 ≤ steps)
    exact run_node_emptySequence

theorem composes_emptyMapping :
    Composes inMapping [.flowMappingStart, .flowMappingEnd] (.mapping {} []) where
  first := ⟨_, _, rfl, by simp, by simp, by simp, by simp⟩
  run steps later enough _ := by
    obtain ⟨steps, rfl⟩ := Nat.exists_eq_add_of_le' (Nat.le_of_lt (Nat.lt_of_le_of_lt (by simp) enough) :
      2 ≤ steps)
    exact run_node_emptyMapping

theorem composes_sequence {items : List Datum}
    (each : ∀ item ∈ items, Composes false (tokensOf false item) (nodeOf item)) :
    Composes inMapping (.blockSequenceStart :: (itemTokens items ++ [.blockEnd]))
      (.sequence {} (itemsOf items)) where
  first := ⟨_, _, rfl, by simp, by simp, by simp, by simp⟩
  run steps later enough _ := by
    obtain ⟨steps, rfl⟩ := Nat.exists_eq_add_one_of_ne_zero (Nat.ne_zero_of_lt enough)
    simp only [List.length_cons, List.length_append, List.length_nil] at enough
    have run := @run_blockItems later steps items each (by omega)
    have whole := @run_node_sequence _ steps inMapping _ _ run
    simpa using whole

theorem composes_indentless {item : Datum} {items : List Datum}
    (each : ∀ other ∈ item :: items, Composes false (tokensOf false other) (nodeOf other)) :
    Composes true (itemTokens (item :: items)) (.sequence {} (itemsOf (item :: items))) where
  first := ⟨_, _, rfl, by simp, by simp, by simp, by simp⟩
  run steps later enough stops := by
    obtain ⟨steps, rfl⟩ := Nat.exists_eq_add_one_of_ne_zero (Nat.ne_zero_of_lt enough)
    exact run_node_indentless (run_indentlessItems each (by omega) (stops rfl))

theorem composes_mapping {entries : List (String × Datum)}
    (each : ∀ entry ∈ entries, Composes true (tokensOf true entry.2) (nodeOf entry.2)) :
    Composes inMapping (.blockMappingStart :: (entryTokens entries ++ [.blockEnd]))
      (.mapping {} (entriesOf entries)) where
  first := ⟨_, _, rfl, by simp, by simp, by simp, by simp⟩
  run steps later enough _ := by
    obtain ⟨steps, rfl⟩ := Nat.exists_eq_add_one_of_ne_zero (Nat.ne_zero_of_lt enough)
    simp only [List.length_cons, List.length_append, List.length_nil] at enough
    have run := @run_blockEntries later steps entries each (by omega)
    have whole := @run_node_mapping _ steps inMapping _ _ run
    simpa using whole

theorem composes_tagged (suffix : List UInt8) (style : ScalarStyle) (text : String) :
    Composes inMapping [.tag "!" suffix, .scalar style text]
      (.scalar { tag := some ⟨asciiBytes ['!'] ++ suffix⟩ } style text) where
  first := ⟨_, _, rfl, by simp, by simp, by simp, by simp⟩
  run steps later enough _ := by
    obtain ⟨steps, rfl⟩ := Nat.exists_eq_add_one_of_ne_zero (Nat.ne_zero_of_lt enough)
    exact run_node_tagged suffix style text

end Wholes

/-! ## All data -/

/-- The tokens of a datum are composed to its node. -/
theorem composes_datum {nesting : Nat} {datum : Datum} (recorded : datum.Recorded nesting)
    (inMapping : Bool) :
    Composes inMapping (tokensOf inMapping datum) (nodeOf datum) := by
  induction recorded generalizing inMapping with
  | null => exact composes_scalar inMapping .plain "null"
  | bool value => exact composes_scalar inMapping .plain _
  | number _ => exact composes_scalar inMapping .plain _
  | text value => exact composes_scalar inMapping _ value
  | @list _ items each inductionHypothesis =>
      have items' := fun item member => inductionHypothesis item member false
      cases items with
      | nil => exact composes_emptySequence
      | cons item items =>
          cases inMapping with
          | false => exact composes_sequence items'
          | true => exact composes_indentless items'
  | @map _ entries _ each inductionHypothesis =>
      cases entries with
      | nil => exact composes_emptyMapping
      | cons entry entries =>
          exact composes_mapping fun other member => inductionHypothesis other member true
  | @variant _ _ name word _ => exact composes_tagged (asciiBytes name.toList) .plain _

/-- A document without markers and directives holds its node. -/
theorem run_document {rest : List Token} {made : Node}
    (composes : Composes false (.blockMappingStart :: rest) made)
    (enough : 2 * (rest.length + 1) + 1 < steps) :
    (document steps).run' { tokens := .blockMappingStart :: rest } = some made := by
  have root := composes.run steps [] enough nofun
  rw [List.append_nil] at root
  obtain ⟨steps, rfl⟩ := Nat.exists_eq_add_one_of_ne_zero (Nat.ne_zero_of_lt enough)
  have undirected : (directives (steps + 1) 0).run { tokens := .blockMappingStart :: rest } =
      some (false, { tokens := .blockMappingStart :: rest }) := by
    rw [directives]
    rfl
  have handles : addDefaultHandles.run { tokens := .blockMappingStart :: rest } =
      some ((), before (.blockMappingStart :: rest)) := rfl
  have first : peek.run { tokens := .blockMappingStart :: rest } =
      some (some .blockMappingStart, { tokens := .blockMappingStart :: rest }) := rfl
  simp [document, first, undirected, handles, run_nextIsOneOf, root, skipDocumentEnds, run_peek]

end Compose

/-- The text of a record is parsed as the node of its datum. -/
theorem parse?_render {nesting : Nat} {entry : String × Datum} {entries : List (String × Datum)}
    (recorded : (Datum.map (entry :: entries)).Recorded nesting) :
    Node.parse? (render (.map (entry :: entries))) = some (nodeOf (.map (entry :: entries))) := by
  rw [Node.parse?, scan?_render recorded]
  exact Compose.run_document (Compose.composes_datum recorded false) (by simp [tokensOf])

end ServoLink.Yaml
