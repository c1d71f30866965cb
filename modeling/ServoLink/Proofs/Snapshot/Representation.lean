import Mathlib.Data.List.Forall2
import Mathlib.Data.List.Nodup
import ServoLink.Proofs.Check
import ServoLink.Snapshot.Datum
import ServoLink.Snapshot.Document

/-!
# Documents that represent data

A value of a document format represents a datum if it can be taken for what the datum is, and for
nothing else.  A record is read from whatever represents the datum of the record, so each format
has to show only that what it prints is parsed as a representation.
-/

namespace ServoLink

/-! ## Induction on data -/

/-- What holds of a datum whenever it holds of the data inside it holds of every datum. -/
@[elab_as_elim]
theorem Datum.inductionOn {motive : Datum → Prop} (datum : Datum) (null : motive .null)
    (bool : ∀ value, motive (.bool value)) (number : ∀ value, motive (.number value))
    (text : ∀ value, motive (.text value))
    (list : ∀ items, (∀ item ∈ items, motive item) → motive (.list items))
    (map : ∀ entries, (∀ entry ∈ entries, motive entry.2) → motive (.map entries))
    (variant : ∀ name payload, motive payload → motive (.variant name payload)) :
    motive datum := by
  refine @Datum.rec motive (fun items => ∀ item ∈ items, motive item)
    (fun entries => ∀ entry ∈ entries, motive entry.2) (fun entry => motive entry.2)
    null bool number text list map variant ?_ ?_ ?_ ?_ ?_ datum
  · exact fun _ member => absurd member List.not_mem_nil
  · exact fun _ _ first later => List.forall_mem_cons.mpr ⟨first, later⟩
  · exact fun _ member => absurd member List.not_mem_nil
  · exact fun _ _ first later => List.forall_mem_cons.mpr ⟨first, later⟩
  · exact fun _ _ holds => holds

/-! ## Data that records consist of -/

/-- Names that mean the same in every format. -/
def IsWord (name : String) : Prop :=
  name ≠ "" ∧ (name.toList.all fun c => c.isAlphanum || c == '_') = true

/-- Data as the records have it, with not more than `nesting` of them inside each other.
Numbers are words without a sign, a map binds a name only once, and a variant's payload is a
number. -/
inductive Datum.Recorded : (nesting : Nat) → Datum → Prop
  | null {nesting : Nat} : Recorded nesting .null
  | bool {nesting : Nat} (value : Bool) : Recorded nesting (.bool value)
  | number {nesting count : Nat} (fits : count < UInt64.size) : Recorded nesting (.number count)
  | text {nesting : Nat} (value : String) : Recorded nesting (.text value)
  | list {nesting : Nat} {items : List Datum} (each : ∀ item ∈ items, Recorded nesting item) :
      Recorded (nesting + 1) (.list items)
  | map {nesting : Nat} {entries : List (String × Datum)}
      (single : (entries.map Prod.fst).Nodup) (each : ∀ entry ∈ entries, Recorded nesting entry.2) :
      Recorded (nesting + 1) (.map entries)
  | variant {nesting count : Nat} {name : String} (word : IsWord name) (fits : count < UInt64.size) :
      Recorded (nesting + 1) (.variant name (.number count))

/-! ## Representations -/

/-- A value stands for itself if it is no reference. -/
def Document.Direct {δ : Type} [Document δ] (value : δ) : Prop :=
  Document.follow value = (value, 0)

/-- A value that is taken for a name. -/
def Document.IsKey {δ : Type} [Document δ] (value : δ) (name : String) : Prop :=
  Document.Direct value ∧ Document.text? value = some name

/-- `Represents value datum` means that the format takes `value` for `datum`.  A number without a
sign is all that a field can hold, so others have no representation. -/
inductive Represents {δ : Type} [Document δ] : δ → Datum → Prop
  | null {value : δ} (direct : Document.Direct value)
      (missing : Document.optional? value = some none) : Represents value .null
  | bool {value : δ} {truth : Bool} (direct : Document.Direct value)
      (taken : Document.boolean? value = some truth) : Represents value (.bool truth)
  | number {value : δ} {count : Nat} (direct : Document.Direct value)
      (taken : Document.natural? value = some count) : Represents value (.number count)
  | text {value : δ} {text : String} (direct : Document.Direct value)
      (taken : Document.text? value = some text)
      (named : Document.variant? value = some (text, none)) : Represents value (.text text)
  | list {value : δ} {items : List Datum} {values : List δ} (direct : Document.Direct value)
      (taken : Document.items? value = some values)
      (each : List.Forall₂ Represents values items) : Represents value (.list items)
  | map {value : δ} {entries : List (String × Datum)} {values : List (δ × δ)}
      (direct : Document.Direct value)
      (present : Document.optional? value = some (some value))
      (record : ∀ names, Document.fields? names value = some values)
      (taken : Document.entries? value = some values)
      (keys : List.Forall₂ (fun pair entry => Document.IsKey pair.1 entry.1) values entries)
      (each : List.Forall₂ (fun pair entry => Represents pair.2 entry.2) values entries) :
      Represents value (.map entries)
  | variant {value payload : δ} {name : String} {datum : Datum} (direct : Document.Direct value)
      (taken : Document.variant? value = some (name, some payload))
      (content : Represents payload datum) : Represents value (.variant name datum)

/-! ## Reading what represents a datum -/

namespace Document

variable {δ α : Type} [Document δ] {value : δ}

theorem take_eq_pure {view? : δ → Option α} {result : α} (direct : Direct value)
    (taken : view? value = some result) : take view? value = pure result := by
  funext followed
  unfold take
  rw [show follow value = (value, 0) from direct, taken]
  rfl

theorem IsKey.text_eq_pure {name : String} (key : IsKey value name) :
    Document.text value = pure name :=
  take_eq_pure key.1 key.2

theorem below_eq_pure {limit count : Nat} (represents : Represents value (.number count))
    (fits : count < limit) : below limit value = pure count := by
  cases represents with
  | number direct taken =>
      refine take_eq_pure direct ?_
      rw [taken]
      exact Option.filter_some_pos (by simpa using fits)

theorem uint8_eq_pure {byte : UInt8} (represents : Represents value (.number byte.toNat)) :
    uint8 value = pure byte := by
  unfold uint8
  rw [below_eq_pure represents byte.toNat_lt, map_pure, UInt8.ofNat_toNat]

theorem uint16_eq_pure {word : UInt16} (represents : Represents value (.number word.toNat)) :
    uint16 value = pure word := by
  unfold uint16
  rw [below_eq_pure represents word.toNat_lt, map_pure, UInt16.ofNat_toNat]

theorem uint32_eq_pure {word : UInt32} (represents : Represents value (.number word.toNat)) :
    uint32 value = pure word := by
  unfold uint32
  rw [below_eq_pure represents word.toNat_lt, map_pure, UInt32.ofNat_toNat]

theorem boolean_eq_pure {truth : Bool} (represents : Represents value (.bool truth)) :
    boolean value = pure truth := by
  cases represents with
  | bool direct taken => exact take_eq_pure direct taken

theorem text_eq_pure {text : String} (represents : Represents value (.text text)) :
    Document.text value = pure text := by
  cases represents with
  | text direct taken named => exact take_eq_pure direct taken

/-- A bare name is read as the variant with that name. -/
theorem unitVariant_eq_pure {ofName? : String → Option α} {name : String} {result : α}
    (represents : Represents value (.text name)) (found : ofName? name = some result) :
    unitVariant ofName? value = pure result := by
  cases represents with
  | text direct taken named =>
      refine take_eq_pure direct ?_
      simp [named, found]

/-! ## Lists and maps -/

omit [Document δ] in
/-- Values that all read as the corresponding results. -/
theorem mapM_eq_pure {β : Type} {reading : δ → Reading β} {values : List δ} {results : List β}
    (each : List.Forall₂ (fun value result => reading value = pure result) values results) :
    values.mapM reading = pure results := by
  induction each with
  | nil => rfl
  | cons head _ inductionHypothesis =>
      rw [List.mapM_cons, head, inductionHypothesis, pure_bind, pure_bind]

theorem list_eq_pure {reading : δ → Reading α} {datum : α → Datum} {items : List α}
    (reads : ∀ value item, Represents value (datum item) → reading value = pure item)
    (represents : Represents value (.list (items.map datum))) :
    list reading value = pure items := by
  cases represents with
  | list direct taken each =>
      unfold list
      rw [take_eq_pure direct taken, pure_bind]
      exact mapM_eq_pure ((List.forall₂_map_right_iff.mp each).imp fun value item => reads value item)

end Document

/-! ## Names in order -/

namespace NameMap

variable {β : Type}

theorem insertEntry_of_lt {name : String} {value : β} {entries : List (String × β)}
    (above : ∀ entry ∈ entries, entry.1 < name) :
    insertEntry name value entries = entries ++ [(name, value)] := by
  induction entries with
  | nil => rfl
  | cons head rest inductionHypothesis =>
      have before : head.1 < name := above head List.mem_cons_self
      unfold insertEntry
      rw [if_neg (String.lt_asymm before), if_neg (fun same => String.lt_irrefl _ (same ▸ before)),
        inductionHypothesis fun entry member => above entry (List.mem_cons_of_mem head member)]
      rfl

/-- The entries of a map make up the map again. -/
theorem ofList_entries (names : NameMap β) : ofList names.entries = names := by
  obtain ⟨entries, ordered⟩ := names
  have grow : ∀ (later : List (String × β)) (start : NameMap β),
      (start.entries ++ later).Pairwise (fun first second => first.1 < second.1) →
      (later.foldl (fun map entry => map.insert entry.1 entry.2) start).entries =
        start.entries ++ later := by
    intro later
    induction later with
    | nil => exact fun start _ => (List.append_nil _).symm
    | cons entry rest inductionHypothesis =>
        intro start sorted
        have added : (start.insert entry.1 entry.2).entries = start.entries ++ [entry] :=
          insertEntry_of_lt fun older member =>
            (List.pairwise_append.mp sorted).2.2 older member entry List.mem_cons_self
        rw [List.foldl_cons, inductionHypothesis, added, List.append_assoc]
        · rfl
        · rw [added, List.append_assoc]
          exact sorted
  have same := grow entries empty ordered
  change (ofList entries).entries = entries at same
  cases made : ofList entries with
  | mk found sorted =>
      rw [made] at same
      cases same
      rfl

end NameMap

namespace Document

variable {δ α : Type} [Document δ] {value : δ}

theorem nameMap_eq_pure {reading : δ → Reading α} {datum : α → Datum} {names : NameMap α}
    (reads : ∀ value item, Represents value (datum item) → reading value = pure item)
    (represents : Represents value
      (.map (names.entries.map fun entry => (entry.1, datum entry.2)))) :
    nameMap reading value = pure names := by
  cases represents with
  | map direct present record taken keys each =>
      have decoded := List.Forall₂.mp (fun _ _ => And.intro) (List.forall₂_map_right_iff.mp keys)
        (List.forall₂_map_right_iff.mp each)
      unfold nameMap
      rw [take_eq_pure direct taken, pure_bind,
        mapM_eq_pure (decoded.imp fun pair entry (holds : _ ∧ _) => ?_), pure_bind,
        NameMap.ofList_entries]
      rw [holds.1.text_eq_pure, pure_bind, reads _ _ holds.2, pure_bind]

/-! ## Records -/

/-- The fields of a record, by name, with what represents the datum of each. -/
def Fields (fields : List (String × δ)) (entries : List (String × Datum)) : Prop :=
  List.Forall₂ (fun field entry => field.1 = entry.1 ∧ Represents field.2 entry.2) fields entries

variable {fields : List (String × δ)} {entries : List (String × Datum)}

theorem named_eq_pure {values : List (δ × δ)}
    (each : List.Forall₂ (fun pair entry =>
      IsKey pair.1 entry.1 ∧ Represents pair.2 entry.2) values entries) :
    ∃ fields, Fields fields entries ∧ named values = pure fields := by
  unfold named
  induction each with
  | nil => exact ⟨[], .nil, rfl⟩
  | @cons pair entry values entries head _ inductionHypothesis =>
      obtain ⟨fields, found, equal⟩ := inductionHypothesis
      refine ⟨(entry.1, pair.2) :: fields, .cons ⟨rfl, head.2⟩ found, ?_⟩
      rw [List.mapM_cons, equal, head.1.text_eq_pure, map_pure, pure_bind, pure_bind]

theorem Fields.names (found : Fields fields entries) :
    fields.map Prod.fst = entries.map Prod.fst := by
  induction found with
  | nil => rfl
  | cons head _ inductionHypothesis =>
      rw [List.map_cons, List.map_cons, head.1, inductionHypothesis]

omit [Document δ] in
theorem unrepeated_of_nodup (names : List String) (single : (fields.map Prod.fst).Nodup) :
    unrepeated names fields = true := by
  refine List.all_eq_true.mpr fun name _ => decide_eq_true ?_
  rw [← List.countP_eq_length_filter]
  have once := List.nodup_iff_count_le_one.mp single name
  rwa [List.count, List.countP_map] at once

/-- A record that mentions its fields, each of them once, is read as these. -/
theorem record_eq_pure (names : List String) (represents : Represents value (.map entries))
    (listed : entries.map Prod.fst = names) (single : names.Nodup) :
    ∃ fields, Fields fields entries ∧ record names value = pure fields := by
  cases represents with
  | map direct present recorded taken keys each =>
      obtain ⟨fields, found, equal⟩ :=
        named_eq_pure (List.Forall₂.mp (fun _ _ => And.intro) keys each)
      refine ⟨fields, found, ?_⟩
      unfold record
      rw [take_eq_pure direct (recorded names), pure_bind, equal, pure_bind,
        if_pos (unrepeated_of_nodup names (found.names.trans listed ▸ single))]

theorem Fields.lookup (found : Fields fields entries) {name : String} {datum : Datum}
    (stored : entries.lookup name = some datum) :
    ∃ value, fields.lookup name = some value ∧ Represents value datum := by
  induction found with
  | nil => cases stored
  | @cons field entry fields entries head _ inductionHypothesis =>
      rw [List.lookup_cons, ← head.1] at stored
      rw [List.lookup_cons]
      split at stored
      · cases stored
        exact ⟨field.2, rfl, head.2⟩
      · exact inductionHypothesis stored

end Document

end ServoLink
