import ServoLink.Proofs.Json.Scalars
import ServoLink.Proofs.Snapshot.Representation

/-!
# JSON read back

The text of a datum is parsed as the JSON value that stands for the datum, whatever the datum
and the level of nesting.
-/

namespace ServoLink.Json

/-! ## Values that stand for data -/

mutual

/-- The value that the text of a datum is parsed as. -/
def ofDatum : Datum → Json
  | .null => null
  | .bool value => bool value
  | .number value => if 0 ≤ value then natural value.toNat else otherNumber
  | .text value => string (some value)
  | .list items => array (ofItems items)
  | .map entries => object (ofEntries entries)
  | .variant name payload => object [(some name, ofDatum payload)]

def ofItems : List Datum → List Json
  | [] => []
  | item :: items => ofDatum item :: ofItems items

def ofEntries : List (String × Datum) → List (Option String × Json)
  | [] => []
  | (name, value) :: entries => (some name, ofDatum value) :: ofEntries entries

end

/-! ## Spaces -/

theorem skipSpace_of_not_isSpace {c : Char} (visible : isSpace c = false) (text : List Char) :
    skipSpace (c :: text) = c :: text := by
  unfold skipSpace
  rw [List.dropWhile_cons_of_neg (by simp [visible])]

theorem skipSpace_newline (level : Nat) (text : List Char) :
    skipSpace (newline level ++ text) = skipSpace text := by
  unfold skipSpace newline
  refine List.dropWhile_append_of_pos fun c member => ?_
  rcases List.mem_cons.mp member with rfl | space
  · rfl
  · rw [List.eq_of_mem_replicate space]
    rfl

/-- A value may begin on a new line. -/
theorem value?_newline (steps level : Nat) (text : List Char) :
    value? steps (newline level ++ text) = value? steps text := by
  cases steps with
  | zero => rfl
  | succ steps => rw [value?, value?, skipSpace_newline]

theorem endsNumber_comma (text : List Char) : EndsNumber (',' :: text) := by
  rintro c ⟨⟩
  decide

theorem endsNumber_newline (level : Nat) (text : List Char) :
    EndsNumber (newline level ++ text) := by
  rintro c ⟨⟩
  decide

/-! ## Steps of the parser -/

variable {steps : Nat} {text rest later : List Char}

theorem value?_list {c : Char} (first : skipSpace text = c :: rest) (more : c ≠ ']') :
    value? (steps + 1) ('[' :: text) =
      (items? steps (c :: rest)).map fun read => (array read.1, read.2) := by
  simp only [value?, skipSpace_of_not_isSpace (show isSpace '[' = false from rfl), first]
  split
  · next closed => exact absurd (List.cons.inj closed).1 more
  · rfl

theorem value?_object {c : Char} (first : skipSpace text = c :: rest) (more : c ≠ '\x7d') :
    value? (steps + 1) ('\x7b' :: text) =
      (members? steps (c :: rest)).map fun read => (object read.1, read.2) := by
  simp only [value?, skipSpace_of_not_isSpace (show isSpace '\x7b' = false from rfl), first]
  split
  · next closed => exact absurd (List.cons.inj closed).1 more
  · rfl

theorem isSpace_of_beginsNumber {c : Char} (first : beginsNumber c = true) : isSpace c = false := by
  by_contra space
  simp only [isSpace, Bool.not_eq_false, Bool.or_eq_true, beq_iff_eq] at space
  rcases space with ((rfl | rfl) | rfl) | rfl <;> exact absurd first (by decide)

theorem value?_number {c : Char} (first : beginsNumber c = true) :
    value? (steps + 1) (c :: text) = number? (c :: text) := by
  have visible := isSpace_of_beginsNumber first
  have other : ∀ {d : Char} {rest : List Char}, beginsNumber d = false →
      ¬c :: text = d :: rest := fun no same => by
    rw [(List.cons.inj same).1, no] at first
    exact Bool.false_ne_true first
  rw [value?, skipSpace_of_not_isSpace visible]
  split
  · next none => exact absurd none (List.cons_ne_nil c text)
  · next quote => exact absurd quote (other rfl)
  · next bracket => exact absurd bracket (other rfl)
  · next brace => exact absurd brace (other rfl)
  · next n => exact absurd n (other rfl)
  · next t => exact absurd t (other rfl)
  · next f => exact absurd f (other rfl)
  · rfl

theorem items?_last {item : Json} (read : value? steps text = some (item, rest))
    (closed : skipSpace rest = ']' :: later) :
    items? (steps + 1) text = some ([item], later) := by
  simp [items?, read, closed]

theorem items?_more {item : Json} (read : value? steps text = some (item, rest))
    (more : skipSpace rest = ',' :: later) :
    items? (steps + 1) text =
      (items? steps later).map fun items => (item :: items.1, items.2) := by
  simp only [items?, read, Option.bind_eq_bind, Option.bind_some, more]
  cases items? steps later <;> rfl

theorem items?_newline (steps level : Nat) (text : List Char) :
    items? steps (newline level ++ text) = items? steps text := by
  cases steps with
  | zero => rfl
  | succ steps => rw [items?, items?, value?_newline]

theorem members?_last {name : Option String} {value : Json} {body valueText : List Char}
    (start : skipSpace text = '"' :: body) (named : string? body = some (name, ':' :: valueText))
    (read : value? steps valueText = some (value, rest))
    (closed : skipSpace rest = '\x7d' :: later) :
    members? (steps + 1) text = some ([(name, value)], later) := by
  have colon : skipSpace (':' :: valueText) = ':' :: valueText := skipSpace_of_not_isSpace rfl _
  simp [members?, start, named, colon, read, closed]

theorem members?_more {name : Option String} {value : Json} {body valueText : List Char}
    (start : skipSpace text = '"' :: body) (named : string? body = some (name, ':' :: valueText))
    (read : value? steps valueText = some (value, rest))
    (more : skipSpace rest = ',' :: later) :
    members? (steps + 1) text =
      (members? steps later).map fun members => ((name, value) :: members.1, members.2) := by
  have colon : skipSpace (':' :: valueText) = ':' :: valueText := skipSpace_of_not_isSpace rfl _
  simp only [members?, start, named, Option.bind_eq_bind, Option.bind_some, colon, read, more]
  cases members? steps later <;> rfl

/-! ## Reading what is printed -/

/-- Whether the text of a datum is read as the value that stands for the datum. -/
def IsReadBack (datum : Datum) : Prop :=
  ∀ (level steps : Nat) (rest : List Char), EndsNumber rest →
    (print level datum).length < steps →
      value? steps (print level datum ++ rest) = some (ofDatum datum, rest)

/-- A value begins with a character that is no space and closes no list. -/
theorem print_cons (level : Nat) (datum : Datum) :
    ∃ c tail, print level datum = c :: tail ∧ isSpace c = false ∧ c ≠ ']' := by
  cases datum with
  | null => exact ⟨'n', _, rfl, rfl, by decide⟩
  | bool value => cases value <;> exact ⟨_, _, rfl, rfl, by decide⟩
  | number value =>
      obtain ⟨c, digits, equal, first⟩ := toString_cons value
      refine ⟨c, digits, equal, isSpace_of_beginsNumber first, fun closed => ?_⟩
      exact absurd (closed ▸ first) (by decide)
  | text value => exact ⟨'"', _, rfl, rfl, by decide⟩
  | list items => cases items <;> exact ⟨'[', _, rfl, rfl, by decide⟩
  | map entries => cases entries <;> exact ⟨'\x7b', _, rfl, rfl, by decide⟩
  | variant name payload => exact ⟨'\x7b', _, rfl, rfl, by decide⟩

theorem skipSpace_print (level : Nat) (datum : Datum) (rest : List Char) :
    ∃ c tail, print level datum ++ rest = c :: tail ∧ skipSpace (c :: tail) = c :: tail ∧
      c ≠ ']' := by
  obtain ⟨c, tail, equal, visible, open'⟩ := print_cons level datum
  exact ⟨c, tail ++ rest, by rw [equal, List.cons_append],
    skipSpace_of_not_isSpace visible _, open'⟩

theorem items?_print {level outer : Nat} {item : Datum} {items : List Datum}
    (each : ∀ datum ∈ item :: items, IsReadBack datum)
    (enough : (print level item ++ printItems level items).length + 1 < steps) :
    items? steps (print level item ++ (printItems level items ++
      (newline outer ++ ']' :: rest))) = some (ofItems (item :: items), rest) := by
  induction items generalizing item steps with
  | nil =>
      obtain ⟨steps, rfl⟩ := Nat.exists_eq_add_one_of_ne_zero (Nat.ne_zero_of_lt enough)
      simp only [printItems, List.length_append, List.length_nil] at enough
      rw [printItems, List.nil_append]
      refine items?_last (each item List.mem_cons_self level steps _
        (endsNumber_newline outer _) (by omega)) ?_
      rw [skipSpace_newline, skipSpace_of_not_isSpace rfl]
  | cons next items inductionHypothesis =>
      obtain ⟨steps, rfl⟩ := Nat.exists_eq_add_one_of_ne_zero (Nat.ne_zero_of_lt enough)
      simp only [printItems, List.length_append, List.length_cons] at enough
      rw [printItems, List.cons_append, List.cons_append, List.cons_append]
      rw [items?_more (each item List.mem_cons_self level steps _ (endsNumber_comma _)
          (by omega)) (skipSpace_of_not_isSpace rfl _), List.append_assoc, List.append_assoc,
        items?_newline, inductionHypothesis (fun datum member => each datum
          (List.mem_cons_of_mem item member)) (by rw [List.length_append]; omega)]
      rfl

theorem skipSpace_quoted (name : String) (rest : List Char) :
    skipSpace (quoted name ++ rest) = quoted name ++ rest :=
  skipSpace_of_not_isSpace rfl _

theorem value?_space (steps : Nat) (text : List Char) :
    value? steps (' ' :: text) = value? steps text := by
  cases steps with
  | zero => rfl
  | succ steps =>
      rw [value?, value?]
      rfl

theorem members?_newline (steps level : Nat) (text : List Char) :
    members? steps (newline level ++ text) = members? steps text := by
  cases steps with
  | zero => rfl
  | succ steps => rw [members?, members?, skipSpace_newline]

theorem members?_print {level outer : Nat} (entry : String × Datum)
    {entries : List (String × Datum)}
    (each : ∀ pair ∈ entry :: entries, IsReadBack pair.2)
    (enough : (print level entry.2 ++ printEntries level entries).length + 1 < steps) :
    members? steps (quoted entry.1 ++ (':' :: ' ' :: (print level entry.2 ++
      (printEntries level entries ++ (newline outer ++ '\x7d' :: rest))))) =
        some (ofEntries (entry :: entries), rest) := by
  induction entries generalizing entry steps with
  | nil =>
      obtain ⟨steps, rfl⟩ := Nat.exists_eq_add_one_of_ne_zero (Nat.ne_zero_of_lt enough)
      simp only [printEntries, List.length_append, List.length_nil] at enough
      rw [printEntries, List.nil_append]
      obtain ⟨body, start, named⟩ := string?_quoted entry.1 (':' :: ' ' ::
        (print level entry.2 ++ (newline outer ++ '\x7d' :: rest)))
      refine members?_last ((skipSpace_quoted _ _).trans start) named
        ((value?_space steps _).trans (each entry List.mem_cons_self level steps _
          (endsNumber_newline outer _) (by omega))) ?_
      rw [skipSpace_newline, skipSpace_of_not_isSpace rfl]
  | cons next entries inductionHypothesis =>
      obtain ⟨steps, rfl⟩ := Nat.exists_eq_add_one_of_ne_zero (Nat.ne_zero_of_lt enough)
      obtain ⟨name, value⟩ := next
      simp only [printEntries, List.length_append, List.length_cons] at enough
      simp only [printEntries, List.cons_append, List.append_assoc, List.nil_append]
      obtain ⟨body, start, named⟩ := string?_quoted entry.1 (':' :: ' ' ::
        (print level entry.2 ++ (',' :: (newline level ++ (quoted name ++ (':' :: ' ' ::
          (print level value ++ (printEntries level entries ++
            (newline outer ++ '\x7d' :: rest)))))))))
      rw [members?_more ((skipSpace_quoted _ _).trans start) named
          ((value?_space steps _).trans (each entry List.mem_cons_self level steps _
            (endsNumber_comma _) (by omega))) (skipSpace_of_not_isSpace rfl _),
        members?_newline, inductionHypothesis (name, value) (fun pair member => each pair
          (List.mem_cons_of_mem entry member)) (by simp only [List.length_append]; omega)]
      rfl

theorem isReadBack_list {items : List Datum} (each : ∀ item ∈ items, IsReadBack item) :
    IsReadBack (.list items) := by
  intro level steps rest _ enough
  obtain ⟨steps, rfl⟩ := Nat.exists_eq_add_one_of_ne_zero (Nat.ne_zero_of_lt enough)
  cases items with
  | nil => rfl
  | cons item items =>
      simp only [print, List.length_append, List.length_cons] at enough
      obtain ⟨c, tail, equal, visible, more⟩ := skipSpace_print (level + 1) item
        (printItems (level + 1) items ++ (newline level ++ ']' :: rest))
      simp only [print, List.cons_append, List.append_assoc, List.nil_append]
      rw [value?_list (((skipSpace_newline _ _).trans (congrArg skipSpace equal)).trans visible)
          more, ← equal, items?_print each (by simp only [List.length_append]; omega)]
      rfl

theorem isReadBack_map {entries : List (String × Datum)}
    (each : ∀ entry ∈ entries, IsReadBack entry.2) : IsReadBack (.map entries) := by
  intro level steps rest _ enough
  obtain ⟨steps, rfl⟩ := Nat.exists_eq_add_one_of_ne_zero (Nat.ne_zero_of_lt enough)
  cases entries with
  | nil => rfl
  | cons entry entries =>
      obtain ⟨name, value⟩ := entry
      simp only [print, List.length_append, List.length_cons] at enough
      simp only [print, List.cons_append, List.append_assoc, List.nil_append]
      have start := (skipSpace_newline (level + 1) _).trans (skipSpace_quoted name
        (':' :: ' ' :: (print (level + 1) value ++ (printEntries (level + 1) entries ++
          (newline level ++ '\x7d' :: rest)))))
      rw [value?_object start (by decide)]
      refine (congrArg (Option.map _) (members?_print (name, value) each ?_)).trans rfl
      simp only [List.length_append]
      omega

/-- A variant with a payload is written as a record of one field. -/
theorem print_variant (level : Nat) (name : String) (payload : Datum) :
    print level (.variant name payload) = print level (.map [(name, payload)]) := by
  simp [print, printEntries]

/-- The text of a datum is read as the value that stands for the datum. -/
theorem isReadBack (datum : Datum) : IsReadBack datum := by
  induction datum using Datum.inductionOn with
  | null =>
      intro level steps rest _ enough
      obtain ⟨steps, rfl⟩ := Nat.exists_eq_add_one_of_ne_zero (Nat.ne_zero_of_lt enough)
      rfl
  | bool value =>
      intro level steps rest _ enough
      obtain ⟨steps, rfl⟩ := Nat.exists_eq_add_one_of_ne_zero (Nat.ne_zero_of_lt enough)
      cases value <;> rfl
  | number value =>
      intro level steps rest ends enough
      obtain ⟨steps, rfl⟩ := Nat.exists_eq_add_one_of_ne_zero (Nat.ne_zero_of_lt enough)
      obtain ⟨c, digits, equal, first⟩ := toString_cons value
      have read := number?_toString value ends
      rw [print]
      rw [equal, List.cons_append] at read ⊢
      rw [value?_number first, read, ofDatum]
  | text value =>
      intro level steps rest _ enough
      obtain ⟨steps, rfl⟩ := Nat.exists_eq_add_one_of_ne_zero (Nat.ne_zero_of_lt enough)
      obtain ⟨body, equal, read⟩ := string?_quoted value rest
      rw [print, equal]
      change (string? body).map _ = _
      rw [read]
      rfl
  | list items each => exact isReadBack_list each
  | map entries each => exact isReadBack_map each
  | variant name payload holds =>
      intro level
      rw [print_variant]
      exact isReadBack_map (List.forall_mem_singleton.mpr holds) level

/-- A printed document is parsed as the value that stands for its datum. -/
theorem parse?_render (datum : Datum) : parse? (render datum) = some (ofDatum datum) := by
  have read := isReadBack datum 0 ((print 0 datum).length + 1) [] (by rintro c ⟨⟩)
    (Nat.lt_succ_self _)
  rw [List.append_nil] at read
  unfold parse? render
  simp only [String.toList_ofList, read]
  rfl

/-! ## What a value stands for -/

theorem ofItems_eq_map (items : List Datum) : ofItems items = items.map ofDatum := by
  induction items with
  | nil => rfl
  | cons item items inductionHypothesis => rw [ofItems, inductionHypothesis, List.map_cons]

theorem ofEntries_eq_map (entries : List (String × Datum)) :
    ofEntries entries = entries.map fun entry => (some entry.1, ofDatum entry.2) := by
  induction entries with
  | nil => rfl
  | cons entry entries inductionHypothesis => rw [ofEntries, inductionHypothesis, List.map_cons]

/-- The members of a record with their names as values. -/
theorem namedMembers_ofEntries (entries : List (String × Datum)) :
    namedMembers (ofEntries entries) =
      entries.map fun entry => (string (some entry.1), ofDatum entry.2) := by
  rw [ofEntries_eq_map, namedMembers, List.map_map]
  rfl

theorem represents_ofDatum {nesting : Nat} {datum : Datum} (recorded : datum.Recorded nesting) :
    Represents (ofDatum datum) datum := by
  induction recorded with
  | null => exact .null rfl rfl
  | bool value => exact .bool rfl rfl
  | number _ => exact .number rfl rfl
  | text value => exact .text rfl rfl rfl
  | list _ represented =>
      refine .list rfl rfl ?_
      rw [ofItems_eq_map, List.forall₂_map_left_iff]
      exact List.forall₂_same.mpr represented
  | @map _ entries _ _ represented =>
      have taken := congrArg some (namedMembers_ofEntries entries)
      refine .map rfl rfl (fun _ => taken) taken ?_ ?_
      · rw [List.forall₂_map_left_iff]
        exact List.forall₂_same.mpr fun _ _ => ⟨rfl, rfl⟩
      · rw [List.forall₂_map_left_iff]
        exact List.forall₂_same.mpr represented
  | variant _ _ => exact .variant rfl rfl (.number rfl rfl)

end ServoLink.Json
