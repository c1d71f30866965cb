namespace ServoLink

/-! ## Maps ordered by name -/

/-- A finite map from names, kept in the order of the names' code points. -/
structure NameMap (β : Type) where
  entries : List (String × β)
  ordered : entries.Pairwise fun first second => first.1 < second.1

namespace NameMap

variable {β : Type}

instance [DecidableEq β] : DecidableEq (NameMap β) := fun first second =>
  if same : first.entries = second.entries then
    .isTrue (by cases first; cases second; simpa using same)
  else
    .isFalse fun equal => same (congrArg entries equal)

instance [Repr β] : Repr (NameMap β) where
  reprPrec names level := reprPrec names.entries level

def empty : NameMap β := ⟨[], .nil⟩

instance : Inhabited (NameMap β) := ⟨empty⟩

def isEmpty (names : NameMap β) : Bool := names.entries.isEmpty

/-- The value of a name. -/
def get? (names : NameMap β) (name : String) : Option β :=
  names.entries.lookup name

def insertEntry (name : String) (value : β) : List (String × β) → List (String × β)
  | [] => [(name, value)]
  | entry :: rest =>
      if name < entry.1 then (name, value) :: entry :: rest
      else if name = entry.1 then (name, value) :: rest
      else entry :: insertEntry name value rest

theorem mem_insertEntry
    {name : String} {value : β} {entries : List (String × β)} {entry : String × β}
    (member : entry ∈ insertEntry name value entries) :
    entry = (name, value) ∨ entry ∈ entries := by
  induction entries with
  | nil =>
      exact Or.inl (by simpa [insertEntry] using member)
  | cons head rest induction =>
      unfold insertEntry at member
      split at member
      · rcases List.mem_cons.mp member with equal | inside
        · exact Or.inl equal
        · exact Or.inr inside
      · split at member
        · rcases List.mem_cons.mp member with equal | inside
          · exact Or.inl equal
          · exact Or.inr (List.mem_cons_of_mem _ inside)
        · rcases List.mem_cons.mp member with equal | inside
          · exact Or.inr (equal ▸ List.mem_cons_self)
          · rcases induction inside with equal | old
            · exact Or.inl equal
            · exact Or.inr (List.mem_cons_of_mem _ old)

theorem ordered_insertEntry
    (name : String) (value : β) {entries : List (String × β)}
    (ordered : entries.Pairwise fun first second => first.1 < second.1) :
    (insertEntry name value entries).Pairwise fun first second => first.1 < second.1 := by
  induction entries with
  | nil =>
      simp [insertEntry]
  | cons head rest induction =>
      obtain ⟨below, tail⟩ := List.pairwise_cons.mp ordered
      unfold insertEntry
      split
      next before =>
        refine List.pairwise_cons.mpr ⟨fun entry member => ?_, ordered⟩
        rcases List.mem_cons.mp member with equal | inside
        · exact equal ▸ before
        · exact String.lt_trans before (below entry inside)
      next notBefore =>
        split
        next same =>
          refine List.pairwise_cons.mpr ⟨fun entry member => ?_, tail⟩
          exact same ▸ below entry member
        next different =>
          refine List.pairwise_cons.mpr ⟨fun entry member => ?_, induction tail⟩
          rcases mem_insertEntry member with equal | old
          · subst equal
            refine Decidable.byContradiction fun notAfter => different ?_
            exact String.le_antisymm (String.not_lt.mp notAfter) (String.not_lt.mp notBefore)
          · exact below entry old

/-- The map with `name` bound to `value`, whatever it was bound to before. -/
def insert (names : NameMap β) (name : String) (value : β) : NameMap β :=
  ⟨insertEntry name value names.entries, ordered_insertEntry name value names.ordered⟩

/-- The map of a list of entries, in which a later entry of a name wins. -/
def ofList (entries : List (String × β)) : NameMap β :=
  entries.foldl (fun names entry => names.insert entry.1 entry.2) empty

end NameMap

end ServoLink
