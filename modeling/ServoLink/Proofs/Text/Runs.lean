import Mathlib.Data.List.TakeWhile

/-!
# Runs of characters

A text that begins with a run of characters of one kind splits where the run ends.
-/

namespace ServoLink

variable {select : Char → Bool} {run rest : List Char}

/-- Whether a text does not go on with a character of a kind. -/
def Stops (select : Char → Bool) (rest : List Char) : Prop :=
  ∀ c ∈ rest.head?, select c = false

theorem stops_nil : Stops select [] := by
  rintro c ⟨⟩

theorem stops_cons {c : Char} (other : select c = false) : Stops select (c :: rest) := by
  rintro c ⟨⟩
  exact other

theorem Stops.head {c : Char} (stops : Stops select (c :: rest)) : select c = false :=
  stops c rfl

theorem takeWhile_of_stops (stops : Stops select rest) : rest.takeWhile select = [] := by
  cases rest with
  | nil => rfl
  | cons c rest => simp [stops.head]

theorem dropWhile_of_stops (stops : Stops select rest) : rest.dropWhile select = rest := by
  cases rest with
  | nil => rfl
  | cons c rest => simp [stops.head]

theorem takeWhile_run (all : ∀ c ∈ run, select c = true) (stops : Stops select rest) :
    (run ++ rest).takeWhile select = run := by
  rw [List.takeWhile_append_of_pos all, takeWhile_of_stops stops, List.append_nil]

theorem dropWhile_run (all : ∀ c ∈ run, select c = true) (stops : Stops select rest) :
    (run ++ rest).dropWhile select = rest := by
  rw [List.dropWhile_append_of_pos all, dropWhile_of_stops stops]

theorem stops_dropWhile (text : List Char) : Stops select (text.dropWhile select) := by
  induction text with
  | nil => exact stops_nil
  | cons c text inductionHypothesis =>
      by_cases same : select c = true
      · simpa [same] using inductionHypothesis
      · simpa [same] using stops_cons (Bool.eq_false_iff.mpr same)

/-- A text is a run and what follows it. -/
theorem exists_run (select : Char → Bool) (text : List Char) :
    ∃ run rest, text = run ++ rest ∧ (∀ c ∈ run, select c = true) ∧ Stops select rest :=
  ⟨text.takeWhile select, text.dropWhile select, List.takeWhile_append_dropWhile.symm,
    fun _ member => List.mem_takeWhile_imp member, stops_dropWhile text⟩

end ServoLink
