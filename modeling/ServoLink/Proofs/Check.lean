import Mathlib.Logic.Basic

/-!
# Checks with an exact verdict

`Settles check accepted refusal result` says everything about a check that may fail:
where `accepted` holds it gives `result`, and elsewhere it fails with a cause that
satisfies `refusal`.  Verdicts compose along `bind` and `mapM`, so the verdict of a
long check is put together from those of its steps.
-/

namespace ServoLink

variable {ε α β : Type}

/-- The check gives `result` where `accepted` holds, and a refusal elsewhere. -/
structure Settles
    (check : Except ε α) (accepted : Prop) (refusal : ε → Prop) (result : α) : Prop where
  accept : accepted → check = .ok result
  refuse : ¬ accepted → ∃ cause, check = .error cause ∧ refusal cause

namespace Settles

variable {check : Except ε α} {accepted further : Prop} {refusal : ε → Prop} {result : α}

theorem ok (result : α) : Settles (.ok result) True refusal result :=
  ⟨fun _ => rfl, fun never => absurd True.intro never⟩

theorem pure (result : α) :
    Settles (Pure.pure result : Except ε α) True refusal result :=
  ok result

theorem congr
    (verdict : Settles check accepted refusal result) (same : accepted ↔ further) :
    Settles check further refusal result :=
  ⟨fun holds => verdict.accept (same.mpr holds),
    fun fails => verdict.refuse fun holds => fails (same.mp holds)⟩

theorem eq_ok_iff
    (verdict : Settles check accepted refusal result) {found : α} :
    check = .ok found ↔ accepted ∧ found = result := by
  by_cases holds : accepted
  · rw [verdict.accept holds]
    simp [holds, eq_comm]
  · obtain ⟨cause, equal, _⟩ := verdict.refuse holds
    rw [equal]
    simp [holds]

theorem bind
    {after : α → Except ε β} {final : β}
    (first : Settles check accepted refusal result)
    (rest : accepted → Settles (after result) further refusal final) :
    Settles (check >>= after) (accepted ∧ further) refusal final where
  accept := fun ⟨holds, more⟩ => by
    rw [first.accept holds]
    exact (rest holds).accept more
  refuse := fun fails => by
    by_cases holds : accepted
    · obtain ⟨cause, equal, refused⟩ :=
        (rest holds).refuse fun more => fails ⟨holds, more⟩
      exact ⟨cause, by rw [first.accept holds]; exact equal, refused⟩
    · obtain ⟨cause, equal, refused⟩ := first.refuse holds
      exact ⟨cause, by rw [equal]; rfl, refused⟩

theorem map
    (f : α → β) (verdict : Settles check accepted refusal result) :
    Settles (check.map f) accepted refusal (f result) where
  accept := fun holds => by
    rw [verdict.accept holds]
    rfl
  refuse := fun fails => by
    obtain ⟨cause, equal, refused⟩ := verdict.refuse fails
    exact ⟨cause, by rw [equal]; rfl, refused⟩

theorem mapError
    {φ : Type} {wrap : ε → φ} {wrapped : φ → Prop}
    (verdict : Settles check accepted refusal result)
    (wraps : ∀ cause, refusal cause → wrapped (wrap cause)) :
    Settles (check.mapError wrap) accepted wrapped result where
  accept := fun holds => by
    rw [verdict.accept holds]
    rfl
  refuse := fun fails => by
    obtain ⟨cause, equal, refused⟩ := verdict.refuse fails
    exact ⟨wrap cause, by rw [equal]; rfl, wraps cause refused⟩

/-- A list of checks accepts when each of them does, and gives all their results. -/
theorem mapM
    {step : α → Except ε β} {accepts : α → Prop} {value : α → β} {items : List α}
    (each : ∀ item ∈ items, Settles (step item) (accepts item) refusal (value item)) :
    Settles (items.mapM step) (∀ item ∈ items, accepts item) refusal (items.map value) := by
  induction items with
  | nil =>
      exact (ok []).congr (by simp)
  | cons first rest inductionHypothesis =>
      rw [List.mapM_cons]
      have head := each first List.mem_cons_self
      have tail := inductionHypothesis fun item member =>
        each item (List.mem_cons_of_mem first member)
      refine (head.bind fun _ => tail.bind fun _ =>
        pure (value first :: rest.map value)).congr ?_
      simp

end Settles

/-- Steps that only give their values give all of them. -/
theorem mapM_of_pure
    {m : Type → Type} [Monad m] [LawfulMonad m]
    {step : α → m β} {value : α → β} {items : List α}
    (each : ∀ item ∈ items, step item = pure (value item)) :
    items.mapM step = pure (items.map value) := by
  induction items with
  | nil =>
      rw [List.mapM_nil, List.map_nil]
  | cons first rest inductionHypothesis =>
      have head := each first List.mem_cons_self
      have tail := inductionHypothesis fun item member =>
        each item (List.mem_cons_of_mem first member)
      rw [List.mapM_cons, head, tail, pure_bind, pure_bind, List.map_cons]

end ServoLink
