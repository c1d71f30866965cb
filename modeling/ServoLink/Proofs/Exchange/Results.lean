import ServoLink.Proofs.Exchange

/-!
# What the results of an exchange satisfy

`Exchange.Gives` says something about every result that an exchange may end with, whatever
the replies.  What follows in the exchange then matters for such results only.
-/

namespace ServoLink

namespace Exchange

variable {α β δ : Type} {property : α → Prop}

/-- Every result of the exchange satisfies the property. -/
def Gives (property : α → Prop) : Exchange α → Prop
  | done result => property result
  | stop _ => True
  | send _ _ _ next => next.Gives property
  | receive _ _ next => ∀ reply, (next reply).Gives property
  | settle _ next => next.Gives property

theorem gives_bind
    {further : β → Prop} {exchange : Exchange α} {after : α → Exchange β}
    (first : exchange.Gives property)
    (rest : ∀ result, property result → (after result).Gives further) :
    (exchange >>= after).Gives further := by
  change (exchange.bind after).Gives further
  induction exchange with
  | done result =>
      exact rest result first
  | stop cause =>
      exact True.intro
  | send setup payload tally next inductionHypothesis =>
      exact inductionHypothesis first
  | receive setup length next inductionHypothesis =>
      exact fun reply => inductionHypothesis reply (first reply)
  | settle milliseconds next inductionHypothesis =>
      exact inductionHypothesis first

/-- Continuations may differ for results that the exchange never gives. -/
theorem bind_congr_of_gives
    {exchange : Exchange α} {first second : α → Exchange β}
    (gives : exchange.Gives property)
    (same : ∀ result, property result → first result = second result) :
    exchange >>= first = exchange >>= second := by
  change exchange.bind first = exchange.bind second
  induction exchange with
  | done result =>
      exact same result gives
  | stop cause =>
      rfl
  | send setup payload tally next inductionHypothesis =>
      exact congrArg (send setup payload tally) (inductionHypothesis gives)
  | receive setup length next inductionHypothesis =>
      exact congrArg (receive setup length)
        (funext fun reply => inductionHypothesis reply (gives reply))
  | settle milliseconds next inductionHypothesis =>
      exact congrArg (settle milliseconds) (inductionHypothesis gives)

theorem Gives.of_run
    [Transport δ] {exchange : Exchange α} (gives : exchange.Gives property)
    {line : Line δ} {result : α} (completed : (exchange.run line).1 = .ok result) :
    property result := by
  induction exchange generalizing line with
  | done found =>
      cases completed
      exact gives
  | stop cause =>
      cases completed
  | send setup payload tally next inductionHypothesis =>
      rw [run] at completed
      split at completed
      · exact inductionHypothesis gives completed
      · cases completed
  | receive setup length next inductionHypothesis =>
      rw [run] at completed
      split at completed
      · exact inductionHypothesis _ (gives _) completed
      · cases completed
  | settle milliseconds next inductionHypothesis =>
      rw [run] at completed
      exact inductionHypothesis gives completed

end Exchange

end ServoLink
