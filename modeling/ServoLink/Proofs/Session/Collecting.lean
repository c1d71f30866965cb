import Mathlib.Logic.Function.Basic
import ServoLink.Proofs.Exchange.Results
import ServoLink.Proofs.Exchange.Sequence
import ServoLink.Proofs.Session.Reading

/-!
# Collecting parameters

`collect` reads parameters in order and gives the word of each.  A read needs a reply of
exactly the parameter's width, and nothing else, so every word fits the width of its
parameter, and all reads succeed exactly if the device answers each of them so.
-/

namespace ServoLink

namespace Parameter

variable {parameter : Parameter} {range : ParameterRange}

/-- A reply is read exactly if it has the width of its parameter. -/
theorem decode_settles (known : parameter.range? = some range) (reply : List UInt8) :
    Settles (parameter.decode reply) (reply.length = range.width)
      (fun cause => cause = .protocol (.shortRead .parameter range.width reply.length))
      (wordAt reply 0) := by
  have width := (wellFormed_of_range? known).width
  unfold decode
  rw [range_eq_ok known]
  obtain ⟨named, bytes, least, greatest⟩ := range
  dsimp only at width
  constructor
  · intro right
    rcases width with rfl | rfl
    · obtain ⟨low, rfl⟩ := List.length_eq_one_iff.mp right
      refine congrArg Except.ok (UInt16.toNat_inj.mp ?_)
      change low.toUInt16.toNat = (wordOfBytes low 0).toNat
      rw [wordOfBytes_toNat, UInt8.toNat_toUInt16]
      rfl
    · obtain ⟨low, high, rfl⟩ := List.length_eq_two.mp right
      rfl
  · intro wrong
    refine ⟨_, ?_, rfl⟩
    rcases width with rfl | rfl
    · match reply, wrong with
      | [], _ => rfl
      | [low], wrong => exact absurd rfl wrong
      | _ :: _ :: _, _ => rfl
    · match reply, wrong with
      | [], _ => rfl
      | [_], _ => rfl
      | [low, high], wrong => exact absurd rfl wrong
      | _ :: _ :: _ :: _, _ => rfl

/-- The word of a reply fits as many bytes as the reply has. -/
theorem wordAt_toNat_lt
    (known : parameter.range? = some range) {reply : List UInt8}
    (right : reply.length = range.width) : (wordAt reply 0).toNat < 256 ^ range.width := by
  unfold wordAt
  rw [wordOfBytes_toNat]
  rcases (wellFormed_of_range? known).width with width | width
  · rw [width] at right ⊢
    obtain ⟨low, rfl⟩ := List.length_eq_one_iff.mp right
    have bound := low.toNat_lt
    change low.toNat + 256 * 0 < 256
    omega
  · rw [width] at right ⊢
    obtain ⟨low, high, rfl⟩ := List.length_eq_two.mp right
    have lowBound := low.toNat_lt
    have highBound := high.toNat_lt
    change low.toNat + 256 * high.toNat < 65536
    omega

end Parameter

namespace Controller

variable {α β δ : Type} {parameter : Parameter} {range : ParameterRange}

/-! ## One parameter -/

theorem getRawParameter_of_known (known : parameter.range? = some range) :
    getRawParameter parameter =
      (do parameter.decode (← Exchange.receiving parameter.query range.width)) := by
  unfold getRawParameter
  rw [Parameter.range_eq_ok known, Exchange.liftM_protocol_ok, Exchange.done_bind]

/-- A word that has been read fits the width of its parameter. -/
theorem getRawParameter_gives (known : parameter.range? = some range) :
    (getRawParameter parameter).Gives fun word => word.toNat < 256 ^ range.width := by
  rw [getRawParameter_of_known known]
  intro reply
  change Exchange.Gives _ (liftM (parameter.decode reply))
  by_cases right : reply.length = range.width
  · rw [(Parameter.decode_settles known reply).accept right]
    exact Parameter.wordAt_toNat_lt known right
  · obtain ⟨cause, failed, _⟩ := (Parameter.decode_settles known reply).refuse right
    rw [failed]
    exact True.intro

/-- What comes after a read matters for words of the parameter's width only. -/
theorem getRawParameter_bind_congr
    (known : parameter.range? = some range) {first second : UInt16 → Exchange α}
    (same : ∀ word, word.toNat < 256 ^ range.width → first word = second word) :
    getRawParameter parameter >>= first = getRawParameter parameter >>= second :=
  Exchange.bind_congr_of_gives (getRawParameter_gives known) same

/-! ## Parameters in order -/

/-- Reads parameters in order and gives the word of each. -/
def collect : List Parameter → Exchange (Parameter → UInt16)
  | [] => .done fun _ => 0
  | first :: rest => do
      let word ← getRawParameter first
      let others ← collect rest
      return Function.update others first word

/-- Every word fits the width of its parameter. -/
def Fitting (register : Parameter → UInt16) : Prop :=
  ∀ parameter range, parameter.range? = some range →
    (register parameter).toNat < 256 ^ range.width

theorem collect_gives
    {order : List Parameter}
    (known : ∀ parameter ∈ order, ∃ range, parameter.range? = some range) :
    (collect order).Gives Fitting := by
  induction order with
  | nil =>
      exact fun parameter range _ => Nat.pow_pos (by decide)
  | cons first rest inductionHypothesis =>
      obtain ⟨⟨firstRange, firstKnown⟩, restKnown⟩ := List.forall_mem_cons.mp known
      refine Exchange.gives_bind (getRawParameter_gives firstKnown) fun word fits => ?_
      refine Exchange.gives_bind (inductionHypothesis restKnown) fun others fitting => ?_
      intro parameter range found
      by_cases same : parameter = first
      · subst same
        rw [firstKnown] at found
        cases found
        rw [Function.update_self]
        exact fits
      · rw [Function.update_of_ne same]
        exact fitting parameter range found

/-- The words of the parameters in a list, and those of the others. -/
def overlay (order : List Parameter) (inside outside : Parameter → UInt16)
    (parameter : Parameter) : UInt16 :=
  if parameter ∈ order then inside parameter else outside parameter

theorem overlay_cons
    (first : Parameter) (rest : List Parameter) (word : UInt16)
    (inside outside : Parameter → UInt16) :
    Function.update (overlay rest inside outside) first word =
      overlay (first :: rest) (Function.update inside first word) outside := by
  funext parameter
  unfold overlay
  by_cases same : parameter = first
  · subst same
    rw [Function.update_self, if_pos List.mem_cons_self, Function.update_self]
  · simp only [Function.update_of_ne same, List.mem_cons, same, false_or]

theorem collect_append (first second : List Parameter) :
    collect (first ++ second) = (do
      let inside ← collect first
      let outside ← collect second
      return overlay first inside outside) := by
  induction first with
  | nil =>
      exact (bind_pure (collect second)).symm
  | cons parameter rest inductionHypothesis =>
      change (getRawParameter parameter >>= fun word =>
        collect (rest ++ second) >>= fun others =>
          pure (Function.update others parameter word)) = _
      rw [inductionHypothesis]
      simp only [collect, LawfulMonad.bind_assoc, pure_bind, overlay_cons]

/-- The exchange reads some parameters in order and gives a value of their words. -/
def Reads (exchange : Exchange α) (order : List Parameter)
    (value : (Parameter → UInt16) → α) : Prop :=
  exchange = value <$> collect order

namespace Reads

theorem done {result : α} {value : (Parameter → UInt16) → α}
    (same : result = value fun _ => 0) : Reads (.done result) [] value := by
  rw [same]
  rfl

theorem cons
    {next : UInt16 → Exchange α} {rest : List Parameter} {value : (Parameter → UInt16) → α}
    (known : parameter.range? = some range)
    (each : ∀ word, word.toNat < 256 ^ range.width →
      Reads (next word) rest fun register => value (Function.update register parameter word)) :
    Reads (getRawParameter parameter >>= next) (parameter :: rest) value := by
  have same : getRawParameter parameter >>= next =
      getRawParameter parameter >>= fun word =>
        (fun register => value (Function.update register parameter word)) <$> collect rest :=
    getRawParameter_bind_congr known each
  unfold Reads
  rw [same]
  simp only [collect, map_eq_pure_bind, LawfulMonad.bind_assoc, pure_bind]

theorem bind
    {first : Exchange α} {next : α → Exchange β} {order rest : List Parameter}
    {value : (Parameter → UInt16) → α} {final : (Parameter → UInt16) → β}
    (begins : Reads first order value)
    (continues : ∀ inside, Reads (next (value inside)) rest fun outside =>
      final (overlay order inside outside)) :
    Reads (first >>= next) (order ++ rest) final := by
  unfold Reads at begins continues ⊢
  rw [begins, collect_append, bind_map_left]
  simp only [continues, map_eq_pure_bind, LawfulMonad.bind_assoc, pure_bind]

/-- What follows the last read needs no further one. -/
theorem bind_done
    {exchange : Exchange α} {next : α → Exchange β} {order : List Parameter}
    {value : (Parameter → UInt16) → α} {final : (Parameter → UInt16) → β}
    (begins : Reads exchange order value)
    (ends : ∀ register, next (value register) = .done (final register)) :
    Reads (exchange >>= next) order final := by
  unfold Reads at begins ⊢
  rw [begins, bind_map_left]
  simp only [ends, map_eq_pure_bind, Exchange.pure_eq_done]

end Reads

/-! ## Settings -/

/-- The words that `collect` gives are those that are looked up among the values read. -/
theorem lookup_values_eq_collect (order : List Parameter) :
    (fun values parameter => ((values.lookup parameter).getD 0 : UInt16)) <$>
        order.mapM (fun parameter => do return (parameter, ← getRawParameter parameter)) =
      collect order := by
  induction order with
  | nil =>
      rfl
  | cons first rest inductionHypothesis =>
      have lookup (word : UInt16) (values : List (Parameter × UInt16)) :
          (fun parameter => ((((first, word) :: values).lookup parameter).getD 0)) =
            Function.update (fun parameter => (values.lookup parameter).getD 0) first word := by
        funext parameter
        rw [List.lookup_cons, Function.update_apply]
        by_cases same : parameter = first
        · simp [same]
        · rw [beq_false_of_ne same, if_neg same]
      rw [collect, ← inductionHypothesis]
      simp only [List.mapM_cons, map_eq_pure_bind, LawfulMonad.bind_assoc, pure_bind, lookup]

/-- Settings are collected, and then the words stand for them. -/
theorem readSettings_eq_collect (controller : Controller) :
    controller.readSettings =
      Settings.ofRegisters controller.model <$> collect controller.model.readOrder := by
  rw [← lookup_values_eq_collect, Functor.map_map]
  rfl

/-! ## Answers -/

section Run

variable [Transport δ]

/-- The device answers one read after the other with a reply of the parameter's width. -/
def Answers : List Parameter → δ → Prop
  | [], _ => True
  | first :: rest, device =>
      ∃ range reply left, first.range? = some range ∧
        Transport.receive first.query range.width device = (.ok reply, left) ∧
        reply.length = range.width ∧ Answers rest left

/-- A read succeeds exactly for a reply of the parameter's width. -/
theorem run_getRawParameter_ok_iff {line left : Exchange.Line δ} {word : UInt16} :
    (getRawParameter parameter).run line = (.ok word, left) ↔
      ∃ range reply device, parameter.range? = some range ∧
        Transport.receive parameter.query range.width line.device = (.ok reply, device) ∧
        reply.length = range.width ∧ word = wordAt reply 0 ∧
        left = { line with device, counters := line.counters.map (·.received) } := by
  cases known : parameter.range? with
  | none =>
      have unknown : getRawParameter parameter =
          .stop (.protocol (.unknownParameter parameter)) := by
        unfold getRawParameter Parameter.range
        rw [known]
        rfl
      rw [unknown]
      simp [Exchange.run]
  | some range =>
      have verdict := Parameter.decode_settles known
      rw [getRawParameter_of_known known]
      cases transfer : Transport.receive parameter.query range.width line.device with
      | mk outcome device =>
          cases outcome with
          | error cause =>
              rw [Exchange.run_receiving_of_error transfer]
              simp [transfer]
          | ok reply =>
              rw [Exchange.run_receiving_of_ok transfer]
              by_cases right : reply.length = range.width
              · rw [(verdict reply).accept right]
                simp [Exchange.run, transfer, right, eq_comm]
              · obtain ⟨cause, failed, _⟩ := (verdict reply).refuse right
                rw [failed]
                simp [Exchange.run, transfer, right]

theorem collect_ok_iff (order : List Parameter) (line : Exchange.Line δ) :
    (∃ register, ((collect order).run line).1 = .ok register) ↔
      Answers order line.device := by
  induction order generalizing line with
  | nil =>
      exact ⟨fun _ => True.intro, fun _ => ⟨_, rfl⟩⟩
  | cons first rest inductionHypothesis =>
      constructor
      · rintro ⟨register, completed⟩
        obtain ⟨word, left, read, others⟩ := Exchange.ok_of_run_bind completed
        obtain ⟨found, last, collected, _⟩ := Exchange.ok_of_run_bind others
        obtain ⟨range, reply, device, known, transfer, right, _, rfl⟩ :=
          run_getRawParameter_ok_iff.mp read
        exact ⟨range, reply, device, known, transfer, right,
          (inductionHypothesis _).mp ⟨found, congrArg Prod.fst collected⟩⟩
      · rintro ⟨range, reply, device, known, transfer, right, answers⟩
        have read := run_getRawParameter_ok_iff.mpr
          ⟨range, reply, device, known, transfer, right, rfl, rfl⟩
        obtain ⟨found, collected⟩ := (inductionHypothesis
          { line with device, counters := line.counters.map (·.received) }).mpr answers
        rw [collect, Exchange.run_bind_of_ok read,
          Exchange.run_bind_of_ok (Prod.ext collected rfl)]
        exact ⟨_, rfl⟩

end Run

end Controller

end ServoLink
