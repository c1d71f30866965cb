import ServoLink.Proofs.Session.ExactReading

/-!
# Reading settings through any reader

A reader answers for a parameter with a word, or it fails.  Whatever it answers, it is asked
for the same parameters in the same order, until it fails for the first time; that failure
is then the result.
-/

namespace ServoLink

variable {σ α β : Type}

/-! ## Readers -/

/-- A reader answers for a parameter with a word or fails.  Its state is what later answers
depend on. -/
abbrev Reader (σ : Type) := Parameter → σ → Except Error UInt16 × σ

/-- A parameter that a reader was asked for, with its reply. -/
structure Asked where
  parameter : Parameter
  reply : Except Error UInt16

def Asked.answered (entry : Parameter × UInt16) : Asked :=
  ⟨entry.1, .ok entry.2⟩

/-- Steps that may fail, with a record of what a reader was asked. -/
abbrev Asking (σ : Type) := ExceptT Error (StateM (σ × List Asked))

namespace Asking

def perform (action : Asking σ α) (state : σ × List Asked) :
    Except Error α × (σ × List Asked) :=
  (action.run.run state).run

variable {action : Asking σ α} {after : α → Asking σ β} {state left : σ × List Asked}

theorem perform_bind_of_ok {result : α} (done : action.perform state = (.ok result, left)) :
    (action >>= after).perform state = (after result).perform left := by
  unfold perform at done ⊢
  rw [ExceptT.run_bind, StateT.run_bind, Id.run_bind, done]

theorem perform_bind_of_error {cause : Error}
    (failed : action.perform state = (.error cause, left)) :
    (action >>= after).perform state = (.error cause, left) := by
  unfold perform at failed ⊢
  rw [ExceptT.run_bind, StateT.run_bind, Id.run_bind, failed]
  rfl

theorem perform_map (f : α → β) :
    (f <$> action).perform state =
      ((action.perform state).1.map f, (action.perform state).2) := by
  rw [map_eq_pure_bind]
  cases performed : action.perform state with
  | mk outcome left =>
      cases outcome with
      | ok result => exact perform_bind_of_ok performed
      | error cause => exact perform_bind_of_error performed

end Asking

/-! ## What is asked -/

/-- The settings of the words that have been read. -/
def Settings.ofValues (model : Model) (values : List (Parameter × UInt16)) : Settings :=
  Settings.ofRegisters model fun parameter => (values.lookup parameter).getD 0

namespace Reader

/-- The reader with a record of every parameter that it is asked for. -/
def recorded (reader : Reader σ) (parameter : Parameter) : Asking σ UInt16 :=
  ExceptT.mk fun state : σ × List Asked =>
    pure ((reader parameter state.1).1,
      ((reader parameter state.1).2, state.2 ++ [⟨parameter, (reader parameter state.1).1⟩]))

/-- The record holds what the reader replies, one reply after the other. -/
inductive Replied (reader : Reader σ) : σ → List Asked → Prop
  | nil (state : σ) : Replied reader state []
  | cons {state next : σ} {parameter : Parameter} {reply : Except Error UInt16}
      {rest : List Asked} :
      reader parameter state = (reply, next) → Replied reader next rest →
      Replied reader state (⟨parameter, reply⟩ :: rest)

/-- Every parameter gets an answer. -/
def NeverFails (reader : Reader σ) : Prop :=
  ∀ parameter state, ∃ word, (reader parameter state).1 = .ok word

/-- The words of all answers fit the widths of their parameters. -/
def Fits (reader : Reader σ) : Prop :=
  ∀ parameter range state word, parameter.range? = some range →
    (reader parameter state).1 = .ok word → word.toNat < 256 ^ range.width

end Reader

/-- What is asked and what comes of it: either an answer for every parameter in order, or
answers up to the first failure, which is the result. -/
inductive Asks (order : List Parameter) (final : List (Parameter × UInt16) → α) :
    Except Error α → List Asked → Prop
  | all (values : List (Parameter × UInt16)) :
      values.map (·.1) = order →
      Asks order final (.ok (final values)) (values.map Asked.answered)
  | failed (values : List (Parameter × UInt16)) (failing : Parameter) (after : List Parameter)
      (cause : Error) :
      order = values.map (·.1) ++ failing :: after →
      Asks order final (.error cause) (values.map Asked.answered ++ [⟨failing, .error cause⟩])

namespace Asks

variable {order : List Parameter} {final : List (Parameter × UInt16) → α}
  {outcome : Except Error α} {transcript : List Asked}

theorem map (f : α → β) (asks : Asks order final outcome transcript) :
    Asks order (f ∘ final) (outcome.map f) transcript := by
  cases asks with
  | all values names => exact .all values names
  | failed values failing after cause split => exact .failed values failing after cause split

/-- A parameter that was answered before all the others. -/
theorem cons
    {outcome : Except Error (List (Parameter × UInt16))} (first : Parameter) (word : UInt16)
    (asks : Asks order id outcome transcript) :
    Asks (first :: order) id (outcome.map ((first, word) :: ·))
      (⟨first, .ok word⟩ :: transcript) := by
  cases asks with
  | all values names =>
      exact .all ((first, word) :: values) (by rw [List.map_cons, names])
  | failed values failing after cause split =>
      exact .failed ((first, word) :: values) failing after cause (by rw [split]; rfl)

end Asks

namespace Reader

variable {reader : Reader σ} {state : σ} {transcript : List Asked}

theorem Replied.reply (replied : reader.Replied state transcript) {asked : Asked}
    (member : asked ∈ transcript) : ∃ before, (reader asked.parameter before).1 = asked.reply := by
  induction replied with
  | nil state =>
      cases member
  | @cons state next parameter reply rest answer _ inductionHypothesis =>
      rcases List.mem_cons.mp member with rfl | inside
      · exact ⟨state, by rw [answer]⟩
      · exact inductionHypothesis inside

/-- A reader that never fails is asked for everything. -/
theorem Replied.asks_all {order : List Parameter} {final : List (Parameter × UInt16) → α}
    {outcome : Except Error α} (replied : reader.Replied state transcript)
    (never : reader.NeverFails) (asks : Asks order final outcome transcript) :
    (∃ result, outcome = .ok result) ∧ transcript.map (·.parameter) = order := by
  cases asks with
  | all values names =>
      refine ⟨⟨_, rfl⟩, ?_⟩
      rw [List.map_map, ← names]
      rfl
  | failed values failing after cause split =>
      obtain ⟨before, failed⟩ := replied.reply (List.mem_append_right _ List.mem_cons_self)
      obtain ⟨word, answered⟩ := never failing before
      rw [failed] at answered
      cases answered

theorem perform_recorded (reader : Reader σ) (parameter : Parameter) (state : σ)
    (before : List Asked) :
    (reader.recorded parameter).perform (state, before) =
      ((reader parameter state).1, ((reader parameter state).2,
        before ++ [⟨parameter, (reader parameter state).1⟩])) :=
  rfl

/-- Some parameters with the words that are read for them. -/
def values (reader : Reader σ) (order : List Parameter) : Asking σ (List (Parameter × UInt16)) :=
  order.mapM fun parameter => do return (parameter, ← reader.recorded parameter)

/-- One answer, or one failure that ends the reading, is added at each step. -/
theorem perform_values
    (reader : Reader σ) (order : List Parameter) (state : σ) (before : List Asked) :
    ∃ transcript, ((reader.values order).perform (state, before)).2.2 = before ++ transcript ∧
      reader.Replied state transcript ∧
      Asks order id ((reader.values order).perform (state, before)).1 transcript := by
  -- Induction on what is left to ask; the reader's state and its record go along.
  induction order generalizing state before with
  | nil =>
      exact ⟨[], (List.append_nil before).symm, .nil state, .all [] rfl⟩
  | cons first rest inductionHypothesis =>
      have asked := reader.perform_recorded first state before
      have next : reader.values (first :: rest) = (reader.recorded first >>= fun word =>
          ((first, word) :: ·) <$> reader.values rest) := by
        simp only [values, List.mapM_cons, map_eq_pure_bind, bind_assoc, pure_bind]
      cases replied : reader first state with
      | mk reply left =>
          rw [replied] at asked
          cases reply with
          | error cause =>
              rw [next, Asking.perform_bind_of_error asked]
              exact ⟨[⟨first, .error cause⟩], rfl, .cons replied (.nil left),
                .failed [] first rest cause rfl⟩
          | ok word =>
              rw [next, Asking.perform_bind_of_ok asked, Asking.perform_map]
              obtain ⟨transcript, log, replies, asks⟩ :=
                inductionHypothesis left (before ++ [⟨first, .ok word⟩])
              refine ⟨⟨first, .ok word⟩ :: transcript, ?_, .cons replied replies,
                asks.cons first word⟩
              rw [log, List.append_assoc]
              rfl

/-- Settings are asked for in the order of the model, whatever the answers. -/
theorem perform_readWith (reader : Reader σ) (model : Model) (state : σ) :
    let reading := (Settings.readWith model reader.recorded).perform (state, [])
    reader.Replied state reading.2.2 ∧
      Asks model.readOrder (Settings.ofValues model) reading.1 reading.2.2 := by
  intro reading
  obtain ⟨transcript, log, replied, asks⟩ := reader.perform_values model.readOrder state []
  have mapped : reading =
      (Settings.ofValues model <$> reader.values model.readOrder).perform (state, []) := by
    rw [map_eq_pure_bind]
    rfl
  rw [List.nil_append] at log
  rw [mapped, Asking.perform_map, log]
  exact ⟨replied, asks.map (Settings.ofValues model)⟩

end Reader

/-! ## Reading exactly -/

namespace Exchange

/-- The exchange with a reader in place of the device: a request for a parameter is
answered with the bytes of its word, and nothing else is asked. -/
def answered (read : Parameter → Asking σ UInt16) : Exchange α → Asking σ α
  | done result => pure result
  | stop cause => throw cause
  | send _ _ _ next => next.answered read
  | receive setup length next => do
      let word ← read ⟨setup.index.toUInt8⟩
      (next ((wordBytes word).take length)).answered read
  | settle _ next => next.answered read

variable {read : Parameter → Asking σ UInt16}

theorem answered_bind (exchange : Exchange α) (after : α → Exchange β) :
    (exchange >>= after).answered read =
      exchange.answered read >>= fun result => (after result).answered read := by
  change (exchange.bind after).answered read = _
  induction exchange with
  | done result =>
      rw [answered, pure_bind]
      rfl
  | stop cause =>
      rfl
  | send setup payload tally next inductionHypothesis =>
      exact inductionHypothesis
  | receive setup length next inductionHypothesis =>
      rw [Exchange.bind, answered, answered, LawfulMonad.bind_assoc]
      exact bind_congr fun word => inductionHypothesis _
  | settle milliseconds next inductionHypothesis =>
      exact inductionHypothesis

end Exchange

namespace Reader

theorem narrowed_recorded {reader : Reader σ} (fits : reader.Fits)
    {parameter : Parameter} {range : ParameterRange} (known : parameter.range? = some range) :
    narrowed range.width <$> reader.recorded parameter = reader.recorded parameter := by
  funext state
  change ((narrowed range.width <$> reader.recorded parameter).perform state) =
    (reader.recorded parameter).perform state
  rw [Asking.perform_map, perform_recorded]
  cases answer : (reader parameter state.1).1 with
  | error cause =>
      rfl
  | ok word =>
      rw [Except.map, narrowed_of_lt (fits parameter range state.1 word known answer)]

/-- A request for a parameter asks the reader for it. -/
theorem answered_getRawParameter {reader : Reader σ} (fits : reader.Fits)
    {parameter : Parameter} {range : ParameterRange} (known : parameter.range? = some range) :
    (Controller.getRawParameter parameter).answered reader.recorded =
      reader.recorded parameter := by
  have address : parameter.query.index.toUInt8 = parameter.id :=
    UInt8.toUInt8_toUInt16 parameter.id
  rw [Controller.getRawParameter_of_known known]
  change (reader.recorded ⟨parameter.query.index.toUInt8⟩ >>= fun word =>
    (Exchange.ofExcept (parameter.decode ((wordBytes word).take range.width))).answered
      reader.recorded) = _
  simp only [address, Parameter.decode_wordBytes known]
  exact (map_eq_pure_bind _ _).symm.trans (narrowed_recorded fits known)

theorem answered_values {reader : Reader σ} (fits : reader.Fits) {order : List Parameter}
    (known : ∀ parameter ∈ order, ∃ range, parameter.range? = some range) :
    (order.mapM fun parameter => do
      return (parameter, ← Controller.getRawParameter parameter)).answered reader.recorded =
        reader.values order := by
  induction order with
  | nil =>
      rfl
  | cons first rest inductionHypothesis =>
      obtain ⟨⟨range, firstKnown⟩, restKnown⟩ := List.forall_mem_cons.mp known
      have head := answered_getRawParameter fits firstKnown
      have tail := inductionHypothesis restKnown
      rw [List.mapM_cons, values, List.mapM_cons]
      simp only [Exchange.answered_bind, head, tail]
      rfl

/-- Settings that are read part by part, with exact arithmetic, ask a reader the same and
come to the same. -/
theorem answered_readSettingsExactly {reader : Reader σ} (fits : reader.Fits) (model : Model)
    (fault : Error) :
    (Controller.readSettingsExactly fault model).answered reader.recorded =
      Settings.readWith model reader.recorded := by
  have same : Controller.readSettingsExactly fault model =
      Settings.readWith model Controller.getRawParameter :=
    Controller.readSettingsExactly_eq fault ⟨model, {}⟩
  have known : ∀ parameter ∈ model.readOrder, ∃ range, parameter.range? = some range :=
    fun parameter member => Model.known_of_mem_writeOrder (Model.mem_readOrder_iff.mp member)
  rw [same, Settings.readWith, Exchange.answered_bind, answered_values fits known]
  rfl

end Reader

end ServoLink
