import ServoLink.Status.Query

/-!
# Why a record is refused

Every record is decoded by its length first, so the only thing that a decoder refuses
is a reply of the wrong length.
-/

namespace ServoLink

section Length

variable {buffer : List UInt8} {expected : Nat}

theorem expectLength_of_eq (reply : Reply) (right : buffer.length = expected) :
    expectLength reply buffer expected = .ok () :=
  if_pos right

theorem expectLength_of_ne (reply : Reply) (wrong : buffer.length ≠ expected) :
    expectLength reply buffer expected =
      .error (.shortRead reply expected buffer.length) :=
  if_neg wrong

theorem eq_of_expectLength_ok
    {reply : Reply} {result : Unit}
    (accepted : expectLength reply buffer expected = .ok result) :
    buffer.length = expected := by
  by_cases right : buffer.length = expected
  · exact right
  · rw [expectLength_of_ne reply right] at accepted
    cases accepted

end Length

/-- A reply of the wrong length. -/
def ProtocolError.IsShortRead (cause : ProtocolError) : Prop :=
  ∃ reply expected actual, cause = .shortRead reply expected actual

/-- The decoding is refused for the length of the reply only. -/
def LengthChecked {α : Type} (decoded : Except ProtocolError α) : Prop :=
  ∀ cause, decoded = .error cause → cause.IsShortRead

namespace LengthChecked

variable {α β : Type}

theorem ok (result : α) : LengthChecked (.ok result) := by
  intro cause failed
  cases failed

theorem expectLength (reply : Reply) (buffer : List UInt8) (expected : Nat) :
    LengthChecked (ServoLink.expectLength reply buffer expected) := by
  intro cause failed
  unfold ServoLink.expectLength at failed
  split at failed
  · cases failed
  · cases failed
    exact ⟨reply, expected, buffer.length, rfl⟩

theorem bind
    {first : Except ProtocolError α} {after : α → Except ProtocolError β}
    (checked : LengthChecked first) (rest : ∀ result, LengthChecked (after result)) :
    LengthChecked (first >>= after) := by
  intro cause failed
  cases equal : first with
  | ok result =>
      rw [equal] at failed
      exact rest result cause failed
  | error found =>
      rw [equal] at failed
      cases failed
      exact checked cause equal

theorem map
    (f : α → β) {decoded : Except ProtocolError α} (checked : LengthChecked decoded) :
    LengthChecked (f <$> decoded) := by
  intro cause failed
  cases equal : decoded with
  | ok result =>
      rw [equal] at failed
      cases failed
  | error found =>
      rw [equal] at failed
      cases failed
      exact checked cause equal

/-- A decoder that looks at the length and then takes the fields. -/
theorem afterLength
    (reply : Reply) (buffer : List UInt8) (expected : Nat) (result : α) :
    LengthChecked (do
      ServoLink.expectLength reply buffer expected
      return result) :=
  (expectLength reply buffer expected).bind fun _ => ok result

end LengthChecked

theorem decodeCompactStatus_lengthChecked (buffer : List UInt8) (count : Nat) :
    LengthChecked (decodeCompactStatus buffer count) := by
  refine (LengthChecked.expectLength _ buffer _).bind fun _ => ?_
  refine LengthChecked.bind (.afterLength _ _ _ _) fun record => ?_
  refine LengthChecked.bind (.afterLength _ _ _ _) fun servos => ?_
  exact .ok (record, servos)

theorem Model.decodeStatus_lengthChecked
    (model : Model) (kind : StatusKind) (buffer : List UInt8) :
    LengthChecked (model.decodeStatus kind buffer) := by
  unfold decodeStatus
  cases model.family with
  | compact =>
      exact (decodeCompactStatus_lengthChecked buffer _).bind fun _ => .ok _
  | extended =>
      cases kind with
      | deviceVariables => exact .map _ (.afterLength _ buffer _ _)
      | servos => exact .map _ (.afterLength _ buffer _ _)
      | stack => exact .map _ (.afterLength _ buffer _ _)
      | callStack => exact .map _ (.afterLength _ buffer _ _)

theorem FirmwareVersion.decode_lengthChecked (descriptor : List UInt8) :
    LengthChecked (decode descriptor) :=
  .afterLength _ descriptor _ _

end ServoLink
