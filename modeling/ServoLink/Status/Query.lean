import ServoLink.Model
import ServoLink.Request
import ServoLink.Status.Layout

namespace ServoLink

/-! ## Asking for status -/

/-- The request that fetches one kind of status, and the length of its reply. -/
structure StatusQuery where
  request : Request
  length : Nat
  deriving DecidableEq, Repr

/-- Compact controllers answer every kind of status with the same combined record. -/
def Model.statusQuery (model : Model) (kind : StatusKind) : StatusQuery :=
  match model.family with
  | .compact =>
      ⟨.getVariables, compactVariablesLength + model.channelCount * servoStatusLength⟩
  | .extended =>
      match kind with
      | .deviceVariables => ⟨.getVariables, extendedVariablesLength⟩
      | .servos => ⟨.getServoSettings, model.channelCount * servoStatusLength⟩
      | .stack => ⟨.getStack, 2 * model.stackSize⟩
      | .callStack => ⟨.getCallStack, 2 * model.callStackSize⟩

/-- The report in the reply to a status query. -/
def Model.decodeStatus (model : Model) (kind : StatusKind) (buffer : List UInt8) :
    Except ProtocolError StatusReport :=
  match model.family with
  | .compact => do
      let (record, servos) ← decodeCompactStatus buffer model.channelCount
      return match kind with
        | .deviceVariables => .deviceVariables record
        | .servos => .servos servos
        | .stack => .stack record.stack
        | .callStack => .callStack record.callStack
  | .extended =>
      match kind with
      | .deviceVariables => StatusReport.deviceVariables <$> Variables.decodeExtended buffer
      | .servos => StatusReport.servos <$> ServoStatus.decodeAll buffer model.channelCount
      | .stack => StatusReport.stack <$> decodeStack buffer model.stackSize
      | .callStack => StatusReport.callStack <$> decodeCallStack buffer model.callStackSize

end ServoLink
