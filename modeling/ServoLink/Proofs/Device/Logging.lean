import ServoLink.Device.Replay
import ServoLink.Proofs.Device.Simulator

/-!
# Devices that log their transfers

Both devices in memory keep a log of the transfers that they complete, each with what was
sent or returned.  A transfer that fails is not logged.
-/

namespace ServoLink

/-- The log gains the transfer that a call completes, and nothing if the call fails. -/
def Logged {α δ : Type} (log : δ → List Transfer) (transfer : α → Transfer) (device : δ)
    (called : Except TransportError α × δ) : Prop :=
  (∃ result, called.1 = .ok result ∧ log called.2 = log device ++ [transfer result]) ∨
    (∃ cause, called.1 = .error cause) ∧ log called.2 = log device

/-- A device whose log gains each transfer that completes, and nothing else. -/
class LoggingDevice (δ : Type) extends Transport δ where
  log : δ → List Transfer
  send_logged : ∀ setup payload device,
    Logged log (fun _ => ⟨.toDevice, setup, payload⟩) device (send setup payload device)
  receive_logged : ∀ setup length device,
    Logged log (fun reply => ⟨.toHost, setup, reply⟩) device (receive setup length device)

instance : LoggingDevice ReplayDevice where
  log := ReplayDevice.log
  send_logged := by
    intro setup payload device
    change Logged _ _ device (ReplayDevice.send setup payload device)
    unfold ReplayDevice.send
    split
    · exact Or.inr ⟨⟨_, rfl⟩, rfl⟩
    · exact Or.inl ⟨(), rfl, rfl⟩
  receive_logged := by
    intro setup length device
    change Logged _ _ device (ReplayDevice.receive setup length device)
    unfold ReplayDevice.receive
    split
    · exact Or.inr ⟨⟨_, rfl⟩, rfl⟩
    · split <;> exact Or.inl ⟨_, rfl, rfl⟩

instance : LoggingDevice Simulator where
  log := Simulator.log
  send_logged := by
    intro setup payload device
    change Logged _ _ device (Simulator.send setup payload device)
    unfold Simulator.send
    split
    · exact Or.inr ⟨⟨_, rfl⟩, rfl⟩
    · exact Or.inl ⟨(), rfl, congrArg (· ++ _) (device.accept_log setup payload)⟩
  receive_logged := by
    intro setup length device
    change Logged _ _ device (Simulator.receive setup length device)
    unfold Simulator.receive
    split
    · exact Or.inr ⟨⟨_, rfl⟩, rfl⟩
    · exact Or.inl ⟨_, rfl, rfl⟩

end ServoLink
