import ServoLink.Counters.Basic
import ServoLink.Error

namespace ServoLink

/-! ## Exchanges

An exchange is what a host does with a device, before any device is chosen: the
transfers in order, each with what follows from its outcome.  A failed transfer ends
the exchange, so only the replies of completed ones appear in it. -/

inductive Exchange (α : Type) where
  | done (result : α)
  | stop (cause : Error)
  | send (setup : Setup) (payload : List UInt8) (tally : Option Tally) (next : Exchange α)
  | receive (setup : Setup) (length : Nat) (next : List UInt8 → Exchange α)
  /-- Firmware needs some time before the next transfer. -/
  | settle (milliseconds : UInt64) (next : Exchange α)

namespace Exchange

variable {α β : Type}

def bind : Exchange α → (α → Exchange β) → Exchange β
  | done result, after => after result
  | stop cause, _ => stop cause
  | send setup payload tally next, after => send setup payload tally (next.bind after)
  | receive setup length next, after =>
      receive setup length fun reply => (next reply).bind after
  | settle milliseconds next, after => settle milliseconds (next.bind after)

instance : Monad Exchange where
  pure := done
  bind := bind

/-- A step that needs no transfer. -/
def ofExcept : Except Error α → Exchange α
  | .ok result => done result
  | .error cause => stop cause

instance : MonadLift (Except Error) Exchange where
  monadLift := ofExcept

instance : MonadLift (Except ValidationError) Exchange where
  monadLift check := ofExcept (check.mapError Error.validation)

instance : MonadLift (Except ProtocolError) Exchange where
  monadLift check := ofExcept (check.mapError Error.protocol)

/-- One transfer to the device. -/
def sending (setup : Setup) (payload : List UInt8) (tally : Option Tally) : Exchange Unit :=
  send setup payload tally (done ())

/-- One transfer from the device. -/
def receiving (setup : Setup) (length : Nat) : Exchange (List UInt8) :=
  receive setup length done

/-- A wait of some milliseconds; none at all for zero. -/
def settling (milliseconds : UInt64) : Exchange Unit :=
  if milliseconds = 0 then done () else settle milliseconds (done ())

/-! ## Running an exchange -/

/-- A device in use, with the counters if any are kept, and the time in milliseconds
that its firmware has been given to settle. -/
structure Line (δ : Type) where
  device : δ
  counters : Option Counters := none
  settled : Nat := 0

/-- Carries out an exchange.  The counters only follow the transfers that complete. -/
def run {δ : Type} [Transport δ] : Exchange α → Line δ → Except Error α × Line δ
  | done result, line => (.ok result, line)
  | stop cause, line => (.error cause, line)
  | send setup payload tally next, line =>
      match Transport.send setup payload line.device with
      | (.ok (), device) =>
          next.run { line with device, counters := line.counters.map (·.sent tally) }
      | (.error cause, device) => (.error (.transport cause), { line with device })
  | receive setup length next, line =>
      match Transport.receive setup length line.device with
      | (.ok reply, device) =>
          (next reply).run { line with device, counters := line.counters.map (·.received) }
      | (.error cause, device) => (.error (.transport cause), { line with device })
  | settle milliseconds next, line =>
      next.run { line with settled := line.settled + milliseconds.toNat }

end Exchange

end ServoLink
