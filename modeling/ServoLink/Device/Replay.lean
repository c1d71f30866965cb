import ServoLink.Usb.Transport

namespace ServoLink

/-! ## Replay devices -/

/-- A device in memory that accepts every transfer, logs it, and answers reads with
the replies queued for their request code, or with zeros. -/
structure ReplayDevice where
  product : UInt16
  serial : String := "mock0"
  log : List Transfer := []
  replies : UInt8 → List (List UInt8) := fun _ => []
  /-- The number of logged transfers from which on every transfer fails. -/
  failAfter : Option Nat := none

namespace ReplayDevice

/-- The device of a filter's first product. -/
def open? (filter : DeviceFilter) : Except TransportError ReplayDevice :=
  match filter.products with
  | [] => .error (.deviceNotFound "no product id in filter")
  | product :: _ => .ok { product, serial := filter.serial.getD "mock0" }

/-- The one device that a filter finds. -/
def list (filter : DeviceFilter) : List DeviceEntry :=
  filter.products.head?.toList.map fun product =>
    ⟨filter.vendor, product, some "mock0", 0, 0⟩

/-- Adds a reply behind those already queued for a request code. -/
def queue (device : ReplayDevice) (request : UInt8) (reply : List UInt8) : ReplayDevice :=
  { device with
    replies := fun code =>
      if code = request then device.replies code ++ [reply] else device.replies code }

/-- Lets every transfer fail once `count` transfers have been logged. -/
def failingAfter (device : ReplayDevice) (count : Nat) : ReplayDevice :=
  { device with failAfter := some count }

/-- Whether the next transfer fails. -/
def failsNow (device : ReplayDevice) : Bool :=
  match device.failAfter with
  | some count => count ≤ device.log.length
  | none => false

def record (device : ReplayDevice) (transfer : Transfer) : ReplayDevice :=
  { device with log := device.log ++ [transfer] }

def injectedFailure : TransportError := .usb "injected failure"

def send (setup : Setup) (payload : List UInt8) (device : ReplayDevice) :
    Except TransportError Unit × ReplayDevice :=
  if device.failsNow then
    (.error injectedFailure, device)
  else
    (.ok (), device.record ⟨.toDevice, setup, payload⟩)

/-- The device without the first reply queued for a request code. -/
def dropReply (device : ReplayDevice) (request : UInt8) : ReplayDevice :=
  { device with
    replies := fun code =>
      if code = request then (device.replies code).tail else device.replies code }

def receive (setup : Setup) (length : Nat) (device : ReplayDevice) :
    Except TransportError (List UInt8) × ReplayDevice :=
  if device.failsNow then
    (.error injectedFailure, device)
  else
    match device.replies setup.request with
    | reply :: _ =>
        (.ok reply, (device.dropReply setup.request).record ⟨.toHost, setup, reply⟩)
    | [] =>
        let reply := List.replicate length 0
        (.ok reply, device.record ⟨.toHost, setup, reply⟩)

instance : Transport ReplayDevice where
  product := ReplayDevice.product
  send := send
  receive := receive

end ReplayDevice

end ServoLink
