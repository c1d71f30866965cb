import ServoLink.Usb.Transport
import ServoLink.Word

namespace ServoLink

/-! ## Simulated controllers -/

/-- A controller in memory: a parameter store and script memory behind the requests
that write and read them.  Other reads answer with a fixed reply for their request
code, or with zeros. -/
structure Simulator where
  product : UInt16
  parameters : UInt8 → UInt16 := fun _ => 0
  blocks : UInt16 → Option (List UInt8) := fun _ => none
  replies : UInt8 → Option (List UInt8) := fun _ => none
  descriptor : List UInt8 := List.replicate 18 0
  /-- The request code whose transfers fail. -/
  failOn : Option UInt8 := none
  log : List Transfer := []

namespace Simulator

/-- The simulator of a filter's first product. -/
def open? (filter : DeviceFilter) : Except TransportError Simulator :=
  match filter.products with
  | [] => .error (.deviceNotFound "empty filter")
  | product :: _ => .ok { product }

/-- Simulators are attached to no bus. -/
def list (_filter : DeviceFilter) : List DeviceEntry := []

/-- The byte of script memory at an offset from a block; unwritten bytes are 0xFF. -/
def scriptByte (device : Simulator) (first : UInt16) (offset : Nat) : UInt8 :=
  match device.blocks (first + UInt16.ofNat (offset / 16)) with
  | some block => block.getD (offset % 16) 0xFF
  | none => 0xFF

/-- Script memory from a block on. -/
def scriptBytes (device : Simulator) (first : UInt16) (length : Nat) : List UInt8 :=
  (List.range length).map (device.scriptByte first)

/-- The request codes of all transfers so far. -/
def requests (device : Simulator) : List UInt8 :=
  device.log.map (·.setup.request)

def setReply (device : Simulator) (request : UInt8) (reply : List UInt8) : Simulator :=
  { device with
    replies := fun code => if code = request then some reply else device.replies code }

def storeParameter (device : Simulator) (address : UInt8) (value : UInt16) : Simulator :=
  { device with
    parameters := fun id => if id = address then value else device.parameters id }

def storeBlock (device : Simulator) (index : UInt16) (block : List UInt8) : Simulator :=
  { device with
    blocks := fun number => if number = index then some block else device.blocks number }

def eraseBlocks (device : Simulator) : Simulator :=
  { device with blocks := fun _ => none }

/-- Sixteen bytes of a payload, filled up with 0xFF. -/
def blockOf (payload : List UInt8) : List UInt8 :=
  payload.take 16 ++ List.replicate (16 - payload.length) 0xFF

def record (device : Simulator) (transfer : Transfer) : Simulator :=
  { device with log := device.log ++ [transfer] }

def simulatedFailure : TransportError := .usb "simulated failure"

/-- What a transfer to the device changes, whatever its kind. -/
def accept (device : Simulator) (setup : Setup) (payload : List UInt8) : Simulator :=
  if setup.request = 0x82 then
    let narrow := setup.index >>> 8 == 1
    device.storeParameter setup.index.toUInt8
      (if narrow then setup.value &&& 0xFF else setup.value)
  else if setup.request = 0xA0 then
    device.eraseBlocks
  else if setup.request = 0xA1 then
    device.storeBlock setup.index (blockOf payload)
  else
    device

/-- The reply to a read. -/
def reply (device : Simulator) (setup : Setup) (length : Nat) : List UInt8 :=
  if setup.kind = .standard ∧ setup.request = 6 then
    device.descriptor
  else if setup.kind = .vendor ∧ setup.request = 0x81 then
    (wordBytes (device.parameters setup.index.toUInt8)).take length
  else
    (device.replies setup.request).getD (List.replicate length 0)

def send (setup : Setup) (payload : List UInt8) (device : Simulator) :
    Except TransportError Unit × Simulator :=
  if device.failOn = some setup.request then
    (.error simulatedFailure, device)
  else
    (.ok (), (device.accept setup payload).record ⟨.toDevice, setup, payload⟩)

def receive (setup : Setup) (length : Nat) (device : Simulator) :
    Except TransportError (List UInt8) × Simulator :=
  if device.failOn = some setup.request then
    (.error simulatedFailure, device)
  else
    let reply := device.reply setup length
    (.ok reply, device.record ⟨.toHost, setup, reply⟩)

instance : Transport Simulator where
  product := Simulator.product
  send := send
  receive := receive

end Simulator

end ServoLink
