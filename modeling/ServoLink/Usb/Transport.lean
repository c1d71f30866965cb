import ServoLink.Usb.Setup

namespace ServoLink

/-! ## Failures of the bus -/

inductive TransportError where
  | deviceNotFound (detail : String)
  | unsupported (operation : String)
  | usb (detail : String)
  | timeout
  | shortTransfer (expected actual : Nat)
  deriving DecidableEq, Repr

def TransportError.message : TransportError → String
  | deviceNotFound detail => "device not found: " ++ detail
  | unsupported operation => "operation not supported on this backend: " ++ operation
  | usb detail => "USB error: " ++ detail
  | timeout => "timeout"
  | shortTransfer expected actual =>
      s!"short transfer: expected {expected} bytes, got {actual}"

/-! ## Selecting a device -/

/-- Which attached device to open.  An empty product list matches every
product of the vendor. -/
structure DeviceFilter where
  vendor : UInt16
  products : List UInt16
  serial : Option String
  deriving DecidableEq, Repr

def DeviceFilter.accepts (filter : DeviceFilter) (vendor product : UInt16) : Bool :=
  vendor == filter.vendor && (filter.products.isEmpty || filter.products.contains product)

/-- One attached device as a bus lists it. -/
structure DeviceEntry where
  vendor : UInt16
  product : UInt16
  serial : Option String
  bus : UInt8
  address : UInt8
  deriving DecidableEq, Repr

/-! ## Devices -/

/-- A device that answers control transfers.  A transfer completes or fails,
and in both cases the device may change. -/
class Transport (δ : Type) where
  /-- The product id of the device. -/
  product : δ → UInt16
  /-- The time allowed for each transfer, which a device without a bus ignores. -/
  setTimeout : (milliseconds : UInt64) → δ → δ := fun _ device => device
  /-- A transfer to the device. -/
  send : Setup → List UInt8 → δ → Except TransportError Unit × δ
  /-- A transfer from the device, which may return fewer or more bytes than asked for. -/
  receive : Setup → (length : Nat) → δ → Except TransportError (List UInt8) × δ

end ServoLink
