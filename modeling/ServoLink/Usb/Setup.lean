import ServoLink.Text.Hex

namespace ServoLink

/-! ## Control transfers -/

/-- The request type field of a setup packet. -/
inductive TransferKind where
  | standard
  | vendor
  deriving DecidableEq, Repr

namespace TransferKind

def label : TransferKind → String
  | standard => "Standard"
  | vendor => "Vendor"

/-- The request type byte of a transfer that addresses the whole device. -/
def requestType (kind : TransferKind) (deviceToHost : Bool) : UInt8 :=
  let base : UInt8 :=
    match kind with
    | standard => 0x00
    | vendor => 0x40
  if deviceToHost then base ||| 0x80 else base

end TransferKind

/-- The setup stage of a control transfer, without direction and length. -/
structure Setup where
  kind : TransferKind
  request : UInt8
  value : UInt16
  index : UInt16
  deriving DecidableEq, Repr

namespace Setup

def vendor (request : UInt8) (value index : UInt16) : Setup :=
  ⟨.vendor, request, value, index⟩

def standard (request : UInt8) (value index : UInt16) : Setup :=
  ⟨.standard, request, value, index⟩

/-- One line of text with fixed-width hexadecimal fields. -/
def text (setup : Setup) : String :=
  setup.kind.label ++ " 0x" ++ upperHex 2 setup.request.toNat ++
    " value=0x" ++ upperHex 4 setup.value.toNat ++
    " index=0x" ++ upperHex 4 setup.index.toNat

end Setup

inductive Direction where
  | toDevice
  | toHost
  deriving DecidableEq, Repr

def Direction.label : Direction → String
  | toDevice => "Out"
  | toHost => "In"

/-- A completed transfer: the payload sent, or the bytes the device returned. -/
structure Transfer where
  direction : Direction
  setup : Setup
  data : List UInt8
  deriving DecidableEq, Repr

end ServoLink
