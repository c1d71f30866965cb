import ServoLink.Parameter.Range

namespace ServoLink

/-! ## Controller families -/

/-- Six-channel controllers are compact: they keep channel modes as pin masks and
report all status in one record.  Larger ones are extended: two bits per channel
and one record per kind of status. -/
inductive Family where
  | compact
  | extended
  deriving DecidableEq, Repr

/-- The parameters that hold the channel modes, in the order they are written. -/
def Family.modeParameters : Family → List Parameter
  | compact => [.ioMask, .outputMask]
  | extended =>
      [.channelModes0To3, .channelModes4To7, .channelModes8To11,
        .channelModes12To15, .channelModes16To19, .channelModes20To23]

/-! ## Models -/

/-- The controllers of the product line, by number of channels. -/
inductive Model where
  | micro6
  | mini12
  | mini18
  | mini24
  deriving DecidableEq, Repr

namespace Model

def all : List Model := [micro6, mini12, mini18, mini24]

def product : Model → UInt16
  | micro6 => 0x0089
  | mini12 => 0x008A
  | mini18 => 0x008B
  | mini24 => 0x008C

def ofProduct (product : UInt16) : Except ProtocolError Model :=
  match all.find? fun model => model.product == product with
  | some model => .ok model
  | none => .error (.unrecognizedProduct product)

def family : Model → Family
  | micro6 => .compact
  | mini12 | mini18 | mini24 => .extended

def isCompact (model : Model) : Bool :=
  model.family == .compact

def channelCount : Model → Nat
  | micro6 => 6
  | mini12 => 12
  | mini18 => 18
  | mini24 => 24

def stackSize (model : Model) : Nat :=
  match model.family with
  | .compact => 32
  | .extended => 126

def callStackSize (model : Model) : Nat :=
  match model.family with
  | .compact => 10
  | .extended => 126

/-- The number of bytes of script memory in front of the subroutine table. -/
def maxScriptLength (model : Model) : Nat :=
  match model.family with
  | .compact => 1024
  | .extended => 8192

/-- The block of script memory at which the subroutine table begins. -/
def tableBlock (model : Model) : UInt16 :=
  match model.family with
  | .compact => 64
  | .extended => 512

/-- Only the largest model has pull-ups that can be switched. -/
def hasPullups (model : Model) : Bool :=
  18 < model.channelCount

/-- Extended firmware completes a reload of its settings only after a read of the
variables. -/
def refetchesAfterReload (model : Model) : Bool :=
  !model.isCompact

def modeParameters (model : Model) : List Parameter :=
  model.family.modeParameters

/-- A channel number that the model has. -/
def checkChannel (model : Model) (channel : UInt8) : Except ValidationError Unit :=
  if channel.toNat < model.channelCount then
    .ok ()
  else
    .error (.invalidChannel channel model.channelCount)

end Model

/-! ## Finding controllers -/

def vendorId : UInt16 := 0x1FFB

def supportedProducts : List UInt16 :=
  Model.all.map Model.product

/-- Any supported controller, or the one with a given serial number. -/
def DeviceFilter.controllers (serial : Option String) : DeviceFilter :=
  ⟨vendorId, supportedProducts, serial⟩

end ServoLink
