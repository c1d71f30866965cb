import ServoLink.Channel.Basic
import ServoLink.Model

namespace ServoLink

/-! ## Pins of compact controllers -/

/-- The pin a compact controller's channel is wired to; pins four and five have
no channel. -/
def pinOfChannel? (channel : Nat) : Option Nat :=
  if channel < 4 then some channel
  else if channel < 6 then some (channel + 2)
  else none

def pinOfChannel (channel : UInt8) : Except ProtocolError UInt8 :=
  match pinOfChannel? channel.toNat with
  | some pin => .ok (UInt8.ofNat pin)
  | none => .error (.invalidChannel channel)

/-- The mask bit of a compact channel; a channel without a pin has none. -/
def pinBit (channel : Nat) : UInt16 :=
  match pinOfChannel? channel with
  | some pin => 1 <<< UInt16.ofNat pin
  | none => 0

/-! ## Packing -/

/-- The pins of a compact controller that are not driven as servos, and those that are
driven as outputs. -/
structure PinMasks where
  io : UInt16 := 0
  output : UInt16 := 0
  deriving DecidableEq, Repr

/-- The number of a channel; one that needs more than a byte is reported as 255. -/
def channelNumber (place : Nat) : Except ProtocolError UInt8 :=
  if place < UInt8.size then .ok (UInt8.ofNat place) else .error (.invalidChannel 255)

/-- Sets the pin of a channel in the masks that its mode belongs to.  Both servo modes
leave it clear. -/
def PinMasks.addMode (masks : PinMasks) (entry : ChannelMode × Nat) :
    Except ProtocolError PinMasks := do
  let pin ← pinOfChannel (← channelNumber entry.2)
  let bit := 1 <<< pin.toUInt16
  match entry.1 with
  | .input => return { masks with io := masks.io ||| bit }
  | .output => return { io := masks.io ||| bit, output := masks.output ||| bit }
  | .servo | .servoMultiplied => return masks

/-- Sets the two bits of a channel in the value that has room for four channels. -/
def addCode (values : List UInt16) (entry : ChannelMode × Nat) :
    Except ProtocolError (List UInt16) :=
  match values[entry.2 / 4]? with
  | some value =>
      .ok (values.set (entry.2 / 4)
        (value ||| (entry.1.code <<< UInt16.ofNat (2 * (entry.2 % 4)))))
  | none => .error (.invalidChannel (UInt8.ofNat entry.2))

/-- One value for each of the family's mode parameters, filled channel by channel. -/
def Family.packModes (family : Family) (modes : List ChannelMode) :
    Except ProtocolError (List UInt16) :=
  match family with
  | compact => do
      let masks ← modes.zipIdx.foldlM PinMasks.addMode {}
      return [masks.io, masks.output]
  | extended => modes.zipIdx.foldlM addCode (List.replicate extended.modeParameters.length 0)

/-! ## Unpacking -/

/-- The mode that the two masks give a compact channel. -/
def modeOfMasks (io output bit : UInt16) : ChannelMode :=
  if io &&& bit = 0 then .servo
  else if output &&& bit = 0 then .input
  else .output

/-- The mode of an extended channel, from the value that holds its two bits. -/
def modeOfByte (byte : UInt16) (channel : Nat) : ChannelMode :=
  .ofBits (byte >>> UInt16.ofNat (2 * (channel % 4)))

/-- The modes of the first `count` channels from the values of the mode parameters. -/
def Family.unpackModes (family : Family) (raw : List UInt16) (count : Nat) :
    Except ProtocolError (List ChannelMode) :=
  match family with
  | compact =>
      match raw with
      | [io, output] =>
          (List.range count).mapM fun channel =>
            match pinOfChannel? channel with
            | some _ => .ok (modeOfMasks io output (pinBit channel))
            | none => .error (.invalidChannel (UInt8.ofNat channel))
      | _ => .error (.shortRead .channelModeMasks 2 raw.length)
  | extended =>
      (List.range count).mapM fun channel =>
        match raw[channel / 4]? with
        | some byte => .ok (modeOfByte byte channel)
        | none => .error (.invalidChannel (UInt8.ofNat channel))

end ServoLink
