import ServoLink.Model
import ServoLink.Settings.Basic

namespace ServoLink

/-! ## Diagnostics -/

/-- What a caller should know about settings that are applied all the same. -/
inductive Diagnostic where
  | channelsTruncated (provided supported : Nat)
  | channelsPadded (provided supported : Nat)
  | serialDeviceNumberClamped (provided : UInt8)
  | scriptInconsistent
  | scriptMissing
  deriving DecidableEq, Repr

def Diagnostic.message : Diagnostic → String
  | channelsTruncated provided supported =>
      s!"the settings include {provided} channels but this device has only {supported}; " ++
        "the extra channel settings will be ignored"
  | channelsPadded provided supported =>
      s!"the settings include only {provided} channels but this device has {supported}; " ++
        "the other channels will be initialized with default settings"
  | serialDeviceNumberClamped provided =>
      s!"the serial device number must be less than 128 (got {provided.toNat}); " ++
        "it will be changed to 12"
  | scriptInconsistent =>
      "the compiled script does not match its source; it was not uploaded"
  | scriptMissing =>
      "script upload was requested but the settings carry no compiled program"

/-! ## Reconciling settings with a model -/

/-- The serial device number used in place of one that does not fit seven bits. -/
def defaultSerialDeviceNumber : UInt8 := 12

/-- Input and output channels have fixed limits; inputs also have no home. -/
def ChannelSetting.withFixedLimits (setting : ChannelSetting) : ChannelSetting :=
  match setting.mode with
  | .input =>
      { setting with
        homeMode := .ignore
        minimum := 0
        maximum := 1024
        neutral := 1024
        range := 1905
        speed := 0
        acceleration := 0 }
  | .output =>
      { setting with
        minimum := 3986
        maximum := 8000
        neutral := 6000
        range := 1905
        speed := 0
        acceleration := 0 }
  | .servo | .servoMultiplied => setting

/-- The setting of a channel that was not provided: on compact controllers a channel
that is not available as a servo becomes an input. -/
def Settings.paddingChannel (settings : Settings) (model : Model) (channel : Nat) :
    ChannelSetting :=
  if model.isCompact && settings.servosAvailable.toNat ≤ channel then
    { mode := .input }
  else
    {}

/-- Adds channels at the end of a list until there is one for each of the model's. -/
def Settings.padChannels (settings : Settings) (model : Model) (channels : List ChannelSetting) :
    List ChannelSetting :=
  if channels.length < model.channelCount then
    settings.padChannels model (channels ++ [settings.paddingChannel model channels.length])
  else
    channels
termination_by model.channelCount - channels.length
decreasing_by
  rw [List.length_append, List.length_singleton]
  omega

/-- The channel list cut or padded to the model's number of channels. -/
def Settings.fittedChannels (settings : Settings) (model : Model) : List ChannelSetting :=
  let provided := settings.channels.length
  if model.channelCount < provided then settings.channels.take model.channelCount
  else if provided < model.channelCount then settings.padChannels model settings.channels
  else settings.channels

def Settings.channelDiagnostics (settings : Settings) (model : Model) : List Diagnostic :=
  let provided := settings.channels.length
  if model.channelCount < provided then [.channelsTruncated provided model.channelCount]
  else if provided < model.channelCount then [.channelsPadded provided model.channelCount]
  else []

/-- The settings that the model can hold, and what had to be changed for that. -/
def Settings.reconcile (settings : Settings) (model : Model) :
    Settings × List Diagnostic :=
  let channels := (settings.fittedChannels model).map ChannelSetting.withFixedLimits
  let number := settings.serialDeviceNumber
  if 128 ≤ number then
    ({ settings with channels, serialDeviceNumber := defaultSerialDeviceNumber },
      settings.channelDiagnostics model ++ [.serialDeviceNumberClamped number])
  else
    ({ settings with channels }, settings.channelDiagnostics model)

end ServoLink
