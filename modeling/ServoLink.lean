import ServoLink.Channel.Basic
import ServoLink.Channel.ModePacking
import ServoLink.CommandLine.Arguments
import ServoLink.CommandLine.Grammar
import ServoLink.CommandLine.Run
import ServoLink.Counters.Basic
import ServoLink.Counters.Published
import ServoLink.Device.Replay
import ServoLink.Device.Simulator
import ServoLink.Error
import ServoLink.Exchange
import ServoLink.Json.Parser
import ServoLink.Json.Printer
import ServoLink.Main
import ServoLink.Model
import ServoLink.NameMap
import ServoLink.Parameter.Basic
import ServoLink.Parameter.Range
import ServoLink.Parameter.Write
import ServoLink.Request
import ServoLink.Script.Checksum
import ServoLink.Script.Image
import ServoLink.Script.Program
import ServoLink.Session.Command
import ServoLink.Session.Config
import ServoLink.Session.Operations
import ServoLink.Settings.Basic
import ServoLink.Settings.Reconcile
import ServoLink.Settings.Registers
import ServoLink.Settings.Scale
import ServoLink.Snapshot.Codec
import ServoLink.Snapshot.Datum
import ServoLink.Snapshot.Document
import ServoLink.Snapshot.File
import ServoLink.Snapshot.Files
import ServoLink.Snapshot.Folder
import ServoLink.Snapshot.Formats
import ServoLink.Status.Basic
import ServoLink.Status.Layout
import ServoLink.Status.Query
import ServoLink.Text.Hex
import ServoLink.Text.Number
import ServoLink.Text.Shortest
import ServoLink.Usb.Setup
import ServoLink.Usb.Transport
import ServoLink.Word
import ServoLink.Yaml.Alias
import ServoLink.Yaml.Character
import ServoLink.Yaml.Cursor
import ServoLink.Yaml.Document
import ServoLink.Yaml.Node
import ServoLink.Yaml.Printer
import ServoLink.Yaml.Scalar
import ServoLink.Yaml.Tag
import ServoLink.Yaml.Token
import ServoLink.Yaml.Value
import ServoLink.Proofs.Check
import ServoLink.Proofs.Exchange
import ServoLink.Proofs.Parameter.Range
import ServoLink.Proofs.Parameter.Write
import ServoLink.Proofs.Channel.ModePacking
import ServoLink.Proofs.Settings.Scale
import ServoLink.Proofs.Settings.Writes
import ServoLink.Proofs.Settings.Canonical
import ServoLink.Proofs.Settings.Reconcile
import ServoLink.Proofs.Device.Simulator
import ServoLink.Proofs.Session.Reading
import ServoLink.Proofs.Script.Image
import ServoLink.Proofs.Status.Decoding
import ServoLink.Proofs.Session.Apply
import ServoLink.Proofs.Session.Refusal
import ServoLink.Proofs.Session.Acceptance
import ServoLink.Proofs.Session.RoundTrip
import ServoLink.Proofs.Exchange.Sequence
import ServoLink.Proofs.Text.ByteOrder
import ServoLink.Proofs.Script.Blocks
import ServoLink.Proofs.Script.Table
import ServoLink.Proofs.Session.Calls
import ServoLink.Proofs.Session.WellFormed
import ServoLink.Proofs.Device.ScriptMemory
import ServoLink.Proofs.Session.Upload
import ServoLink.Proofs.Device.FaultyBus
import ServoLink.Proofs.Session.Interruption
import ServoLink.Proofs.Device.Replay
import ServoLink.Proofs.Session.Cut
import ServoLink.Proofs.Exchange.Results
import ServoLink.Proofs.Settings.Exact
import ServoLink.Proofs.Status.Indexed
import ServoLink.Proofs.Status.Coverage
import ServoLink.Proofs.Session.ApplyThenUpload
import ServoLink.Proofs.Session.StatusReading
import ServoLink.Proofs.Session.Collecting
import ServoLink.Proofs.Session.ExactReading
import ServoLink.Proofs.Session.SafeReading
import ServoLink.Proofs.Session.Restoring
import ServoLink.Proofs.Session.ReadBack
import ServoLink.Proofs.Device.Logging
import ServoLink.Proofs.Exchange.Tally
import ServoLink.Proofs.Session.Counting
import ServoLink.Proofs.Device.LastWrite
import ServoLink.Proofs.Session.ParameterStore
import ServoLink.Proofs.Settings.Reconciliation
import ServoLink.Proofs.Channel.Repacking
import ServoLink.Proofs.Settings.Locality
import ServoLink.Proofs.Parameter.Memory
import ServoLink.Proofs.Session.Readers
import ServoLink.Proofs.Session.Independence
import ServoLink.Proofs.Status.Segments
import ServoLink.Proofs.Status.ExactDecoding
import ServoLink.Proofs.Script.Faults
import ServoLink.Proofs.Script.Terminator
import ServoLink.Proofs.Script.CyclicCheck
import ServoLink.Proofs.Script.Checksum
import ServoLink.Proofs.Parameter.Codec
import ServoLink.Proofs.Settings.Speed
import ServoLink.Proofs.Settings.BaudRate
import ServoLink.Proofs.Device.Replies
import ServoLink.Proofs.Text.Digits
import ServoLink.Proofs.Text.Runs
import ServoLink.Proofs.Snapshot.Representation
import ServoLink.Proofs.Snapshot.Records
import ServoLink.Proofs.Json.Scalars
import ServoLink.Proofs.Json.Values
import ServoLink.Proofs.Snapshot.Folder
import ServoLink.Proofs.Text.Bytes
import ServoLink.Proofs.Yaml.Cursor
import ServoLink.Proofs.Yaml.Plain
import ServoLink.Proofs.Yaml.Quoted
import ServoLink.Proofs.Yaml.Literal
import ServoLink.Proofs.Yaml.Scanner
import ServoLink.Proofs.Yaml.Words
import ServoLink.Proofs.Yaml.Keys
import ServoLink.Proofs.Yaml.Flow
import ServoLink.Proofs.Yaml.Lines
import ServoLink.Proofs.Yaml.Tokens
import ServoLink.Proofs.Yaml.Scan
import ServoLink.Proofs.Yaml.Nodes
import ServoLink.Proofs.Yaml.Values
import ServoLink.Proofs.Snapshot.RoundTrip
