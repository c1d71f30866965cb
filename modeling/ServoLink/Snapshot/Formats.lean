import ServoLink.Json.Parser
import ServoLink.Json.Printer
import ServoLink.Snapshot.Codec
import ServoLink.Yaml.Document
import ServoLink.Yaml.Printer

namespace ServoLink

/-! ## JSON and YAML -/

def Json.codec : Codec where
  Value := Json
  document := inferInstance
  print := Json.render
  parse? := Json.parse?

def Yaml.codec : Codec where
  Value := Yaml.Linked
  document := inferInstance
  print := Yaml.render
  parse? := Yaml.Linked.parse?

instance : Codecs where
  codec
    | .json => Json.codec
    | .yaml => Yaml.codec

end ServoLink
