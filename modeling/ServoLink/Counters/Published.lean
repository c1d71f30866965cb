import ServoLink.Counters.Basic
import ServoLink.Text.Shortest

namespace ServoLink

/-! ## Publishing counters -/

/-- A counter as it is published: help, type and value, on a line each. -/
structure PublishedCounter where
  name : String
  help : String
  value : Nat
  deriving DecidableEq, Repr

def PublishedCounter.text (counter : PublishedCounter) : String :=
  "# HELP " ++ counter.name ++ " " ++ counter.help ++ "\n" ++
    "# TYPE " ++ counter.name ++ " counter\n" ++
    counter.name ++ " " ++ countText counter.value ++ "\n"

/-- The counters in the order of their names. -/
def Counters.published (counters : Counters) : List PublishedCounter :=
  [ ⟨"maestro_control_in_total", "Control transfers read from the device",
      counters.controlIn⟩,
    ⟨"maestro_control_out_total", "Control transfers sent to the device",
      counters.controlOut⟩,
    ⟨"maestro_parameter_writes_total", "Settings parameters written",
      counters.parameterWrites⟩,
    ⟨"maestro_script_blocks_total", "Script memory blocks written",
      counters.scriptBlocks⟩ ]

def Counters.text (counters : Counters) : String :=
  String.join (counters.published.map PublishedCounter.text)

end ServoLink
