import ServoLink.Snapshot.Document
import ServoLink.Yaml.Alias
import ServoLink.Yaml.Value

namespace ServoLink.Yaml

/-! ## Reading records -/

namespace Label

/-- Whether a node is tagged as a standard type. -/
def isStandard (label : Label) (type : String) : Bool :=
  label.tag == some (.standard type)

/-- The name in a tag of the application. -/
def localName? (label : Label) : Option String :=
  label.tag.bind Tag.localName?

end Label

namespace Node

/-- The text of a scalar that may be taken for a value of a standard type: a plain one
whatever its tag, and a literal one with the tag of the type. -/
def unquoted? (type : String) : Node → Option String
  | scalar _ .plain text => some text
  | scalar label .literal text => if label.isStandard type then some text else none
  | _ => none

def text? : Node → Option String
  | scalar _ _ text => some text
  | _ => none

/-- Whether nothing is written. -/
def isBlank : Node → Bool
  | scalar _ .plain text => text.isEmpty
  | _ => false

/-- The items of a sequence; nothing written is a sequence without items. -/
def items? : Node → Option (List Node)
  | sequence _ items => some items
  | node => if node.isBlank then some [] else none

/-- The entries of a mapping; nothing written is a mapping without entries. -/
def entries? : Node → Option (List (Node × Node))
  | mapping _ entries => some entries
  | node => if node.isBlank then some [] else none

/-- Nothing, or a plain word for it, is no value; under the tag for null only such a word
is accepted, and any other tag makes a value of it. -/
def optional? : Node → Option (Option Node)
  | scalar label .plain text =>
      if label.tag.isNone then
        if text.isEmpty || isNull text then some none else some (some (scalar label .plain text))
      else if label.isStandard "null" then
        if isNull text then some none else none
      else
        some (some (scalar label .plain text))
  | node => some (some node)

/-- A variant with a payload is a node with a tag of the application, and one without is
a scalar. -/
def variant? : Node → Option (String × Option Node)
  | scalar label style text =>
      match label.localName? with
      | some name => some (name, some (scalar label style text))
      | none => some (text, none)
  | sequence label items => label.localName?.map (·, some (sequence label items))
  | mapping label entries => label.localName?.map (·, some (mapping label entries))
  | .alias _ => none

def isUnit : Node → Bool
  | scalar _ .plain text => text.isEmpty || isNull text
  | _ => false

end Node

/-- Aliases may be followed a hundred times as often as the document has events. -/
instance : ServoLink.Document Linked where
  follow := Linked.follow
  allowance root := 100 * root.node.eventCount
  natural? value := (value.node.unquoted? "int").bind fun text => Yaml.natural? text.toList
  boolean? value := (value.node.unquoted? "bool").bind Yaml.boolean?
  text? value := value.node.text?
  items? value := value.node.items?.map (·.map value.moveTo)
  fields? _ value := value.node.entries?.map (·.map (·.map value.moveTo value.moveTo))
  entries? value := value.node.entries?.map (·.map (·.map value.moveTo value.moveTo))
  optional? value := value.node.optional?.map (·.map value.moveTo)
  variant? value := value.node.variant?.map fun variant =>
    (variant.1, variant.2.map value.moveTo)
  isUnit value := value.node.isUnit

end ServoLink.Yaml
