import ServoLink.Yaml.Node

namespace ServoLink.Yaml

/-! ## The nodes of a document -/

namespace Node

mutual

/-- The nodes of a tree, each one in front of those inside it, and then the later ones. -/
def nodesThen : Node → (later : List Node) → List Node
  | scalar label style text, later => scalar label style text :: later
  | sequence label items, later => sequence label items :: itemsThen items later
  | mapping label entries, later => mapping label entries :: entriesThen entries later
  | .alias number, later => .alias number :: later
termination_by structural node => node

def itemsThen : List Node → (later : List Node) → List Node
  | [], later => later
  | item :: items, later => item.nodesThen (itemsThen items later)
termination_by structural items => items

def entriesThen : List (Node × Node) → (later : List Node) → List Node
  | [], later => later
  | entry :: entries, later => entryThen entry (entriesThen entries later)
termination_by structural entries => entries

def entryThen : Node × Node → (later : List Node) → List Node
  | (key, value), later => key.nodesThen (value.nodesThen later)
termination_by structural entry => entry

end

/-- The nodes of a tree in the order in which they begin. -/
def nodes (node : Node) : List Node :=
  node.nodesThen []

/-- The number of a node's anchor. -/
def anchor? : Node → Option Nat
  | scalar label _ _ => label.anchor
  | sequence label _ => label.anchor
  | mapping label _ => label.anchor
  | .alias _ => none

/-- The events that a node itself gives rise to: one for the node, and for a collection
one more at its end. -/
def ownEvents : Node → Nat
  | scalar .. => 1
  | sequence .. => 2
  | mapping .. => 2
  | .alias _ => 1

/-- The number of events of a tree. -/
def eventCount (node : Node) : Nat :=
  node.nodes.foldr (fun node count => node.ownEvents + count) 0

end Node

/-! ## What aliases stand for -/

/-- A node with the anchored nodes of its document by number, the last one first. -/
structure Linked where
  node : Node
  targets : List (Nat × Node)
  deriving Repr, Inhabited

namespace Linked

/-- The root of a document. -/
def ofRoot (root : Node) : Linked where
  node := root
  targets := (root.nodes.filterMap fun node => node.anchor?.map (·, node)).reverse

/-- The root of a text that holds one document. -/
def parse? (text : String) : Option Linked :=
  (Node.parse? text).map ofRoot

/-- Another node of the same document. -/
def moveTo (linked : Linked) (node : Node) : Linked :=
  { linked with node }

/-- The node that an alias stands for, or the node itself, with the number of aliases
followed.  Where several nodes got an alias's number it is the last of them, also for the
aliases in front of it. -/
def follow (linked : Linked) : Linked × Nat :=
  match linked.node with
  | .alias number => (linked.moveTo ((linked.targets.lookup number).getD .empty), 1)
  | _ => (linked, 0)

end Linked

end ServoLink.Yaml
