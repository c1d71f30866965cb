import ServoLink.Yaml.Token

namespace ServoLink.Yaml

/-! ## Nodes -/

/-- What stands in front of a node's content: the number of its anchor, and its tag. -/
structure Label where
  anchor : Option Nat := none
  tag : Option Tag := none
  deriving Repr, Inhabited

/-- The tree of a document.  An alias has the number of an anchor. -/
inductive Node where
  | scalar (label : Label) (style : ScalarStyle) (text : String)
  | sequence (label : Label) (items : List Node)
  | mapping (label : Label) (entries : List (Node × Node))
  | alias (number : Nat)
  deriving Repr, Inhabited

/-- What stands where nothing is written. -/
def Node.empty : Node := .scalar {} .plain ""

/-! ## Building nodes from tokens -/

/-- The tokens that are left, the anchors' names with their latest numbers, and the tag
handles. -/
structure Composer where
  tokens : List Token
  names : List (String × Nat) := []
  handles : List (String × List UInt8) := []

/-- A step that reads tokens and may fail. -/
abbrev Compose (α : Type) := StateT Composer Option α

namespace Compose

def peek : Compose (Option Token) := do
  return (← get).tokens.head?

def advance : Compose Unit :=
  modify fun composer => { composer with tokens := composer.tokens.tail }

/-- The full tag of a handle and a suffix. -/
def resolveTag (handle : String) (suffix : List UInt8) : Compose Tag := do
  if handle.isEmpty then
    return ⟨suffix⟩
  else
    match (← get).handles.lookup handle with
    | some start => return ⟨start ++ suffix⟩
    | none => failure

/-- Numbers a name by how many names there are already.  A name that is bound again does
not add to them, so that the next new name gets the same number. -/
def bindName (name : String) : Compose Nat := do
  let names := (← get).names
  let number := names.length
  let others := names.filter fun entry => entry.1 != name
  modify fun composer => { composer with names := (name, number) :: others }
  return number

/-- The latest number of a name. -/
def numberOf (name : String) : Compose Nat := do
  match (← get).names.lookup name with
  | some number => return number
  | none => failure

def anchorNumber? : Compose (Option Nat) := do
  match ← peek with
  | some (.anchor name) => do
      advance
      some <$> bindName name
  | _ => return none

def tag? : Compose (Option Tag) := do
  match ← peek with
  | some (.tag handle suffix) => do
      advance
      some <$> resolveTag handle suffix
  | _ => return none

/-- An anchor and a tag in either order, one of them, or none. -/
def label : Compose Label := do
  match ← anchorNumber? with
  | some number => return { anchor := some number, tag := ← tag? }
  | none => do
      let tag ← tag?
      if tag.isSome then
        return { anchor := ← anchorNumber?, tag }
      else
        return {}

/-- Whether one of the tokens comes next. -/
def nextIsOneOf (expected : List Token) : Compose Bool := do
  return (← peek).any expected.contains

mutual

/-- A node.  Block collections may begin only where `block` holds, and a sequence
without indentation of its own only where `indentless` does. -/
def node : (steps : Nat) → (block indentless : Bool) → Compose Node
  | 0, _, _ => failure
  | steps + 1, block, indentless => do
      if let some (.alias name) ← peek then
        advance
        .alias <$> numberOf name
      else
        let label ← label
        match ← peek with
        | some (.scalar style text) => do
            advance
            return .scalar label style text
        | some .flowSequenceStart => do
            advance
            .sequence label <$> flowItems steps true
        | some .flowMappingStart => do
            advance
            .mapping label <$> flowEntries steps true
        | next =>
            if indentless && next == some .blockEntry then
              .sequence label <$> indentlessItems steps
            else if block && next == some .blockSequenceStart then do
              advance
              .sequence label <$> blockItems steps
            else if block && next == some .blockMappingStart then do
              advance
              .mapping label <$> blockEntries steps
            else if label.anchor.isSome || label.tag.isSome then
              return .scalar label .plain ""
            else
              failure

/-- A block node, or nothing in front of the given tokens. -/
def blockNodeBefore (steps : Nat) (indentless : Bool) (ends : List Token) : Compose Node := do
  if ← nextIsOneOf ends then return .empty else node steps true indentless

/-- A flow node, or nothing in front of the given tokens. -/
def flowNodeBefore (steps : Nat) (ends : List Token) : Compose Node := do
  if ← nextIsOneOf ends then return .empty else node steps false false

/-- The items of a block sequence up to its end. -/
def blockItems : (steps : Nat) → Compose (List Node)
  | 0 => failure
  | steps + 1 => do
      match ← peek with
      | some .blockEntry => do
          advance
          let item ← blockNodeBefore steps false [.blockEntry, .blockEnd]
          return item :: (← blockItems steps)
      | some .blockEnd => do
          advance
          return []
      | _ => failure

/-- The items of a sequence that stands at the column of the mapping around it. -/
def indentlessItems : (steps : Nat) → Compose (List Node)
  | 0 => failure
  | steps + 1 => do
      if ← nextIsOneOf [.blockEntry] then
        advance
        let item ← blockNodeBefore steps false [.blockEntry, .key, .value, .blockEnd]
        return item :: (← indentlessItems steps)
      else
        return []

/-- The entries of a block mapping up to its end. -/
def blockEntries : (steps : Nat) → Compose (List (Node × Node))
  | 0 => failure
  | steps + 1 => do
      match ← peek with
      | some .key => do
          advance
          let key ← blockNodeBefore steps true [.key, .value, .blockEnd]
          let value ← blockValue steps
          return (key, value) :: (← blockEntries steps)
      | some .blockEnd => do
          advance
          return []
      | _ => failure

/-- The value of a block mapping's entry, if it has one. -/
def blockValue (steps : Nat) : Compose Node := do
  if ← nextIsOneOf [.value] then
    advance
    blockNodeBefore steps true [.key, .value, .blockEnd]
  else
    return .empty

/-- The items of a flow sequence up to its bracket; a pair with a colon is a mapping of
one entry. -/
def flowItems : (steps : Nat) → (first : Bool) → Compose (List Node)
  | 0, _ => failure
  | steps + 1, first => do
      if ← nextIsOneOf [.flowSequenceEnd] then
        advance
        return []
      else
        if !first then
          if ← nextIsOneOf [.flowEntry] then advance else failure
        if ← nextIsOneOf [.key] then
          advance
          let key ← flowPairKey steps
          let value ← flowValue steps [.flowEntry, .flowSequenceEnd]
          return .mapping {} [(key, value)] :: (← flowItems steps false)
        else if ← nextIsOneOf [.flowSequenceEnd] then
          advance
          return []
        else
          let item ← node steps false false
          return item :: (← flowItems steps false)

/-- The key of a pair in a flow sequence.  Where it is left out, the token that shows
this is passed over as well. -/
def flowPairKey (steps : Nat) : Compose Node := do
  if ← nextIsOneOf [.value, .flowEntry, .flowSequenceEnd] then
    advance
    return .empty
  else
    node steps false false

/-- The value of an entry in a flow collection, if it has one. -/
def flowValue (steps : Nat) (ends : List Token) : Compose Node := do
  if ← nextIsOneOf [.value] then
    advance
    flowNodeBefore steps ends
  else
    return .empty

/-- The entries of a flow mapping up to its brace; an entry without a colon has no
value. -/
def flowEntries : (steps : Nat) → (first : Bool) → Compose (List (Node × Node))
  | 0, _ => failure
  | steps + 1, first => do
      if ← nextIsOneOf [.flowMappingEnd] then
        advance
        return []
      else
        if !first then
          if ← nextIsOneOf [.flowEntry] then advance else failure
        if ← nextIsOneOf [.key] then
          advance
          let key ← flowNodeBefore steps [.value, .flowEntry, .flowMappingEnd]
          let value ← flowValue steps [.flowEntry, .flowMappingEnd]
          return (key, value) :: (← flowEntries steps false)
        else if ← nextIsOneOf [.flowMappingEnd] then
          advance
          return []
        else
          let key ← node steps false false
          return (key, .empty) :: (← flowEntries steps false)

end

/-! ## Documents -/

/-- Takes the directives in front of a document.  There is at most one version, which has
to be 1.1 or 1.2, and at most one meaning for each tag handle. -/
def directives : (steps : Nat) → (versions : Nat) → Compose Bool
  | 0, _ => failure
  | steps + 1, versions => do
      match ← peek with
      | some (.version major minor) =>
          if versions = 0 ∧ major = 1 ∧ (minor = 1 ∨ minor = 2) then do
            advance
            discard (directives steps 1)
            return true
          else
            failure
      | some (.tagHandle handle start) => do
          if ((← get).handles.lookup handle).isSome then
            failure
          else
            advance
            modify fun composer =>
              { composer with handles := (handle, start) :: composer.handles }
            discard (directives steps versions)
            return true
      | _ => return false

/-- The handles that are known without a directive; a directive may replace them. -/
def defaultHandles : List (String × List UInt8) :=
  [("!", asciiBytes ['!']), ("!!", standardStart)]

def addDefaultHandles : Compose Unit :=
  modify fun composer => { composer with handles := composer.handles ++ defaultHandles }

def skipDocumentEnds : (steps : Nat) → Compose Unit
  | 0 => pure ()
  | steps + 1 => do
      if ← nextIsOneOf [.documentEnd] then
        advance
        skipDocumentEnds steps

/-- The content of a document after its marker, which may be missing. -/
def content (steps : Nat) : Compose Node := do
  match ← peek with
  | none | some .documentStart | some .documentEnd => return .empty
  | some (.version _ _) | some (.tagHandle _ _) => return .empty
  | _ => node steps true false

/-- The one document of a stream; a stream without any holds an empty one. -/
def document (steps : Nat) : Compose Node := do
  if (← peek).isNone then
    return .empty
  else
    let directed ← directives steps 0
    addDefaultHandles
    let started ← nextIsOneOf [.documentStart]
    let root ←
      if started then do
        advance
        content steps
      else if directed then
        failure
      else
        node steps true false
    skipDocumentEnds steps
    if (← peek).isNone then return root else failure

end Compose

/-- The node of a text that holds one document. -/
def Node.parse? (text : String) : Option Node := do
  let tokens ← Token.scan? text.toList
  let steps := 2 * tokens.length + 3
  (Compose.document steps).run' { tokens }

end ServoLink.Yaml
