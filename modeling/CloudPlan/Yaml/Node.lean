import CloudPlan.Yaml.Token

/-!
# Nodes

The tree of a YAML document.  An alias stands for the node that carries its anchor.
-/

namespace CloudPlan.Yaml

/-- A node, with its tag if it has one. -/
inductive Node where
  | scalar (tag : Option String) (isPlain : Bool) (text : String)
  | sequence (tag : Option String) (items : List Node)
  | mapping (tag : Option String) (entries : List (Node × Node))

namespace Node

/-- The node that stands where nothing is written. -/
def empty : Node := scalar none true ""

/-- The node with a tag. -/
def tagged (tag : Option String) : Node → Node
  | scalar _ isPlain text => scalar tag isPlain text
  | sequence _ items => sequence tag items
  | mapping _ entries => mapping tag entries

end Node

/-- The tokens that are left, and the nodes that carry anchors. -/
structure Remainder where
  /-- The tokens. -/
  tokens : List Token
  /-- The nodes by their anchors, the last one first. -/
  anchors : List (String × Node) := []

/-- Something that reads tokens. -/
abbrev Parse (α : Type) := StateT Remainder Option α

namespace Parse

/-- The next token. -/
def peek? : Parse (Option Token) := fun left => some (left.tokens.head?, left)

/-- Passes over the next token. -/
def skip : Parse Unit := fun left => some ((), { left with tokens := left.tokens.drop 1 })

/-- Passes over a token that has to come next. -/
def expect (token : Token) : Parse Unit := do
  guard ((← peek?) = some token)
  skip

/-- Passes over the next token if it is the given one, and tells if it was. -/
def accept (token : Token) : Parse Bool := do
  if (← peek?) = some token then
    skip
    return true
  else
    return false

/-- An anchor, if one comes next. -/
def anchor? : Parse (Option String) := do
  match ← peek? with
  | some (.anchor name) =>
    skip
    return some name
  | _ => return none

/-- A tag, if one comes next. -/
def tag? : Parse (Option String) := do
  match ← peek? with
  | some (.tag name) =>
    skip
    return some name
  | _ => return none

/-- The anchor and the tag of a node, in either order. -/
def properties : Parse (Option String × Option String) := do
  let anchor ← anchor?
  let tag ← tag?
  if anchor.isNone then
    return (← anchor?, tag)
  else
    return (anchor, tag)

/-- Gives an anchor to a node. -/
def remember (anchor : Option String) (node : Node) : Parse Unit := fun left =>
  match anchor with
  | some name => some ((), { left with anchors := (name, node) :: left.anchors })
  | none => some ((), left)

/-- The node that an alias stands for. -/
def remembered (name : String) : Parse Node := fun left =>
  (left.anchors.lookup name).map (·, left)

/-- Nothing is written before any of these tokens. -/
def endsAt (bounds : List Token) : Parse Bool := do
  return ((← peek?).map bounds.contains).getD true

/-- Where a node stands, and what it may be there. -/
structure Setting where
  /-- It may be a block collection. -/
  isBlock : Bool
  /-- It may be a sequence that is not indented. -/
  isUnindented : Bool := false

mutual

/-- A node, or the empty node before any of the given tokens. -/
def nodeBefore (fuel : Nat) (setting : Setting) (bounds : List Token) : Parse Node := do
  match fuel with
  | 0 => failure
  | fuel + 1 => if ← endsAt bounds then return Node.empty else node fuel setting

/-- A node. -/
def node (fuel : Nat) (setting : Setting) : Parse Node := do
  match fuel with
  | 0 => failure
  | fuel + 1 =>
    if let some (.alias name) ← peek? then
      skip
      remembered name
    else
      let (anchor, tag) ← properties
      let found ← content fuel setting (anchor.isSome || tag.isSome)
      let result := found.tagged tag
      remember anchor result
      return result

/-- The content of a node; after an anchor or a tag there may be none. -/
def content (fuel : Nat) (setting : Setting) (mayBeEmpty : Bool) : Parse Node := do
  match fuel with
  | 0 => failure
  | fuel + 1 =>
    match ← peek? with
    | some (.scalar isPlain text) =>
      skip
      return .scalar none isPlain text
    | some .flowSequenceStart =>
      skip
      return .sequence none (← flowItems fuel true)
    | some .flowMappingStart =>
      skip
      return .mapping none (← flowEntries fuel true)
    | some .blockEntry =>
      if setting.isUnindented then
        return .sequence none (← unindentedItems fuel)
      else
        guard mayBeEmpty
        return Node.empty
    | some .blockSequenceStart =>
      if setting.isBlock then
        skip
        return .sequence none (← blockItems fuel)
      else
        guard mayBeEmpty
        return Node.empty
    | some .blockMappingStart =>
      if setting.isBlock then
        skip
        return .mapping none (← blockEntries fuel)
      else
        guard mayBeEmpty
        return Node.empty
    | _ =>
      guard mayBeEmpty
      return Node.empty

/-- The items of a sequence in a block of its own. -/
def blockItems (fuel : Nat) : Parse (List Node) := do
  match fuel with
  | 0 => failure
  | fuel + 1 =>
    if ← accept .blockEntry then
      let item ← nodeBefore fuel { isBlock := true } [.blockEntry, .blockEnd]
      return item :: (← blockItems fuel)
    else
      expect .blockEnd
      return []

/-- The items of a sequence that is not indented. -/
def unindentedItems (fuel : Nat) : Parse (List Node) := do
  match fuel with
  | 0 => failure
  | fuel + 1 =>
    if ← accept .blockEntry then
      let item ← nodeBefore fuel { isBlock := true } [.blockEntry, .key, .value, .blockEnd]
      return item :: (← unindentedItems fuel)
    else
      return []

/-- The entries of a mapping in a block. -/
def blockEntries (fuel : Nat) : Parse (List (Node × Node)) := do
  match fuel with
  | 0 => failure
  | fuel + 1 =>
    if ← accept .key then
      let inner : Setting := { isBlock := true, isUnindented := true }
      let key ← nodeBefore fuel inner [.key, .value, .blockEnd]
      let value ←
        if ← accept .value then nodeBefore fuel inner [.key, .value, .blockEnd]
        else pure Node.empty
      return (key, value) :: (← blockEntries fuel)
    else
      expect .blockEnd
      return []

/-- The items of a sequence in brackets, the first one or further ones. -/
def flowItems (fuel : Nat) (isFirst : Bool) : Parse (List Node) := do
  match fuel with
  | 0 => failure
  | fuel + 1 =>
    if ← accept .flowSequenceEnd then
      return []
    else
      if !isFirst then
        expect .flowEntry
      if ← accept .key then
        let pair ← flowPair fuel
        return .mapping none [pair] :: (← flowItems fuel false)
      else if ← accept .flowSequenceEnd then
        return []
      else
        let item ← node fuel { isBlock := false }
        return item :: (← flowItems fuel false)

/-- The entry of a mapping that stands alone in a sequence in brackets. -/
def flowPair (fuel : Nat) : Parse (Node × Node) := do
  match fuel with
  | 0 => failure
  | fuel + 1 =>
    let key ←
      if ← endsAt [.value, .flowEntry, .flowSequenceEnd] then
        skip
        pure Node.empty
      else
        node fuel { isBlock := false }
    let value ←
      if ← accept .value then
        nodeBefore fuel { isBlock := false } [.flowEntry, .flowSequenceEnd]
      else
        pure Node.empty
    return (key, value)

/-- The entries of a mapping in braces, the first one or further ones. -/
def flowEntries (fuel : Nat) (isFirst : Bool) : Parse (List (Node × Node)) := do
  match fuel with
  | 0 => failure
  | fuel + 1 =>
    if ← accept .flowMappingEnd then
      return []
    else
      if !isFirst then
        expect .flowEntry
      if ← accept .key then
        let key ← nodeBefore fuel { isBlock := false } [.value, .flowEntry, .flowMappingEnd]
        let value ←
          if ← accept .value then
            nodeBefore fuel { isBlock := false } [.flowEntry, .flowMappingEnd]
          else
            pure Node.empty
        return (key, value) :: (← flowEntries fuel false)
      else if ← accept .flowMappingEnd then
        return []
      else
        let key ← node fuel { isBlock := false }
        return (key, Node.empty) :: (← flowEntries fuel false)

end

/-- The tokens that cannot begin a document without a line that says so. -/
def documentBounds : List Token := [.documentStart, .documentEnd]

/-- Passes over the lines that end a document. -/
def skipEnds : Parse Unit := fun left =>
  some ((), { left with tokens := left.tokens.dropWhile (· == .documentEnd) })

/-- The only document of a text; an empty text is none. -/
def document (fuel : Nat) : Parse Node := do
  let isExplicit ← accept .documentStart
  let root ←
    if isExplicit then nodeBefore fuel { isBlock := true } documentBounds
    else node fuel { isBlock := true }
  skipEnds
  guard (← peek?).isNone
  return root

end Parse

/-- The root of the only document of a text. -/
def Node.ofText? (text : String) : Option Node := do
  let tokens ← tokens? text
  let (root, _) ← (Parse.document (4 * tokens.length + 4)).run { tokens }
  return root

end CloudPlan.Yaml
