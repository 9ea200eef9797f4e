import DocumentTypes.Table
import DocumentTypes.Yaml.Token

/-! # Nodes

The tree that the tokens of a stream spell. Aliases are kept as they are written:
only a reader knows whether the node behind one is wanted. -/

namespace DocumentTypes.Yaml

/-- What may stand in front of a node: an anchor, which is numbered, and a tag. -/
structure Properties where
  anchor : Option Nat
  tag : Option TagBytes
  deriving Repr

namespace Properties

def none : Properties := ⟨.none, .none⟩

def isEmpty (properties : Properties) : Bool :=
  properties.anchor.isNone && properties.tag.isNone

end Properties

inductive Node
  | scalar (properties : Properties) (style : ScalarStyle) (text : String)
  | sequence (properties : Properties) (items : List Node)
  | mapping (properties : Properties) (entries : List (Node × Node))
  /-- An alias, which stands for the node whose anchor has this number. -/
  | reference (anchor : Nat)
  deriving Inhabited

namespace Node

def blank : Node := scalar .none .plain ""

def properties : Node → Properties
  | scalar properties _ _ => properties
  | sequence properties _ => properties
  | mapping properties _ => properties
  | reference _ => .none

mutual

/-- Every node with its anchor, in the order in which they begin. -/
def anchored : Node → List (Nat × Node)
  | node@(scalar ..) => ownAnchor node
  | node@(sequence _ items) => ownAnchor node ++ anchoredItems items
  | node@(mapping _ entries) => ownAnchor node ++ anchoredEntries entries
  | reference _ => []

def anchoredItems : List Node → List (Nat × Node)
  | [] => []
  | item :: rest => anchored item ++ anchoredItems rest

def anchoredEntries : List (Node × Node) → List (Nat × Node)
  | [] => []
  | (key, value) :: rest => anchored key ++ anchored value ++ anchoredEntries rest

def ownAnchor (node : Node) : List (Nat × Node) :=
  match node.properties.anchor with
  | some anchor => [(anchor, node)]
  | none => []

end

mutual

/-- The number of marks that a node takes up: one for a scalar or an alias, a
beginning and an end for a collection. -/
def weight : Node → Nat
  | scalar .. => 1
  | reference _ => 1
  | sequence _ items => itemsWeight items + 2
  | mapping _ entries => entriesWeight entries + 2

def itemsWeight : List Node → Nat
  | [] => 0
  | item :: rest => weight item + itemsWeight rest

def entriesWeight : List (Node × Node) → Nat
  | [] => 0
  | (key, value) :: rest => weight key + weight value + entriesWeight rest

end

end Node

/-! ## Reading nodes

The tokens that are left, the tag handles of the document, and the numbers of the
anchors met so far. An anchor gets as its number the count of names in use; a name
that is used again takes a new number, and its old node can no longer be reached. -/

structure NodeState where
  tokens : List Token
  handles : Table String TagBytes
  anchors : Table String Nat

abbrev NodeReader := StateT NodeState Option

namespace NodeReader

def next? : NodeReader (Option Token) := return (← get).tokens.head?

def advance : NodeReader Unit := modify fun state => { state with tokens := state.tokens.tail }

def nextIs (condition : Token → Bool) : NodeReader Bool := return (← next?).any condition

def expect (token : Token) : NodeReader Unit := do
  if ← nextIs (· == token) then advance else failure

def accept (token : Token) : NodeReader Bool := do
  let found ← nextIs (· == token)
  if found then advance
  return found

/-- A tag with a handle is what the handle stands for, followed by the suffix. -/
def resolveTag (handle : String) (suffix : TagBytes) : NodeReader TagBytes := do
  if handle = "" then return suffix
  else
    let leading ← (← get).handles.get? handle
    return leading ++ suffix

def defineAnchor (name : String) : NodeReader Nat := do
  let number := (← get).anchors.size
  modify fun state => { state with anchors := state.anchors.put name number }
  return number

def properties : NodeReader Properties := do
  match (← get).tokens with
  | .anchor name :: .tag handle suffix :: _ | .tag handle suffix :: .anchor name :: _ =>
    advance
    advance
    return ⟨some (← defineAnchor name), some (← resolveTag handle suffix)⟩
  | .anchor name :: _ =>
    advance
    return ⟨some (← defineAnchor name), none⟩
  | .tag handle suffix :: _ =>
    advance
    return ⟨none, some (← resolveTag handle suffix)⟩
  | _ => return .none

/-- Where a node stands. Directly inside a block mapping a sequence needs no deeper
indentation. -/
inductive Place
  | flow
  | block
  | blockMapping
  deriving DecidableEq

def endsBlockItem : Token → Bool
  | .blockEntry | .blockEnd => true
  | _ => false

def endsBlockPart : Token → Bool
  | .key | .value | .blockEnd => true
  | _ => false

def endsIndentlessItem (token : Token) : Bool := token == .blockEntry || endsBlockPart token

def endsFlowKey (closing : Token) (token : Token) : Bool :=
  token == .value || token == .flowEntry || token == closing

def endsFlowValue (closing : Token) (token : Token) : Bool :=
  token == .flowEntry || token == closing

def emptyContent (properties : Properties) : NodeReader Node :=
  if properties.isEmpty then failure else return .scalar properties .plain ""

mutual

def node : Nat → Place → NodeReader Node
  | 0, _ => failure
  | fuel + 1, place => do
    match ← next? with
    | some (.reference name) =>
      advance
      return .reference (← (← get).anchors.get? name)
    | _ => content fuel place (← properties)

def content : Nat → Place → Properties → NodeReader Node
  | 0, _, _ => failure
  | fuel + 1, place, properties => do
    match ← next? with
    | some (.scalar text style) =>
      advance
      return .scalar properties style text
    | some .flowSequenceStart =>
      advance
      return .sequence properties (← flowItems fuel true)
    | some .flowMappingStart =>
      advance
      return .mapping properties (← flowEntries fuel true)
    | some .blockSequenceStart =>
      if place = .flow then failure
      advance
      return .sequence properties (← blockItems fuel)
    | some .blockMappingStart =>
      if place = .flow then failure
      advance
      return .mapping properties (← blockEntries fuel)
    | some .blockEntry =>
      if place = .blockMapping then return .sequence properties (← indentlessItems fuel)
      else emptyContent properties
    | _ => emptyContent properties

def nodeUnless : Nat → Place → (Token → Bool) → NodeReader Node
  | 0, _, _ => failure
  | fuel + 1, place, absent => do
    if ← nextIs absent then return .blank else node fuel place

def blockItems : Nat → NodeReader (List Node)
  | 0 => failure
  | fuel + 1 => do
    if ← accept .blockEntry then
      let item ← nodeUnless fuel .block endsBlockItem
      return item :: (← blockItems fuel)
    else
      expect .blockEnd
      return []

def indentlessItems : Nat → NodeReader (List Node)
  | 0 => failure
  | fuel + 1 => do
    if ← accept .blockEntry then
      let item ← nodeUnless fuel .block endsIndentlessItem
      return item :: (← indentlessItems fuel)
    else return []

def blockEntries : Nat → NodeReader (List (Node × Node))
  | 0 => failure
  | fuel + 1 => do
    if ← accept .key then
      let key ← nodeUnless fuel .blockMapping endsBlockPart
      let value ← valueUnless fuel .blockMapping endsBlockPart
      return (key, value) :: (← blockEntries fuel)
    else
      expect .blockEnd
      return []

def valueUnless : Nat → Place → (Token → Bool) → NodeReader Node
  | 0, _, _ => failure
  | fuel + 1, place, absent => do
    if ← accept .value then nodeUnless fuel place absent else return .blank

def flowItems : Nat → Bool → NodeReader (List Node)
  | 0, _ => failure
  | fuel + 1, isFirst => do
    if ← accept .flowSequenceEnd then return []
    if !isFirst then expect .flowEntry
    if ← accept .flowSequenceEnd then return []
    let item ← if ← accept .key then flowPair fuel else node fuel .flow
    return item :: (← flowItems fuel false)

/-- An item of a sequence that is a mapping of one entry. An indicator in the place
of the key is passed over. -/
def flowPair : Nat → NodeReader Node
  | 0 => failure
  | fuel + 1 => do
    let key ←
      if ← nextIs (endsFlowKey .flowSequenceEnd) then
        advance
        pure .blank
      else node fuel .flow
    let value ← valueUnless fuel .flow (endsFlowValue .flowSequenceEnd)
    return .mapping .none [(key, value)]

def flowEntries : Nat → Bool → NodeReader (List (Node × Node))
  | 0, _ => failure
  | fuel + 1, isFirst => do
    if ← accept .flowMappingEnd then return []
    if !isFirst then expect .flowEntry
    if ← accept .flowMappingEnd then return []
    let entry ←
      if ← accept .key then
        let key ← nodeUnless fuel .flow (endsFlowKey .flowMappingEnd)
        let value ← valueUnless fuel .flow (endsFlowValue .flowMappingEnd)
        pure (key, value)
      else
        let key ← node fuel .flow
        pure (key, .blank)
    return entry :: (← flowEntries fuel false)

end

end NodeReader

/-! ## Documents -/

def standardTag (type : String) : TagBytes := asciiBytes ("tag:yaml.org,2002:" ++ type).toList

def standardHandles : Table String TagBytes :=
  .ofList [("!", asciiBytes ['!']), ("!!", standardTag "")]

/-- The directives of a document: at most one version, 1.1 or 1.2, and each handle
once. The handles and the rest of the tokens are returned. -/
def takeDirectives? : List Token → Bool → Table String TagBytes →
    Option (Table String TagBytes × List Token)
  | .versionDirective major minor :: rest, versioned, handles =>
    if versioned || major != 1 || !(minor == 1 || minor == 2) then none
    else takeDirectives? rest true handles
  | .tagDirective handle leading :: rest, versioned, handles =>
    if handles.contains handle then none
    else takeDirectives? rest versioned (handles.put handle leading)
  | tokens, _, handles => some (handles, tokens)

/-- A document's handles are its own and, where it does not define them, the
standard ones. -/
def withStandardHandles (handles : Table String TagBytes) : Table String TagBytes :=
  handles.entries.foldl (fun table entry => table.put entry.1 entry.2) standardHandles

def readRoot? (handles : Table String TagBytes) (explicit : Bool) (tokens : List Token) :
    Option (Node × List Token) := do
  let absent : Token → Bool := fun
    | .versionDirective .. | .tagDirective .. | .documentStart | .documentEnd => true
    | _ => false
  if explicit && tokens.head?.all absent then some (.blank, tokens)
  else
    let state := { tokens, handles := withStandardHandles handles, anchors := .empty }
    let (root, state) ← (NodeReader.node (4 * tokens.length + 4) .block).run state
    some (root, state.tokens)

/-- The first document of a stream with the tokens after it. A document that is not
announced needs content, but a stream may be empty altogether. -/
def firstDocument? : List Token → Option (Node × List Token)
  | [] => some (.blank, [])
  | tokens => do
    let (handles, rest) ← takeDirectives? tokens false .empty
    match rest with
    | .documentStart :: rest => readRoot? handles true rest
    | _ => if rest.length = tokens.length then readRoot? handles false tokens else none

def onlyDocument? (text : String) : Option Node := do
  let (root, rest) ← firstDocument? (← Token.ofText? text)
  if rest.all (· == .documentEnd) then some root else none

end DocumentTypes.Yaml
