import FixedExtract.Yaml.Graph
import FixedExtract.Yaml.Token
/-!
# Nodes

The nodes that the tokens of a document make. A node is read before what is in it and may be named there
already.
-/

namespace FixedExtract.Yaml

/-! ## Reading tokens -/

/-- What has been read and named. -/
structure Reading where
  tokens : List Token
  fault : Option Fault
  graph : Graph
  anchors : List (Text × NodeId)
  handles : List (Text × Text)
  deriving Repr

abbrev Read := StateT Reading (Except Fault)

/-- The next token. -/
def peekToken : Read Token := do
  let s ← get
  match s.tokens, s.fault with
  | token :: _, _ => return token
  | [], some fault => throw fault
  | [], none => throw .malformed

def dropToken : Read Unit := modify fun s => { s with tokens := s.tokens.drop 1 }

/-- Drops a token that must come next. -/
def expect (token : Token) : Read Unit := do
  if (← peekToken) = token then dropToken else throw .malformed

/-- Is the next token one of some? -/
def nextIs (tokens : List Token) : Read Bool := return tokens.elem (← peekToken)

/-- Adds a node, and gives it a name when it has one. -/
def newNode (anchor : Option Text) (node : Node) : Read NodeId :=
  modifyGet fun s =>
    let id := s.graph.size
    let named := anchor.toList.map fun name => (name, id)
    (id, { s with graph := s.graph.push node, anchors := named ++ s.anchors })

/-- The null that stands where nothing is written. -/
def newEmptyNode : Read NodeId := newNode none .empty

/-- Refuses a name that is in use. -/
def checkName (anchor : Option Text) : Read Unit := do
  match anchor with
  | none => return ()
  | some name => if ((← get).anchors.lookup name).isSome then throw .malformed

/-- The node that an alias stands for. -/
def aliasNode (name : Text) : Read NodeId := do
  match (← get).anchors.lookup name with
  | none => throw .malformed
  | some id => return id

/-- The tag that is written as a handle and a suffix; none for the tag that says nothing. -/
def tagOf (handle : Option Text) (suffix : Text) : Read (Option Tag) := do
  match handle with
  | none => return if suffix = ['!'] then none else some (.ofName suffix)
  | some handle =>
    match (← get).handles.lookup handle with
    | none => throw .malformed
    | some expansion => return some (.ofName (expansion ++ suffix))

/-- What is written in front of a node. -/
structure Properties where
  anchor : Option Text
  tagged : Bool
  tag : Option Tag
  deriving Repr

namespace Properties

/-- Is there nothing in front of the node? -/
def isEmpty (p : Properties) : Bool := p.anchor.isNone && !p.tagged

/-- The tag of a scalar. A text between quotes that has no tag is a text, one whose tag says nothing is
taken like a plain one. -/
def scalarTag (p : Properties) (text : Text) (plain : Bool) : Tag :=
  match p.tag with
  | some tag => tag
  | none => if plain || p.tagged then plainTag text else .text

end Properties

/-- Reads an anchor that may come next. -/
def readAnchorToken : Read (Option Text) := do
  match ← peekToken with
  | .anchor name =>
    dropToken
    return some name
  | _ => return none

/-- Reads a tag that may come next. -/
def readTagToken : Read (Bool × Option Tag) := do
  match ← peekToken with
  | .tag handle suffix =>
    dropToken
    return (true, ← tagOf handle suffix)
  | _ => return (false, none)

/-- Reads an anchor and a tag in either order. -/
def readProperties : Read Properties := do
  match ← readAnchorToken with
  | some name =>
    let (tagged, tag) ← readTagToken
    return ⟨some name, tagged, tag⟩
  | none =>
    let (tagged, tag) ← readTagToken
    let anchor ← if tagged then readAnchorToken else pure none
    return ⟨anchor, tagged, tag⟩

/-- Where a node stands, which decides in what forms it may come: only in flow form, also in block form,
or also as a sequence that is not indented. -/
inductive Position where
  | flow
  | block
  | blockValue
  deriving DecidableEq, Repr

/-- The forms that a collection may come in. -/
inductive Form where
  | blockSequence
  | flatSequence
  | blockMapping
  | flowSequence
  | flowMapping
  deriving DecidableEq, Repr

/-- The tag of a collection that has none of its own. -/
def Form.tag : Form → Tag
  | .blockSequence => .list
  | .flatSequence => .list
  | .flowSequence => .list
  | .blockMapping => .map
  | .flowMapping => .map

/-- The form of the collection that the next token starts. -/
def Position.form? (position : Position) : Token → Option Form
  | .flowSequenceStart => some .flowSequence
  | .flowMappingStart => some .flowMapping
  | .blockSequenceStart => if position = .flow then none else some .blockSequence
  | .blockMappingStart => if position = .flow then none else some .blockMapping
  | .blockEntry => if position = .blockValue then some .flatSequence else none
  | _ => none

mutual

/-- Reads a node. -/
def readNode : (fuel : Nat) → Position → Read NodeId
  | 0, _ => throw .malformed
  | fuel + 1, position => do
    match ← peekToken with
    | .alias name =>
      dropToken
      aliasNode name
    | _ =>
      let properties ← readProperties
      checkName properties.anchor
      let token ← peekToken
      match token, position.form? token with
      | .scalar text plain, _ =>
        dropToken
        newNode properties.anchor ⟨properties.scalarTag text plain, .scalar text⟩
      | _, some form =>
        let id ← newNode properties.anchor ⟨properties.tag.getD form.tag, .sequence []⟩
        let content ← readContent fuel form
        modify fun s => { s with graph := s.graph.setContent id content }
        return id
      | _, none =>
        if properties.isEmpty then throw .malformed
        newNode properties.anchor ⟨properties.tag.getD .null, .scalar []⟩

/-- Reads the content of a collection in a form. -/
def readContent : (fuel : Nat) → Form → Read Content
  | 0, _ => throw .malformed
  | fuel + 1, form => do
    match form with
    | .blockSequence =>
      dropToken
      return .sequence (← readBlockItems fuel)
    | .flatSequence => return .sequence (← readFlatItems fuel)
    | .blockMapping =>
      dropToken
      return .mapping (← readBlockEntries fuel)
    | .flowSequence =>
      dropToken
      return .sequence (← readFlowItems fuel true)
    | .flowMapping =>
      dropToken
      return .mapping (← readFlowEntries fuel true)

/-- Reads a node, or takes it for null when one of `ends` comes next. -/
def readNodeOrEmpty : (fuel : Nat) → Position → List Token → Read NodeId
  | 0, _, _ => throw .malformed
  | fuel + 1, position, ends => do
    if ← nextIs ends then newEmptyNode else readNode fuel position

/-- Reads the items of a sequence up to the end of its block. -/
def readBlockItems : (fuel : Nat) → Read (List NodeId)
  | 0 => throw .malformed
  | fuel + 1 => do
    if ← nextIs [.blockEntry] then
      dropToken
      let item ← readNodeOrEmpty fuel .block [.blockEntry, .blockEnd]
      return item :: (← readBlockItems fuel)
    else
      expect .blockEnd
      return []

/-- Reads the items of a sequence that is not indented. -/
def readFlatItems : (fuel : Nat) → Read (List NodeId)
  | 0 => throw .malformed
  | fuel + 1 => do
    if ← nextIs [.blockEntry] then
      dropToken
      let item ← readNodeOrEmpty fuel .block [.blockEntry, .key, .value, .blockEnd]
      return item :: (← readFlatItems fuel)
    else return []

/-- Reads the entries of a mapping up to the end of its block. -/
def readBlockEntries : (fuel : Nat) → Read NodeEntries
  | 0 => throw .malformed
  | fuel + 1 => do
    let ends := [Token.key, .value, .blockEnd]
    if ← nextIs [.key] then
      dropToken
      let key ← readNodeOrEmpty fuel .blockValue ends
      let value ← readValueAfter fuel .blockValue ends
      return (key, value) :: (← readBlockEntries fuel)
    else
      expect .blockEnd
      return []

/-- Reads the value behind a colon; without a colon it is null. -/
def readValueAfter : (fuel : Nat) → Position → List Token → Read NodeId
  | 0, _, _ => throw .malformed
  | fuel + 1, position, ends => do
    if ← nextIs [.value] then
      dropToken
      readNodeOrEmpty fuel position ends
    else newEmptyNode

/-- Reads the items of a flow sequence. A single entry without braces is a mapping of its own. -/
def readFlowItems : (fuel : Nat) → (first : Bool) → Read (List NodeId)
  | 0, _ => throw .malformed
  | fuel + 1, first => do
    if ← nextIs [.flowSequenceEnd] then
      dropToken
      return []
    else
      if !first then expect .flowEntry
      if ← nextIs [.key] then
        dropToken
        let key ← readNodeOrEmpty fuel .flow [.value, .flowEntry, .flowSequenceEnd]
        let value ← readValueAfter fuel .flow [.flowEntry, .flowSequenceEnd]
        let pair ← newNode none ⟨.map, .mapping [(key, value)]⟩
        return pair :: (← readFlowItems fuel false)
      else if ← nextIs [.flowSequenceEnd] then
        dropToken
        return []
      else
        let item ← readNode fuel .flow
        return item :: (← readFlowItems fuel false)

/-- Reads the entries of a flow mapping. A node that is no key has the value null. -/
def readFlowEntries : (fuel : Nat) → (first : Bool) → Read NodeEntries
  | 0, _ => throw .malformed
  | fuel + 1, first => do
    if ← nextIs [.flowMappingEnd] then
      dropToken
      return []
    else
      if !first then expect .flowEntry
      if ← nextIs [.key] then
        dropToken
        let key ← readNodeOrEmpty fuel .flow [.value, .flowEntry, .flowMappingEnd]
        let value ← readValueAfter fuel .flow [.flowEntry, .flowMappingEnd]
        return (key, value) :: (← readFlowEntries fuel false)
      else if ← nextIs [.flowMappingEnd] then
        dropToken
        return []
      else
        let key ← readNode fuel .flow
        let value ← newEmptyNode
        return (key, value) :: (← readFlowEntries fuel false)

end

/-! ## Documents -/

/-- The tag handles that every document has. -/
def defaultHandles : List (Text × Text) := [(['!'], ['!']), (['!', '!'], Tag.corePrefix)]

/-- Reads the directives in front of a document: the handles they define. -/
def readDirectives (version : Bool) (handles : List (Text × Text)) :
    (fuel : Nat) → Read (List (Text × Text))
  | 0 => throw .malformed
  | fuel + 1 => do
    match ← peekToken with
    | .directive (.version major _) =>
      dropToken
      if version || major ≠ 1 then throw .malformed
      readDirectives true handles fuel
    | .directive (.tagHandle handle expansion) =>
      dropToken
      if (handles.lookup handle).isSome then throw .malformed
      readDirectives version ((handle, expansion) :: handles) fuel
    | .directive .other =>
      dropToken
      readDirectives version handles fuel
    | _ => return handles

/-- Drops the marks for ends of documents. -/
def dropDocumentEnds : (fuel : Nat) → Read Unit
  | 0 => throw .malformed
  | fuel + 1 => do
    if ← nextIs [.documentEnd] then
      dropToken
      dropDocumentEnds fuel
    else return ()

/-- The steps that reading the present tokens can take at most. -/
def readFuel : Read Nat := return 4 * (← get).tokens.length + 4

/-- Is the next token a directive? -/
def nextIsDirective : Read Bool := do
  match ← peekToken with
  | .directive _ => return true
  | _ => return false

/-- How a document starts: with its content, or with a mark that content may follow. -/
inductive Start where
  | bare
  | marked
  deriving DecidableEq, Repr

/-- Reads what stands in front of the next document, unless there is none left. The first document of a
text needs no mark for its start. -/
def readStart (first : Bool) : Read (Option Start) := do
  if first && !(← nextIsDirective) && !(← nextIs [.documentStart, .streamEnd]) then
    modify fun s => { s with handles := defaultHandles }
    return some .bare
  else
    dropDocumentEnds (← readFuel)
    if ← nextIs [.streamEnd] then return none
    let handles ← readDirectives false [] (← readFuel)
    modify fun s => { s with handles := handles ++ defaultHandles }
    expect .documentStart
    return some .marked

/-- Reads the content of a document that has started, and the mark for its end. The number is that of the
node that holds all others. -/
def readRoot (start : Start) : Read NodeId := do
  modify fun s => { s with graph := .empty, anchors := [] }
  let isEmpty ← match start with
    | .bare => pure false
    | .marked => pure ((← nextIs [.documentStart, .documentEnd, .streamEnd]) || (← nextIsDirective))
  let root ← if isEmpty then newEmptyNode else readNode (← readFuel) .block
  if ← nextIs [.documentEnd] then dropToken
  return root

end FixedExtract.Yaml
