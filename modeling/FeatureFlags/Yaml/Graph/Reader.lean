import FeatureFlags.Yaml.Graph.Basic
import FeatureFlags.Yaml.Token.Lexer

/-!
# From tokens to nodes

Reads the nodes of the document in a text, of which there is at most one.  Tokens are looked at no
earlier than they are needed, so of several faults in a text the first one is found.
-/

set_option autoImplicit false

namespace FeatureFlags.Yaml

/-- A text that is being read, with its tag handles, the nodes so far and the anchors among them. -/
structure Reader where
  lexer : Lexer
  handles : List (List Char × List Char)
  graph : Graph
  anchors : List (List Char × NodeId)
  /-- How many calls may still be nested. -/
  calls : Nat

abbrev Reading (Result : Type) := StateT Reader (Except Fault) Result

namespace Reader

def fail {Result : Type} : Reading Result :=
  throw .malformed

def peek : Reading (Option Token) := do
  let (token, lexer) ← (← get).lexer.peek
  modify fun reader => { reader with lexer }
  return token

def take : Reading Unit :=
  modify fun reader => { reader with lexer := reader.lexer.take }

def nextIn (tokens : List Token) : Reading Bool := do
  return (← peek).any tokens.contains

def add (node : Node) : Reading NodeId := do
  let id := (← get).graph.size
  modify fun reader => { reader with graph := reader.graph.add node }
  return id

def addAbsent : Reading NodeId :=
  add ⟨.null, .scalar []⟩

/-- Adds a node under its anchor, which has to be new. -/
def addAnchored (anchor : Option (List Char)) (node : Node) : Reading NodeId := do
  match anchor with
  | none => add node
  | some name =>
      if ((← get).anchors.lookup name).isSome then fail
      else
        let id ← add node
        modify fun reader => { reader with anchors := (name, id) :: reader.anchors }
        return id

def complete (id : NodeId) (content : Content) : Reading NodeId := do
  modify fun reader =>
    let graph := reader.graph.setContent id content
    { reader with graph := { graph with collections := graph.collections ++ [id] } }
  return id

/-- Reads the inside of a collection, which takes two nested calls. -/
def inside {Result : Type} (read : Reading Result) : Reading Result := do
  match (← get).calls with
  | left + 2 =>
      modify fun reader => { reader with calls := left }
      let result ← read
      modify fun reader => { reader with calls := left + 2 }
      return result
  | _ => throw .tooDeep

structure Properties where
  anchor : Option (List Char)
  tag : Option (Option (List Char) × List Char)

def readProperties : Reading Properties := do
  match ← peek with
  | some (.anchor name) =>
      take
      match ← peek with
      | some (.tag handle suffix) =>
          take
          return ⟨some name, some (handle, suffix)⟩
      | _ => return ⟨some name, none⟩
  | some (.tag handle suffix) =>
      take
      match ← peek with
      | some (.anchor name) =>
          take
          return ⟨some name, some (handle, suffix)⟩
      | _ => return ⟨none, some (handle, suffix)⟩
  | _ => return ⟨none, none⟩

inductive Tagging where
  | none
  /-- The bare `!`. -/
  | bare
  | explicit (tag : Tag)

def tagging : Option (Option (List Char) × List Char) → Reading Tagging
  | none => return .none
  | some (none, suffix) => return if suffix == ['!'] then .bare else .explicit (.ofUri suffix)
  | some (some handle, suffix) => do
      match (← get).handles.lookup handle with
      | some head => return .explicit (.ofUri (head ++ suffix))
      | none => fail

/-- The tag of a scalar: its own, or one from the spelling of a plain scalar. -/
def scalarTag (tagging : Tagging) (plain : Bool) (text : List Char) : Tag :=
  match tagging with
  | .explicit tag => tag
  | .bare => .ofPlain text
  | .none => if plain then .ofPlain text else .str

def collectionTag (tagging : Tagging) (usual : Tag) : Tag :=
  match tagging with
  | .explicit tag => tag
  | _ => usual

/-- The tag of a broken text, which is always quoted. -/
def brokenTag : Tagging → Tag
  | .explicit tag => tag
  | _ => .str

def readEmpty (properties : Properties) (tagged : Tagging) : Reading NodeId :=
  if properties.anchor.isNone && properties.tag.isNone then fail
  else addAnchored properties.anchor ⟨scalarTag tagged true [], .scalar []⟩

mutual

/-- A node; block collections and indentless sequences only where they are allowed. -/
def read (block indentless : Bool) : Nat → Reading NodeId
  | 0 => fail
  | fuel + 1 => do
      match ← peek with
      | some (.alias name) =>
          take
          match (← get).anchors.lookup name with
          | some id => return id
          | none => fail
      | _ =>
          let properties ← readProperties
          let tagged ← tagging properties.tag
          let sequence : Reading NodeId :=
            addAnchored properties.anchor ⟨collectionTag tagged .seq, .sequence []⟩
          let mapping : Reading NodeId :=
            addAnchored properties.anchor ⟨collectionTag tagged .map, .mapping []⟩
          match ← peek with
          | some (.scalar text plain) =>
              take
              addAnchored properties.anchor ⟨scalarTag tagged plain text, .scalar text⟩
          | some (.broken text) =>
              take
              addAnchored properties.anchor ⟨brokenTag tagged, .broken text⟩
          | some .flowSequenceStart =>
              let id ← sequence
              take
              complete id (.sequence (← inside (readFlowItems true fuel)))
          | some .flowMappingStart =>
              let id ← mapping
              take
              complete id (.mapping (← inside (readFlowPairs true fuel)))
          | some .blockEntry =>
              if indentless then
                let id ← sequence
                complete id (.sequence (← inside (readIndentless fuel)))
              else readEmpty properties tagged
          | some .blockSequenceStart =>
              if block then
                let id ← sequence
                take
                complete id (.sequence (← inside (readBlockItems fuel)))
              else readEmpty properties tagged
          | some .blockMappingStart =>
              if block then
                let id ← mapping
                take
                complete id (.mapping (← inside (readBlockPairs fuel)))
              else readEmpty properties tagged
          | _ => readEmpty properties tagged

/-- A node, or nothing when one of the given tokens comes next. -/
def readUnless (stops : List Token) (block indentless : Bool) : Nat → Reading NodeId
  | 0 => fail
  | fuel + 1 => do
      if ← nextIn stops then addAbsent else read block indentless fuel

def readBlockItems : Nat → Reading (List NodeId)
  | 0 => fail
  | fuel + 1 => do
      match ← peek with
      | some .blockEntry =>
          take
          let item ← readUnless [.blockEntry, .blockEnd] true false fuel
          return item :: (← readBlockItems fuel)
      | some .blockEnd =>
          take
          return []
      | _ => fail

/-- The entries of a sequence that is indented like the mapping around it. -/
def readIndentless : Nat → Reading (List NodeId)
  | 0 => fail
  | fuel + 1 => do
      match ← peek with
      | some .blockEntry =>
          take
          let item ← readUnless [.blockEntry, .key, .value, .blockEnd] true false fuel
          return item :: (← readIndentless fuel)
      | _ => return []

def readBlockPairs : Nat → Reading (List (NodeId × NodeId))
  | 0 => fail
  | fuel + 1 => do
      match ← peek with
      | some .key =>
          take
          let stops : List Token := [.key, .value, .blockEnd]
          let key ← readUnless stops true true fuel
          let value ← readValue stops true fuel
          return (key, value) :: (← readBlockPairs fuel)
      | some .blockEnd =>
          take
          return []
      | _ => fail

def readValue (stops : List Token) (block : Bool) : Nat → Reading NodeId
  | 0 => fail
  | fuel + 1 => do
      match ← peek with
      | some .value =>
          take
          readUnless stops block block fuel
      | _ => addAbsent

/-- The entries of a flow sequence; a single pair is a mapping of its own. -/
def readFlowItems (first : Bool) : Nat → Reading (List NodeId)
  | 0 => fail
  | fuel + 1 => do
      if ← nextIn [.flowSequenceEnd] then
        take
        return []
      else
        if !first then
          if ← nextIn [.flowEntry] then take else fail
        match ← peek with
        | some .flowSequenceEnd =>
            take
            return []
        | some .key =>
            let id ← add ⟨.map, .mapping []⟩
            take
            let item ← complete id (.mapping [← inside (readSinglePair fuel)])
            return item :: (← readFlowItems false fuel)
        | _ =>
            let item ← read false false fuel
            return item :: (← readFlowItems false fuel)

def readSinglePair : Nat → Reading (NodeId × NodeId)
  | 0 => fail
  | fuel + 1 => do
      let key ← readUnless [.value, .flowEntry, .flowSequenceEnd] false false fuel
      let value ← readValue [.flowEntry, .flowSequenceEnd] false fuel
      return (key, value)

def readFlowPairs (first : Bool) : Nat → Reading (List (NodeId × NodeId))
  | 0 => fail
  | fuel + 1 => do
      if ← nextIn [.flowMappingEnd] then
        take
        return []
      else
        if !first then
          if ← nextIn [.flowEntry] then take else fail
        match ← peek with
        | some .flowMappingEnd =>
            take
            return []
        | some .key =>
            take
            let key ← readUnless [.value, .flowEntry, .flowMappingEnd] false false fuel
            let value ← readValue [.flowEntry, .flowMappingEnd] false fuel
            return (key, value) :: (← readFlowPairs false fuel)
        | _ =>
            let key ← read false false fuel
            let value ← addAbsent
            return (key, value) :: (← readFlowPairs false fuel)

end

def usualHandles : List (List Char × List Char) :=
  [(['!'], ['!']), (['!', '!'], Tag.standardSpace.toList)]

/-- The directives before a document: at most one version, of major number one, and tag handles that
are all different. -/
def readDirectives (versioned : Bool) (handles : List (List Char × List Char)) : Nat → Reading Unit
  | 0 => fail
  | fuel + 1 => do
      match ← peek with
      | some (.versionDirective major) =>
          take
          if versioned || major != 1 then fail else readDirectives true handles fuel
      | some (.tagDirective handle head) =>
          take
          if (handles.lookup handle).isSome then fail
          else readDirectives versioned ((handle, head) :: handles) fuel
      | some .otherDirective =>
          take
          readDirectives versioned handles fuel
      | _ => modify fun reader => { reader with handles := handles ++ usualHandles }

def isDirective : Token → Bool
  | .versionDirective _ | .tagDirective _ _ | .otherDirective => true
  | _ => false

def readAnnouncement (fuel : Nat) : Reading Unit := do
  readDirectives false [] fuel
  if ← nextIn [.documentStart] then take else fail

/-- The content of a document that is announced; it may be absent. -/
def readContent (fuel : Nat) : Reading NodeId := do
  match ← peek with
  | none => addAbsent
  | some token =>
      if isDirective token || token == .documentStart || token == .documentEnd then addAbsent
      else read true false fuel

def skipDocumentEnds : Nat → Reading Unit
  | 0 => fail
  | fuel + 1 => do
      if ← nextIn [.documentEnd] then
        take
        skipDocumentEnds fuel

/-- Nothing but document ends may follow the document. -/
def readEnd (fuel : Nat) : Reading Unit := do
  skipDocumentEnds fuel
  if (← peek).isSome then
    readAnnouncement fuel
    fail

def readDocument (fuel : Nat) : Reading (Option NodeId) := do
  match ← peek with
  | none => return none
  | some token =>
      let root ←
        if isDirective token || token == .documentStart then do
          readAnnouncement fuel
          readContent fuel
        else read true false fuel
      readEnd fuel
      return some root

end Reader

/-- The document of a text: its nodes and its root, if there is one. -/
def Graph.ofText (calls : Nat) (text : List Char) : Except Fault (Graph × Option NodeId) := do
  if text.all isAllowed then
    let start : Reader := ⟨.ofText text, Reader.usualHandles, .empty, [], calls⟩
    let (root, reader) ← (Reader.readDocument (16 * (text.length + 1))).run start
    return (reader.graph, root)
  else throw .malformed

end FeatureFlags.Yaml
