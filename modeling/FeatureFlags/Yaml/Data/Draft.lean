import FeatureFlags.Entries
import FeatureFlags.Yaml.Data.Scalar
import FeatureFlags.Yaml.Graph.Merge

/-!
# Data in the making

The data of a document is made from the outside in.  A scalar is made as soon as it is met; a
collection is noted and filled once those that were met before it are full.  A node is made once,
however many aliases lead to it, and of several faults the one that is met first is found.
-/

set_option autoImplicit false

namespace FeatureFlags.Yaml

/-- What a node becomes: whole data, or a collection that is known by its node. -/
inductive Part where
  | whole (data : Data)
  | collection (id : NodeId)

inductive Filling where
  | list (items : List Part)
  | pairs (entries : List (Part × Part))
  | map (entries : List (Label × Part))
  | set (members : List Label)

structure Draft where
  /-- How many calls may be nested. -/
  calls : Nat
  graph : Graph
  parts : Array (Option Part)
  /-- The collections in the order in which they were met. -/
  met : Array NodeId
  fillings : Array (Option Filling)

abbrev Drafting (Result : Type) := StateT Draft (Except Fault) Result

/-- The text of a scalar; a mapping with a usual entry stands for the text of that entry, which a
nested call looks up. -/
def Graph.text (graph : Graph) (id : NodeId) : (calls : Nat) → Except Fault Text.Raw
  | 0 => throw .tooDeep
  | calls + 1 =>
      match (graph.node? id).map Node.content with
      | some (.scalar text) => return .whole (String.ofList text)
      | some (.broken text) => return .broken text
      | some (.mapping pairs) =>
          match pairs.find? fun (key, _) => graph.tag key = .default with
          | some (_, usual) => graph.text usual calls
          | none => throw .malformed
      | _ => throw .malformed

/-- The data of a node whose tag promises no collection. -/
def Graph.scalar (graph : Graph) (calls : Nat) (id : NodeId) : Except Fault Data := do
  let tag := graph.tag id
  if !Data.promisesScalar tag then throw .malformed
  let text ← graph.text id calls
  if tag = .timestamp && (graph.pairs? id).isSome then throw (.scalar .notText)
  Data.ofScalar tag text

namespace Draft

def ofGraph (calls : Nat) (graph : Graph) : Draft :=
  ⟨calls, graph, .replicate graph.size none, #[], .replicate graph.size none⟩

def make (id : NodeId) : Drafting Part := do
  let draft ← get
  match draft.parts[id]?.join with
  | some part => return part
  | none =>
      if Data.promisesCollection (draft.graph.tag id) then
        let part := .collection id
        set { draft with
          parts := draft.parts.setIfInBounds id (some part)
          met := draft.met.push id }
        return part
      else
        let part := .whole (← draft.graph.scalar draft.calls id)
        set { draft with parts := draft.parts.setIfInBounds id (some part) }
        return part

/-- The label that a key becomes; a collection is none. -/
def makeLabel (key : NodeId) : Drafting Label := do
  match ← make key with
  | .whole data =>
      match data.label? with
      | some label => return label
      | none => throw .malformed
  | .collection _ => throw .malformed

def makeEntries (id : NodeId) : Drafting (List (Label × Part)) := do
  let draft ← get
  if (draft.graph.pairs? id).isNone then throw .malformed
  let graph ← draft.graph.flatten draft.calls id
  set { draft with graph }
  let pairs ← ((graph.pairs? id).getD []).mapM fun (key, value) => do
    let label ← makeLabel key
    return (label, ← make value)
  return Entries.ofPairs pairs

def items (id : NodeId) : Drafting (List NodeId) := do
  match ((← get).graph.node? id).map Node.content with
  | some (.sequence items) => return items
  | _ => throw .malformed

/-- The entry of a mapping that has just one; its key may be anything. -/
def makeSingle (id : NodeId) : Drafting (Part × Part) := do
  match (← get).graph.pairs? id with
  | some [(key, value)] => do
      let name ← make key
      return (name, ← make value)
  | _ => throw .malformed

def makeFilling (id : NodeId) : Drafting Filling := do
  match (← get).graph.tag id with
  | .seq => return .list (← (← items id).mapM make)
  | .map => return .map (← makeEntries id)
  | .set => return .set ((← makeEntries id).map (·.1))
  | _ => return .pairs (← (← items id).mapM makeSingle)

/-- Fills the collections from the given place on, also those that are met on the way. -/
def fillFrom (place : Nat) : Nat → Drafting Unit
  | 0 => return
  | fuel + 1 => do
      match (← get).met[place]? with
      | none => return
      | some id =>
          let filling ← makeFilling id
          modify fun draft =>
            { draft with fillings := draft.fillings.setIfInBounds id (some filling) }
          fillFrom (place + 1) fuel

/-- Makes the data that belongs to a node.  Every node is met once at most. -/
def complete (root : NodeId) : Drafting Part := do
  let part ← make root
  fillFrom 0 (← get).graph.size
  return part

end Draft

end FeatureFlags.Yaml
