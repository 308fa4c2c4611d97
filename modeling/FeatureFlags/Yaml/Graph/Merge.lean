import FeatureFlags.Yaml.Graph.Basic

/-!
# Merge keys

A mapping may take over the pairs of others by a merge key.  Its value is a mapping or a sequence of
mappings, of which the first one wins.  Pairs that are taken over come before the mapping's own, so
that these replace them.
-/

set_option autoImplicit false

namespace FeatureFlags.Yaml

namespace Graph

/-- The value under the first merge key among pairs, and the pairs without it. -/
def takeMerge? (graph : Graph) :
    List (NodeId × NodeId) → Option (NodeId × List (NodeId × NodeId))
  | [] => none
  | (key, value) :: rest =>
      if graph.tag key = .merge then some (value, rest)
      else (graph.takeMerge? rest).map fun (found, others) => (found, (key, value) :: others)

/-- A key for the usual entry counts as text in a mapping. -/
def settleKey (graph : Graph) (key : NodeId) : Graph :=
  if graph.tag key = .default then graph.setTag key .str else graph

def pairCount (graph : Graph) : Nat :=
  graph.nodes.foldl (fun count node =>
    match node.content with
    | .mapping pairs => count + pairs.length
    | _ => count) 0

/-- The pairs that the value of a merge key offers, once its mappings are flat; of several mappings
the first one comes last. -/
def offered (flatten : NodeId → Graph → Except Fault Graph) (value : NodeId) (graph : Graph) :
    Except Fault (List (NodeId × NodeId) × Graph) :=
  match (graph.node? value).map Node.content with
  | some (.mapping _) => do
      let graph ← flatten value graph
      return ((graph.pairs? value).getD [], graph)
  | some (.sequence items) =>
      items.foldlM (fun (pairs, graph) item => do
        if (graph.pairs? item).isNone then throw .malformed
        let graph ← flatten item graph
        return ((graph.pairs? item).getD [] ++ pairs, graph)) ([], graph)
  | _ => throw .malformed

/-- Carries out the merge keys of a mapping one after the other, behind the pairs that are already
taken over.  Every step removes a merge key from the graph; the mappings under it are made flat by
one of the calls that may still be nested. -/
def flattenFrom (id : NodeId) (taken : List (NodeId × NodeId)) (calls : Nat) :
    Nat → Graph → Except Fault Graph
  | 0, _ => throw .malformed
  | fuel + 1, graph => do
      let pairs := (graph.pairs? id).getD []
      match graph.takeMerge? pairs with
      | some (value, others) =>
          let flatten (inner : NodeId) (graph : Graph) : Except Fault Graph :=
            match calls with
            | 0 => throw .tooDeep
            | left + 1 => flattenFrom inner [] left fuel graph
          let (more, graph) ← offered flatten value (graph.setContent id (.mapping others))
          flattenFrom id (taken ++ more) calls fuel graph
      | none =>
          let settled := (pairs.map (·.1)).foldl settleKey graph
          return settled.setContent id (.mapping (taken ++ pairs))

def flatten (calls : Nat) (id : NodeId) (graph : Graph) : Except Fault Graph :=
  flattenFrom id [] calls (graph.pairCount + 1) graph

end Graph

end FeatureFlags.Yaml
