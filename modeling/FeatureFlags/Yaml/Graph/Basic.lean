import FeatureFlags.Yaml.Cursor
import FeatureFlags.Yaml.Tag

/-!
# The nodes of a YAML document

The nodes of a document form a graph: an alias is another way to the node that its anchor names, so
a node may have several parents and may even contain itself.  Nodes are known by their numbers.
-/

set_option autoImplicit false

namespace FeatureFlags.Yaml

abbrev NodeId := Nat

inductive Content where
  | scalar (text : List Char)
  | broken (text : Text.Broken)
  | sequence (items : List NodeId)
  | mapping (pairs : List (NodeId × NodeId))
  deriving DecidableEq, Repr

structure Node where
  tag : Tag
  content : Content
  deriving DecidableEq, Repr

structure Graph where
  nodes : Array Node
  /-- The sequences and mappings in the order in which their ends were read.  Of two collections
  neither of which contains itself, the inner one comes first. -/
  collections : List NodeId
  deriving DecidableEq

namespace Graph

def empty : Graph :=
  ⟨#[], []⟩

def size (graph : Graph) : Nat :=
  graph.nodes.size

def node? (graph : Graph) (id : NodeId) : Option Node :=
  graph.nodes[id]?

/-- Adds a node; its number is the size of the graph before. -/
def add (node : Node) (graph : Graph) : Graph :=
  { graph with nodes := graph.nodes.push node }

def setContent (id : NodeId) (content : Content) (graph : Graph) : Graph :=
  { graph with nodes := graph.nodes.modify id fun node => { node with content } }

def setTag (id : NodeId) (tag : Tag) (graph : Graph) : Graph :=
  { graph with nodes := graph.nodes.modify id fun node => { node with tag } }

/-- The tag of a node; what is no node has none that means anything. -/
def tag (graph : Graph) (id : NodeId) : Tag :=
  ((graph.node? id).map Node.tag).getD .unknown

def pairs? (graph : Graph) (id : NodeId) : Option (List (NodeId × NodeId)) :=
  match graph.node? id with
  | some ⟨_, .mapping pairs⟩ => some pairs
  | _ => none

end Graph

end FeatureFlags.Yaml
