import FeatureFlags.Yaml.Data.Draft
import FeatureFlags.Yaml.Graph.Reader

/-!
# The data of a document

The collections of a draft name each other; here they are put into each other.  A collection may
hold itself, and then its data is unfolded down to a depth that is chosen, with null below it.
-/

set_option autoImplicit false

namespace FeatureFlags.Yaml

/-- A part as data, where the data of the collections is given by a table. -/
def Part.data (table : Array Data) : Part → Data
  | .whole data => data
  | .collection id => table[id]?.getD .null

def Filling.data (table : Array Data) : Filling → Data
  | .list items => .list (items.map (Part.data table))
  | .pairs entries =>
      .list (entries.map fun (name, part) => .list [name.data table, part.data table])
  | .map entries => .map (entries.map fun (label, part) => (label, part.data table))
  | .set members => .set members

namespace Draft

/-- Puts the fillings into the table, inner collections first, so that of collections that do not
hold themselves each finds those in it complete. -/
def unfoldOnce (draft : Draft) (table : Array Data) : Array Data :=
  draft.graph.collections.foldl (fun table id =>
    match draft.fillings[id]?.join with
    | some filling => table.setIfInBounds id (filling.data table)
    | none => table) table

/-- The data of the collections, right down to the given depth at least. -/
def unfold (draft : Draft) : (depth : Nat) → Array Data
  | 0 => .replicate draft.graph.size .null
  | depth + 1 => draft.unfoldOnce (draft.unfold depth)

end Draft

namespace Data

/-- The data of the document in a text, right down to the given depth; a text without a document
holds null.  Documents are read by an interpreter that nests so many calls. -/
def ofText (calls depth : Nat) (text : List Char) : Except Fault Data := do
  match ← Graph.ofText calls text with
  | (_, none) => return .null
  | (graph, some root) =>
      let (part, draft) ← (Draft.complete root).run (.ofGraph calls graph)
      return part.data (draft.unfold depth)

end Data

end FeatureFlags.Yaml
