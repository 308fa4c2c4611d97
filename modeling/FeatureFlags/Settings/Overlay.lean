import FeatureFlags.Entries
import FeatureFlags.Yaml.Data.Basic

/-!
# One mapping laid over another

Where both hold a mapping under one label, the inner mappings are laid over each other in turn;
elsewhere the upper value replaces the lower one.  Lists are replaced as a whole.
-/

set_option autoImplicit false

namespace FeatureFlags.Yaml

/-- Whether mappings lie over mappings along some path down to a depth. -/
def reaches : (depth : Nat) → (upper lower : List (Label × Data)) → Bool
  | 0, _, _ => true
  | depth + 1, upper, lower =>
      upper.any fun (label, data) =>
        match data, lower.lookup label with
        | .map above, some (.map below) => reaches depth above below
        | _, _ => false

mutual

/-- Upper data over what lies below it. -/
def Data.over : Data → Option Data → Data
  | .map upper, some (.map lower) => .map (overlay upper lower)
  | upper, _ => upper

/-- The entries of an upper mapping laid over those of a lower one. -/
def overlay : List (Label × Data) → List (Label × Data) → List (Label × Data)
  | [], lower => lower
  | (label, upper) :: rest, lower =>
      overlay rest (Entries.put label (upper.over (lower.lookup label)) lower)

end

end FeatureFlags.Yaml
