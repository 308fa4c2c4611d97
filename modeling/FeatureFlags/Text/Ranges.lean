/-!
# Classes of characters by ranges

A class of characters is given by ranges of code points, each by its first and its last one.
-/

set_option autoImplicit false

namespace FeatureFlags.Text

def inRanges (ranges : List (Nat × Nat)) (c : Char) : Bool :=
  ranges.any fun (first, last) => first ≤ c.toNat && c.toNat ≤ last

end FeatureFlags.Text
