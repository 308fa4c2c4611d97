/-!
# What is fetched

A client fetches two kinds of things: the state of all flags, and the overrides of one identifier.
-/

set_option autoImplicit false

namespace FeatureFlags

inductive Resource where
  | state
  | identity (identifier : String)
  deriving DecidableEq, Repr

def Resource.context : Resource → String
  | .state => "fetch_state"
  | .identity identifier => "fetch_identity(" ++ identifier ++ ")"

end FeatureFlags
