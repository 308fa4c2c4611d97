import FeatureFlags.Flight.Step

/-!
# Sharing plain values

The simplest service: a caller has its value at once, or it waits for the shared fetch of a key and
takes what that brings.
-/

set_option autoImplicit false

namespace FeatureFlags.Flight.Shared

inductive Want where
  | given (result : Except Error Value)
  | shared (key : String)

abbrev SharedState := State Unit String Want (Except Error Value) Value Value

def service : Service Unit String Want (Except Error Value) Value Value where
  enter
    | .given result, world => (world, .finish result)
    | .shared key, world => (world, .await key (.shared key))
  resume _ result world := (world, .finish result)
  leave _ world := world
  accept _ reply world := (world, reply)

end FeatureFlags.Flight.Shared
