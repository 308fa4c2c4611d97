import FeatureFlags.Snapshot

/-!
# Identities

An identity is the set of overrides of one identifier, as fetched at one moment.
-/

set_option autoImplicit false

namespace FeatureFlags

structure Identity where
  identifier : String
  overrides : Overrides
  fetchedAt : Double

def Identity.decode (identifier : String) (data : Value) (fetchedAt : Double) :
    Except Error Identity :=
  match data.member "overrides" with
  | .error fault => .error (.parse (.malformedIdentity fault))
  | .ok (.object overrides) => .ok ⟨identifier, overrides, fetchedAt⟩
  | .ok value => .error (.parse (.overridesNotObject value))

end FeatureFlags
