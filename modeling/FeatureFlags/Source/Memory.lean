import FeatureFlags.Entries
import FeatureFlags.Error
import FeatureFlags.Flag
import FeatureFlags.Resource

/-!
# A source in memory

It replies from what was put into it, counts the requests, and can be made to fail or to reply with
any value.
-/

set_option autoImplicit false

namespace FeatureFlags

structure Memory where
  flags : Value
  overrides : Value
  identities : List (String × Overrides)
  stateError : Option Error
  identityError : Option Error
  /-- What a successful state request brings instead of flags and overrides. -/
  rawState : Option Value
  /-- What a successful identity request brings instead of overrides. -/
  rawIdentity : Option Value
  stateRequests : Nat
  identityRequests : List String
  closings : Nat

namespace Memory

def new (flags overrides : Value) (identities : List (String × Overrides)) : Memory :=
  ⟨flags, overrides, identities, none, none, none, none, 0, [], 0⟩

def setIdentity (identifier : String) (overrides : Overrides) (memory : Memory) : Memory :=
  { memory with identities := Entries.put identifier overrides memory.identities }

def fetch (resource : Resource) (memory : Memory) : Memory × Except Error Value :=
  match resource with
  | .state =>
      let counted := { memory with stateRequests := memory.stateRequests + 1 }
      match memory.stateError with
      | some error => (counted, .error error)
      | none =>
          let usual := .object [("flags", memory.flags), ("overrides", memory.overrides)]
          (counted, .ok (memory.rawState.getD usual))
  | .identity identifier =>
      let counted :=
        { memory with identityRequests := memory.identityRequests ++ [identifier] }
      match memory.identityError with
      | some error => (counted, .error error)
      | none =>
          let overrides := (memory.identities.lookup identifier).getD []
          (counted, .ok (memory.rawIdentity.getD (.object [("overrides", .object overrides)])))

end Memory

end FeatureFlags
