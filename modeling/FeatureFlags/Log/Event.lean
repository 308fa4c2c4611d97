import FeatureFlags.Log.Basic
import FeatureFlags.Precedence

/-!
# What a client logs

Each event is a cause with its facts; `Event.record` gives it its level, name and fields.
-/

set_option autoImplicit false

namespace FeatureFlags.Log

inductive Event where
  | initialized (host : String)
  | stateRefreshed (flags overrides : Nat)
  | stateFailed (error : String)
  | identityFetched (identifier : String) (overrides : Nat)
  | identityFailed (identifier error : String)
  /-- At least one identity was swept. -/
  | evicted (count : Nat)
  | evaluated (key : String) (identifier : Option String) (tier : Tier)
  | closed
  deriving DecidableEq, Repr

def tierName : Tier → String
  | .callSite => "CALL_SITE"
  | .identity => "IDENTITY"
  | .globalOverride => "GLOBAL_OVERRIDE"
  | .dynamicRule => "DYNAMIC_RULE"
  | .default => "DEFAULT"

def count (number : Nat) : Value :=
  .int number

def Event.record : Event → Record
  | .initialized host => ⟨.info, "client_initialized", [("host", .string host)]⟩
  | .stateRefreshed flags overrides =>
      ⟨.info, "state_refreshed", [("flags", count flags), ("overrides", count overrides)]⟩
  | .stateFailed error => ⟨.warning, "state_refresh_failed", [("error", .string error)]⟩
  | .identityFetched identifier overrides =>
      ⟨.debug, "identity_fetched",
        [("identifier", .string identifier), ("overrides", count overrides)]⟩
  | .identityFailed identifier error =>
      ⟨.warning, "identity_fetch_failed",
        [("identifier", .string identifier), ("error", .string error)]⟩
  | .evicted number => ⟨.debug, "identities_evicted", [("count", count number)]⟩
  | .evaluated key identifier tier =>
      ⟨.debug, "flag_evaluated",
        [("key", .string key), ("identifier", (identifier.map Value.string).getD .null),
          ("source", .string (tierName tier))]⟩
  | .closed => ⟨.debug, "transport_closed", []⟩

end FeatureFlags.Log
