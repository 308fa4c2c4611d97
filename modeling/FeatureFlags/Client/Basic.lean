import FeatureFlags.Cache
import FeatureFlags.Flight.Step
import FeatureFlags.Log.Event
import FeatureFlags.Resource

/-!
# A client and its calls

A client evaluates flags against its caches and fetches what is missing or no longer fresh.  A call
passes through stages; between two stages it waits for a fetch that it may share with others.
-/

set_option autoImplicit false

namespace FeatureFlags

structure Client where
  host : String
  now : Double
  cache : Cache
  /-- What it has logged, in this order. -/
  events : List Log.Event
  /-- How often it has asked for its source to be closed. -/
  closings : Nat

structure Query where
  key : String
  identifier : Option String
  overrides : Overrides

namespace Client

inductive Purpose where
  | refresh
  /-- To be set up for evaluations. -/
  | setUp
  /-- To set up, evaluate and close. -/
  | visit (query : Query)

inductive Call where
  | refresh (purpose : Purpose)
  | identify (identifier : Option String)
  | evaluate (query : Query)

/-- How far a call has come; `closes` says that the client is closed at the end. -/
inductive Stage where
  | start (call : Call)
  | refreshing (purpose : Purpose)
  | identifying
  | matching (query : Query) (closes : Bool)
  /-- The identity is known, and the state is being fetched. -/
  | deciding (query : Query) (identity : Option Identity) (closes : Bool)

inductive Fetched where
  | state (snapshot : Snapshot)
  | identity (identity : Identity)

def Fetched.snapshot : Fetched → Snapshot
  | .state accepted => accepted
  | .identity _ => .empty

def Fetched.identity? : Fetched → Option Identity
  | .identity accepted => some accepted
  | .state _ => none

inductive Answer where
  | done
  | value (value : Value)
  | identity (identity : Option Identity)

abbrev Reply := Except Error Value

abbrev Move := Flight.Move Resource Stage Answer

abbrev State := Flight.State Client Resource Stage Reply Fetched Answer

abbrev Action := Flight.Action Stage Reply

def new (host : String) (now : Double) (lifetimes : Lifetimes) (linked : Bool) : Client :=
  ⟨host, now, .empty lifetimes linked, [], 0⟩

def log (event : Log.Event) (client : Client) : Client :=
  { client with events := client.events ++ [event] }

/-- Sweeps the identities and logs that, if there was anything to sweep. -/
def sweep (now : Double) (keep : Option String) (client : Client) : Client :=
  let count := client.cache.staleCount now keep
  let swept := { client with cache := client.cache.sweep now keep }
  if count = 0 then swept else swept.log (.evicted count)

def close (client : Client) : Client :=
  { client with closings := client.closings + 1 }

end Client

end FeatureFlags
