import FeatureFlags.Client.Basic

/-!
# What the calls of a client do

An evaluation first looks for its key in the snapshot at hand, however old.  Then it settles the
identity, then the overrides of the call and of the identity, and only if these leave the value open
it makes sure of a fresh state.  A fetch changes the caches only when its reply is accepted.
-/

set_option autoImplicit false

namespace FeatureFlags.Client

def conclude (query : Query) (closes : Bool) (result : Except Error (Value × Tier))
    (client : Client) : Client × Move :=
  let logged :=
    match result with
    | .ok (_, tier) => client.log (.evaluated query.key query.identifier tier)
    | .error _ => client
  (if closes then logged.close else logged, .finish (result.map fun found => .value found.1))

def afterIdentity (query : Query) (identity : Option Identity) (closes : Bool) (client : Client) :
    Client × Move :=
  let scope : Scope := ⟨query.overrides, identity⟩
  match scope.find? (.string query.key) with
  | some found => client.conclude query closes (.ok found)
  | none =>
      match client.cache.freshSnapshot? client.now with
      | some snapshot => client.conclude query closes (snapshot.evaluate query.key scope)
      | none => (client, .await .state (.deciding query identity closes))

/-- The identifier of a call, unless it is empty. -/
def named? (identifier : Option String) : Option String :=
  identifier.filter (!·.isEmpty)

inductive Resolution where
  | known (identity : Option Identity)
  | missing (identifier : String)

/-- Looks an identifier up among the fresh identities, after a sweep that spares it. -/
def resolve (identifier : Option String) (client : Client) : Client × Resolution :=
  match named? identifier with
  | none => (client, .known none)
  | some identifier =>
      let swept := client.sweep client.now (some identifier)
      match swept.cache.freshIdentity? swept.now identifier with
      | some identity => (swept, .known (some identity))
      | none => (swept, .missing identifier)

def evaluate (query : Query) (closes : Bool) (client : Client) : Client × Move :=
  if Entries.contains (.string query.key) client.cache.snapshot.flags then
    match client.resolve query.identifier with
    | (swept, .known identity) => swept.afterIdentity query identity closes
    | (swept, .missing identifier) =>
        (swept, .await (.identity identifier) (.matching query closes))
  else client.conclude query closes (.error (.flagNotFound (.string query.key)))

def identify (identifier : Option String) (client : Client) : Client × Move :=
  match client.resolve identifier with
  | (swept, .known identity) => (swept, .finish (.ok (.identity identity)))
  | (swept, .missing identifier) => (swept, .await (.identity identifier) .identifying)

def afterRefresh (purpose : Purpose) (client : Client) : Client × Move :=
  match purpose with
  | .refresh => (client, .finish (.ok .done))
  | .setUp => (client.log (.initialized client.host), .finish (.ok .done))
  | .visit query => (client.log (.initialized client.host)).evaluate query true

def refresh (purpose : Purpose) (client : Client) : Client × Move :=
  match client.cache.freshSnapshot? client.now with
  | some _ => client.afterRefresh purpose
  | none => (client, .await .state (.refreshing purpose))

def enter (stage : Stage) (client : Client) : Client × Move :=
  match stage with
  | .start (.refresh purpose) => client.refresh purpose
  | .start (.identify identifier) => client.identify identifier
  | .start (.evaluate query) => client.evaluate query false
  | _ => (client, .finish (.ok .done))

def resume (stage : Stage) (result : Except Error Fetched) (client : Client) : Client × Move :=
  match stage, result with
  | .refreshing _, .error error | .identifying, .error error => (client, .finish (.error error))
  | .refreshing purpose, .ok _ => client.afterRefresh purpose
  | .identifying, .ok fetched => (client, .finish (.ok (.identity fetched.identity?)))
  | .matching query closes, .error error | .deciding query _ closes, .error error =>
      client.conclude query closes (.error error)
  | .matching query closes, .ok fetched => client.afterIdentity query fetched.identity? closes
  | .deciding query identity closes, .ok fetched =>
      client.conclude query closes
        (fetched.snapshot.evaluate query.key ⟨query.overrides, identity⟩)
  | .start _, _ => (client, .finish (.ok .done))

/-- A cancelled call still closes what it was to close. -/
def leave (stage : Stage) (client : Client) : Client :=
  match stage with
  | .matching _ true | .deciding _ _ true => client.close
  | _ => client

def acceptState (reply : Reply) (client : Client) : Client × Except Error Fetched :=
  match reply >>= fun data => Snapshot.decode data client.now with
  | .error error => (client.log (.stateFailed error.text), .error error)
  | .ok snapshot =>
      let kept := { client with cache := client.cache.withSnapshot snapshot }
      let logged := kept.log (.stateRefreshed snapshot.flags.length snapshot.overrides.length)
      (if client.cache.linked then logged.sweep client.now none else logged, .ok (.state snapshot))

def acceptIdentity (identifier : String) (reply : Reply) (client : Client) :
    Client × Except Error Fetched :=
  match reply >>= fun data => Identity.decode identifier data client.now with
  | .error error => (client.log (.identityFailed identifier error.text), .error error)
  | .ok identity =>
      let kept := { client with cache := client.cache.withIdentity identity }
      (kept.log (.identityFetched identifier identity.overrides.length),
        .ok (.identity identity))

def accept (resource : Resource) (reply : Reply) (client : Client) :
    Client × Except Error Fetched :=
  match resource with
  | .state => client.acceptState reply
  | .identity identifier => client.acceptIdentity identifier reply

def service : Flight.Service Client Resource Stage Reply Fetched Answer :=
  ⟨enter, resume, leave, accept⟩

end FeatureFlags.Client
