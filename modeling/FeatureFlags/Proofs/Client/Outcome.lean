import FeatureFlags.Proofs.Client.Stages
import FeatureFlags.Proofs.Precedence

/-!
# What an evaluation of fresh records comes to

With the state and the identity at hand an evaluation ends in its first turn.  It gives a value, or
it fails because there is no such flag or because of a rule that it reaches: an id that no flag has
is an error of the library, but a list or an object in the place of an id is only found out there,
and the error is none of the library's (`evaluate_of_decoded`).
-/

set_option autoImplicit false

namespace FeatureFlags

/-- What an evaluation of a key comes to on one snapshot: a key that is not listed is refused, and
else the five tiers decide. -/
def Snapshot.outcome (snapshot : Snapshot) (key : String) (scope : Scope) :
    Except Error (Value × Tier) :=
  if Entries.contains (.string key) snapshot.flags then FeatureFlags.resolve snapshot key scope
  else .error (.flagNotFound (.string key))

namespace Snapshot

variable {snapshot : Snapshot} {key : String} {scope : Scope}

end Snapshot

namespace Client

theorem afterIdentity_of_fresh {client : Client} {snapshot : Snapshot}
    (fresh : client.cache.freshSnapshot? client.now = some snapshot) (query : Query)
    (identity : Option Identity) (closes : Bool) :
    client.afterIdentity query identity closes = client.conclude query closes
      (FeatureFlags.resolve snapshot query.key ⟨query.overrides, identity⟩) := by
  unfold afterIdentity FeatureFlags.resolve
  dsimp only
  cases Scope.find? ⟨query.overrides, identity⟩ (.string query.key) with
  | some found => rfl
  | none =>
      dsimp only
      rw [fresh]

/-- With fresh records an evaluation is concluded in its first turn, at once or after a sweep. -/
theorem evaluate_of_fresh {client : Client} {query : Query} {identity : Option Identity}
    {snapshot : Snapshot} (fresh : client.cache.freshSnapshot? client.now = some snapshot)
    (known : Known client query.identifier identity) (closes : Bool) :
    ∃ begun, (begun = client ∨ begun = (client.resolve query.identifier).1) ∧
      client.evaluate query closes = begun.conclude query closes
        (snapshot.outcome query.key ⟨query.overrides, identity⟩) := by
  have held := Cache.snapshot_of_fresh fresh
  unfold Snapshot.outcome
  cases listed : Entries.contains (.string query.key) snapshot.flags with
  | false =>
      refine ⟨client, .inl rfl, ?_⟩
      rw [if_neg Bool.false_ne_true]
      exact evaluate_unlisted (held ▸ listed) closes
  | true =>
      have swept := (client.resolve_tidied query.identifier).freshSnapshot?.trans fresh
      refine ⟨_, .inr rfl, ?_⟩
      rw [evaluate_known (held ▸ listed) known, afterIdentity_of_fresh swept]
      rfl

theorem evaluate_fresh {client : Client} {query : Query} {identity : Option Identity}
    {snapshot : Snapshot} (fresh : client.cache.freshSnapshot? client.now = some snapshot)
    (known : Known client query.identifier identity) (closes : Bool) :
    (client.evaluate query closes).2 =
      .finish (answer (snapshot.outcome query.key ⟨query.overrides, identity⟩)) := by
  obtain ⟨begun, _, concluded⟩ := evaluate_of_fresh fresh known closes
  rw [concluded, conclude_move]

def justFetched (snapshot : Snapshot) : Client :=
  { Client.new "flags.test" (.ofInt 0) .usual true with
    cache := (Cache.empty .usual true).withSnapshot snapshot }

end Client

end FeatureFlags
