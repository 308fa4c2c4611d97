import FeatureFlags.Proofs.Client.Outcome

/-!
# Records at hand

Fresh records outlast everything that only sweeps.  With all its records at hand an evaluation ends
in its first turn and leaves the caches alone (`Begins.cache`), and it gives the value that they
decide, unless its key is not listed (`Begins.yields`).
-/

set_option autoImplicit false

namespace FeatureFlags.Client

/-! ## Records that stay -/

/-- The sweep of a look-up of the identifier drops nothing. -/
def Spared (client : Client) (identifier : Option String) : Prop :=
  ∀ name, named? identifier = some name →
    client.cache.sweep client.now (some name) = client.cache

/-- With the records at hand an evaluation of the query gives a value. -/
inductive Yields (client : Client) (query : Query) (value : Value) : Prop where
  | overridden (identity : Option Identity) (tier : Tier)
      (known : Known client query.identifier identity)
      (listed : Entries.contains (.string query.key) client.cache.snapshot.flags = true)
      (override : Scope.find? ⟨query.overrides, identity⟩ (.string query.key) = some (value, tier))
  | decided (identity : Option Identity) (snapshot : Snapshot) (tier : Tier)
      (known : Known client query.identifier identity)
      (openEnded : Scope.find? ⟨query.overrides, identity⟩ (.string query.key) = none)
      (fresh : client.cache.freshSnapshot? client.now = some snapshot)
      (decides : snapshot.evaluate query.key ⟨query.overrides, identity⟩ = .ok (value, tier))

theorem Tidied.freshIdentity? {client after : Client} (tidied : Tidied client after)
    (tidy : client.cache.Tidy) {name : String} {identity : Identity}
    (fresh : client.cache.freshIdentity? client.now name = some identity) :
    after.cache.freshIdentity? after.now name = some identity := by
  rw [tidied.now]
  rcases tidied.cache with same | ⟨keep, swept⟩
  · rw [same]
    exact fresh
  · obtain ⟨cached, young⟩ := Option.filter_eq_some_iff.mp fresh
    have kept : client.cache.isStale client.now keep (name, identity) = false := by
      cases expired : isExpired client.now identity.fetchedAt client.cache.lifetimes.identity with
      | false => simp [Cache.isStale, expired]
      | true =>
          have stale := not_isFresh_of_isExpired expired
          unfold Cache.isIdentityFresh at young
          rw [stale] at young
          cases young
    have still : (client.cache.sweep client.now keep).identity? name = some identity := by
      rw [tidy.identity?_sweep, cached]
      simp [Option.filter, kept]
    rw [swept]
    exact Option.filter_eq_some_iff.mpr ⟨still, young⟩

theorem Tidied.fresh? {client after : Client} (tidied : Tidied client after)
    (tidy : client.cache.Tidy) {resource : Resource} {record : Fetched}
    (fresh : client.fresh? resource = some record) : after.fresh? resource = some record := by
  cases resource with
  | state =>
      obtain ⟨snapshot, held, rfl⟩ := Option.map_eq_some_iff.mp fresh
      exact congrArg (Option.map Fetched.state) (tidied.freshSnapshot?.trans held)
  | identity name =>
      obtain ⟨identity, held, rfl⟩ := Option.map_eq_some_iff.mp fresh
      exact congrArg (Option.map Fetched.identity) (tidied.freshIdentity? tidy held)

theorem Tidied.known {client after : Client} (tidied : Tidied client after)
    (tidy : client.cache.Tidy) {identifier : Option String} {identity : Option Identity}
    (known : Known client identifier identity) : Known after identifier identity := by
  cases known with
  | unnamed absent => exact .unnamed absent
  | fresh name identity named fresh =>
      exact .fresh name identity named (tidied.freshIdentity? tidy fresh)

theorem Tidied.spared {client after : Client} (tidied : Tidied client after)
    {identifier : Option String} (spared : Spared client identifier) :
    Spared after identifier := by
  intro name named
  rw [tidied.now]
  rcases tidied.cache with same | ⟨keep, swept⟩
  · rw [same]
    exact spared name named
  · rw [swept, Cache.sweep_comm, spared name named]

theorem Tidied.yields {client after : Client} (tidied : Tidied client after)
    (tidy : client.cache.Tidy) {query : Query} {value : Value}
    (yields : Yields client query value) : Yields after query value := by
  cases yields with
  | overridden identity tier known listed override =>
      refine .overridden identity tier (tidied.known tidy known) ?_ override
      rw [tidied.keeps.2.1]
      exact listed
  | decided identity snapshot tier known openEnded fresh decides =>
      exact .decided identity snapshot tier (tidied.known tidy known) openEnded
        (tidied.freshSnapshot?.trans fresh) decides

theorem Spared.sweep {client : Client} {name : String} (identifier : Option String)
    (named : named? identifier = some name) :
    Spared (client.sweep client.now (some name)) identifier := by
  intro other otherNamed
  cases named.symm.trans otherNamed
  rw [sweep_now, sweep_cache]
  exact Cache.sweep_sweep ..

/-! ## Evaluating with what is at hand -/

theorem Begins.cache {client after : Client} {query : Query} {phase : Phase} {closes : Bool}
    {move : Move} (begins : Begins client query phase closes)
    (moves : phase.proceed? service client = some (after, move))
    (spared : Spared client query.identifier) : after.cache = client.cache := by
  obtain ⟨begun, now, cache, turn⟩ := begins.evaluates
  rw [moves] at turn
  have same : (begun.evaluate query closes).1.cache = begun.cache := by
    cases named : named? query.identifier with
    | none => exact evaluate_cache_of_unnamed (fun _ => named) closes
    | some name =>
        cases listed : Entries.contains (.string query.key) begun.cache.snapshot.flags with
        | false => rw [evaluate_unlisted listed, conclude_cache]
        | true =>
            rw [evaluate_cache_of_named listed named, now, cache]
            exact spared name named
  rw [← Option.some.inj turn, cache] at same
  exact same

theorem afterIdentity_overridden {query : Query} {identity : Option Identity}
    {found : Value × Tier}
    (override : Scope.find? ⟨query.overrides, identity⟩ (.string query.key) = some found)
    (closes : Bool) (client : Client) :
    (client.afterIdentity query identity closes).2 = .finish (answer (.ok found)) := by
  unfold afterIdentity
  dsimp only
  rw [override]
  exact conclude_move ..

/-- An evaluation with all its records at hand gives its value, unless the state at hand has no flag
of its key. -/
theorem Begins.yields {client after : Client} {query : Query} {phase : Phase} {closes : Bool}
    {move : Move} (begins : Begins client query phase closes)
    (moves : phase.proceed? service client = some (after, move)) {value : Value}
    (yields : Yields client query value) :
    (Entries.contains (.string query.key) client.cache.snapshot.flags = true ∧
      move = .finish (.ok (.value value))) ∨
    (Entries.contains (.string query.key) client.cache.snapshot.flags = false ∧
      client.cache.snapshot.override? (.string query.key) = some value ∧
        move = .finish (.error (.flagNotFound (.string query.key)))) := by
  obtain ⟨begun, now, cache, turn⟩ := begins.evaluates
  have moved : (begun.evaluate query closes).2 = move :=
    congrArg Prod.snd (Option.some.inj (turn.symm.trans moves))
  cases yields with
  | overridden identity tier known listed override =>
      refine .inl ⟨listed, ?_⟩
      have sameKnown : Known begun query.identifier identity :=
        known.of_same now fun name named => by rw [cache]
      rw [evaluate_known (cache ▸ listed) sameKnown, afterIdentity_overridden override] at moved
      exact moved.symm
  | decided identity snapshot tier known openEnded fresh decides =>
      have sameKnown : Known begun query.identifier identity :=
        known.of_same now fun name named => by rw [cache]
      have held := Cache.snapshot_of_fresh fresh
      have sameFresh : begun.cache.freshSnapshot? begun.now = some snapshot := by
        rw [cache, now]
        exact fresh
      rw [evaluate_fresh sameFresh sameKnown] at moved
      rw [held]
      cases listed : Entries.contains (.string query.key) snapshot.flags with
      | true =>
          have outcome : snapshot.outcome query.key ⟨query.overrides, identity⟩ =
              .ok (value, tier) := by
            unfold Snapshot.outcome FeatureFlags.resolve
            rw [if_pos listed, openEnded]
            exact decides
          rw [outcome] at moved
          exact .inl ⟨rfl, moved.symm⟩
      | false =>
          have outcome : snapshot.outcome query.key ⟨query.overrides, identity⟩ =
              .error (.flagNotFound (.string query.key)) :=
            if_neg (Bool.eq_false_iff.mp listed)
          rw [outcome] at moved
          refine .inr ⟨rfl, ?_, moved.symm⟩
          cases override : snapshot.override? (.string query.key) with
          | some given =>
              rw [Snapshot.evaluate, override] at decides
              cases decides
              rfl
          | none =>
              have absent : snapshot.flags.lookup (.string query.key) = none :=
                Option.isNone_iff_eq_none.mp (by simpa [Entries.contains] using listed)
              rw [Snapshot.evaluate_unlisted override absent] at decides
              cases decides

end FeatureFlags.Client
