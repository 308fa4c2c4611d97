import FeatureFlags.Client.Service
import FeatureFlags.Proofs.Cache
import FeatureFlags.Proofs.Flight.Next

/-!
# What calls and fetches do to a client

The turn of a call leaves the caches as they are or sweeps them once, at the time of the clock, and
a call that goes to wait for a resource finds no fresh record of it (`proceed_turned`).  Only a
fetch whose reply is accepted brings a record, of its own resource and stamped with the time of the
clock (`accept_ok`).
-/

set_option autoImplicit false

namespace FeatureFlags.Client

/-- The caches stay as they are, or they are swept at the time of the clock. -/
structure Tidied (client after : Client) : Prop where
  now : after.now = client.now
  cache : after.cache = client.cache ∨ ∃ keep, after.cache = client.cache.sweep client.now keep

structure Turned (client : Client) (next : Client × Move) : Prop where
  tidied : Tidied client next.1
  awaits : ∀ resource stage, next.2 = .await resource stage →
    next.1.cache.holds next.1.now resource = false
  starts : ∀ resource call, next.2 ≠ .await resource (.start call)

theorem Tidied.refl (client : Client) : Tidied client client :=
  ⟨rfl, .inl rfl⟩

theorem Turned.finish {client after : Client} (tidied : Tidied client after)
    (result : Except Error Answer) : Turned client (after, .finish result) := by
  refine ⟨tidied, fun resource stage move => ?_, nofun⟩
  cases move

theorem Turned.await {client after : Client} (tidied : Tidied client after) {resource : Resource}
    (stale : after.cache.holds after.now resource = false) {stage : Stage}
    (begun : ∀ call, stage ≠ .start call) : Turned client (after, .await resource stage) := by
  refine ⟨tidied, fun other next move => ?_, fun other call move => ?_⟩
  · cases move
    exact stale
  · cases move
    exact begun call rfl

/-! ## Turns of calls -/

@[simp]
theorem log_now (event : Log.Event) (client : Client) : (client.log event).now = client.now := rfl

@[simp]
theorem sweep_now (now : Double) (keep : Option String) (client : Client) :
    (client.sweep now keep).now = client.now := by
  unfold Client.sweep
  dsimp only
  split <;> rfl

@[simp]
theorem sweep_cache (now : Double) (keep : Option String) (client : Client) :
    (client.sweep now keep).cache = client.cache.sweep now keep := by
  unfold Client.sweep
  dsimp only
  split <;> rfl

theorem Tidied.keeps {client after : Client} (tidied : Tidied client after) :
    after.cache.lifetimes = client.cache.lifetimes ∧ after.cache.snapshot = client.cache.snapshot ∧
      (client.cache.Tidy → after.cache.Tidy) := by
  rcases tidied.cache with same | ⟨keep, swept⟩
  · rw [same]
    exact ⟨rfl, rfl, id⟩
  · rw [swept]
    exact ⟨rfl, rfl, fun tidy => tidy.sweep _ _⟩

theorem Tidied.linked {client after : Client} (tidied : Tidied client after) :
    after.cache.linked = client.cache.linked := by
  rcases tidied.cache with same | ⟨keep, swept⟩
  · rw [same]
  · rw [swept]
    rfl

theorem Tidied.log {client middle : Client} (tidied : Tidied client middle) (event : Log.Event) :
    Tidied client (middle.log event) :=
  ⟨tidied.now, tidied.cache⟩

theorem Tidied.close {client middle : Client} (tidied : Tidied client middle) :
    Tidied client middle.close :=
  ⟨tidied.now, tidied.cache⟩

theorem conclude_turned {client middle : Client} (tidied : Tidied client middle) (query : Query)
    (closes : Bool) (result : Except Error (Value × Tier)) :
    Turned client (middle.conclude query closes result) := by
  unfold conclude
  cases result with
  | ok found =>
      have logged : Tidied client (middle.log (.evaluated query.key query.identifier found.2)) :=
        tidied.log _
      cases closes with
      | false => exact .finish logged _
      | true => exact .finish logged.close _
  | error error =>
      cases closes with
      | false => exact .finish tidied _
      | true => exact .finish tidied.close _

theorem afterIdentity_turned {client middle : Client} (tidied : Tidied client middle)
    (query : Query) (identity : Option Identity) (closes : Bool) :
    Turned client (middle.afterIdentity query identity closes) := by
  unfold afterIdentity
  dsimp only
  split
  · exact conclude_turned tidied query closes _
  · split
    · exact conclude_turned tidied query closes _
    next stale => exact .await tidied ((Cache.freshSnapshot?_eq_none_iff _ _).mp stale) nofun

theorem resolve_tidied (identifier : Option String) (client : Client) :
    Tidied client (client.resolve identifier).1 := by
  unfold resolve
  split
  · exact .refl client
  next name named =>
      dsimp only
      split <;> exact ⟨sweep_now .., .inr ⟨some name, sweep_cache ..⟩⟩

theorem resolve_missing {identifier : Option String} {name : String} {client after : Client}
    (missing : client.resolve identifier = (after, .missing name)) :
    named? identifier = some name ∧ after.cache.holds after.now (.identity name) = false := by
  unfold resolve at missing
  split at missing
  · cases missing
  next name named =>
      dsimp only at missing
      split at missing
      · cases missing
      next stale =>
          cases missing
          exact ⟨named, (Cache.freshIdentity?_eq_none_iff _ _ _).mp stale⟩

theorem evaluate_turned (query : Query) (closes : Bool) (client : Client) :
    Turned client (client.evaluate query closes) := by
  have tidied := client.resolve_tidied query.identifier
  unfold evaluate
  split
  · split
    next swept identity resolved =>
        rw [resolved] at tidied
        exact afterIdentity_turned tidied query identity closes
    next swept name resolved =>
        rw [resolved] at tidied
        exact .await tidied (resolve_missing resolved).2 nofun
  · exact conclude_turned (.refl client) query closes _

theorem identify_turned (identifier : Option String) (client : Client) :
    Turned client (client.identify identifier) := by
  have tidied := client.resolve_tidied identifier
  unfold identify
  split
  next swept identity resolved =>
      rw [resolved] at tidied
      exact .finish tidied _
  next swept name resolved =>
      rw [resolved] at tidied
      exact .await tidied (resolve_missing resolved).2 nofun

theorem afterRefresh_turned (purpose : Purpose) (client : Client) :
    Turned client (client.afterRefresh purpose) := by
  cases purpose with
  | refresh => exact .finish (.refl client) _
  | setUp => exact .finish ((Tidied.refl client).log _) _
  | visit query =>
      have turned := (client.log (.initialized client.host)).evaluate_turned query true
      exact ⟨⟨turned.tidied.now, turned.tidied.cache⟩, turned.awaits, turned.starts⟩

theorem refresh_turned (purpose : Purpose) (client : Client) :
    Turned client (client.refresh purpose) := by
  unfold refresh
  split
  · exact client.afterRefresh_turned purpose
  next stale => exact .await (.refl client) ((Cache.freshSnapshot?_eq_none_iff _ _).mp stale) nofun

theorem enter_turned (stage : Stage) (client : Client) : Turned client (client.enter stage) := by
  unfold enter
  split
  · exact client.refresh_turned _
  · exact client.identify_turned _
  · exact client.evaluate_turned _ _
  · exact .finish (.refl client) _

theorem resume_turned (stage : Stage) (result : Except Error Fetched) (client : Client) :
    Turned client (client.resume stage result) := by
  unfold resume
  split
  · exact .finish (.refl client) _
  · exact .finish (.refl client) _
  · exact client.afterRefresh_turned _
  · exact .finish (.refl client) _
  · exact conclude_turned (.refl client) _ _ _
  · exact conclude_turned (.refl client) _ _ _
  · exact afterIdentity_turned (.refl client) _ _ _
  · exact conclude_turned (.refl client) _ _ _
  · exact .finish (.refl client) _

abbrev Phase := Flight.CallerPhase Stage Fetched Answer

theorem proceed_turned {phase : Phase} {client : Client} {next : Client × Move}
    (moves : phase.proceed? service client = some next) : Turned client next := by
  cases phase with
  | ready stage =>
      cases moves
      exact client.enter_turned stage
  | woken stage fetch ending =>
      cases ending with
      | ok record =>
          cases moves
          exact client.resume_turned stage _
      | failed error =>
          cases moves
          exact client.resume_turned stage _
      | cancelled => cases moves
  | waiting stage fetch => cases moves
  | leaving reached => cases moves
  | finished ending => cases moves

theorem leave_keeps {phase : Phase} {client after : Client}
    (leaves : phase.leave? service client = some after) :
    after.now = client.now ∧ after.cache = client.cache := by
  have kept : ∀ stage, (client.leave stage).now = client.now ∧
      (client.leave stage).cache = client.cache := by
    intro stage
    unfold leave
    split <;> exact ⟨rfl, rfl⟩
  cases phase with
  | woken stage fetch ending =>
      cases ending with
      | cancelled =>
          cases leaves
          exact kept stage
      | ok record => cases leaves
      | failed error => cases leaves
  | leaving reached =>
      cases reached with
      | none =>
          cases leaves
          exact ⟨rfl, rfl⟩
      | some stage =>
          cases leaves
          exact kept stage
  | ready stage => cases leaves
  | waiting stage fetch => cases leaves
  | finished ending => cases leaves

/-! ## Accepted replies -/

def Fetched.decode (resource : Resource) (data : Value) (now : Double) : Except Error Fetched :=
  match resource with
  | .state => (Snapshot.decode data now).map .state
  | .identity identifier => (Identity.decode identifier data now).map .identity

def Fetched.fetchedAt? : Fetched → Option Double
  | .state accepted => accepted.refreshedAt
  | .identity accepted => some accepted.fetchedAt

def Fetched.keep (record : Fetched) (cache : Cache) : Cache :=
  match record with
  | .state accepted => cache.withSnapshot accepted
  | .identity accepted => cache.withIdentity accepted

theorem refreshedAt_of_decode {data : Value} {now : Double} {snapshot : Snapshot}
    (decoded : Snapshot.decode data now = .ok snapshot) : snapshot.refreshedAt = some now := by
  unfold Snapshot.decode at decoded
  split at decoded
  · cases decoded
    rfl
  · cases decoded

theorem identity_of_decode {identifier : String} {data : Value} {now : Double} {identity : Identity}
    (decoded : Identity.decode identifier data now = .ok identity) :
    identity.identifier = identifier ∧ identity.fetchedAt = now := by
  unfold Identity.decode at decoded
  split at decoded
  · cases decoded
  · cases decoded
    exact ⟨rfl, rfl⟩
  · cases decoded

/-- A record is one of its resource, stamped with the time at which it was decoded. -/
theorem decode_eq_ok {resource : Resource} {data : Value} {now : Double} {record : Fetched}
    (decoded : Fetched.decode resource data now = .ok record) :
    (resource = .state ∧ ∃ snapshot, record = .state snapshot ∧
      Snapshot.decode data now = .ok snapshot) ∨
    ∃ identifier identity, resource = .identity identifier ∧ record = .identity identity ∧
      Identity.decode identifier data now = .ok identity := by
  cases resource with
  | state =>
      cases result : Snapshot.decode data now with
      | error error => simp [Fetched.decode, result, Except.map] at decoded
      | ok snapshot =>
          simp only [Fetched.decode, result, Except.map, Except.ok.injEq] at decoded
          exact .inl ⟨rfl, snapshot, decoded.symm, rfl⟩
  | identity identifier =>
      cases result : Identity.decode identifier data now with
      | error error => simp [Fetched.decode, result, Except.map] at decoded
      | ok identity =>
          simp only [Fetched.decode, result, Except.map, Except.ok.injEq] at decoded
          exact .inr ⟨identifier, identity, rfl, decoded.symm, result⟩

theorem fetchedAt?_of_decode {resource : Resource} {data : Value} {now : Double} {record : Fetched}
    (decoded : Fetched.decode resource data now = .ok record) : record.fetchedAt? = some now := by
  rcases decode_eq_ok decoded with
    ⟨-, snapshot, rfl, made⟩ | ⟨identifier, identity, -, rfl, made⟩
  · exact refreshedAt_of_decode made
  · exact congrArg some (identity_of_decode made).2

/-- Taking a record in renews its own resource and nothing else. -/
theorem heldSince?_keep {resource : Resource} {data : Value} {now : Double} {record : Fetched}
    (decoded : Fetched.decode resource data now = .ok record) (cache : Cache) (other : Resource) :
    (record.keep cache).heldSince? other =
      if other = resource then some now else cache.heldSince? other := by
  rcases decode_eq_ok decoded with
    ⟨rfl, snapshot, rfl, made⟩ | ⟨identifier, identity, rfl, rfl, made⟩
  · rw [Fetched.keep, Cache.heldSince?_withSnapshot, refreshedAt_of_decode made]
  · obtain ⟨sameIdentifier, sameTime⟩ := identity_of_decode made
    rw [Fetched.keep, Cache.heldSince?_withIdentity, sameIdentifier, sameTime]

theorem keep_lifetimes (record : Fetched) (cache : Cache) :
    (record.keep cache).lifetimes = cache.lifetimes := by
  cases record <;> rfl

theorem keep_linked (record : Fetched) (cache : Cache) :
    (record.keep cache).linked = cache.linked := by
  cases record <;> rfl

theorem keep_tidy {record : Fetched} {cache : Cache} (tidy : cache.Tidy) :
    (record.keep cache).Tidy := by
  cases record with
  | state snapshot => exact tidy
  | identity identity => exact tidy.withIdentity identity

/-- The data of an accepted reply, and what becomes of the caches: they take the record in, and a
new state sweeps the identities if it is linked to them. -/
theorem response_of_accept {resource : Resource} {reply : Reply} {client after : Client}
    {record : Fetched} (accepted : client.accept resource reply = (after, .ok record)) :
    ∃ data, reply = .ok data ∧ Fetched.decode resource data client.now = .ok record ∧
      after.now = client.now ∧
      after.cache =
        if resource = .state ∧ client.cache.linked = true then
          (record.keep client.cache).sweep client.now none
        else record.keep client.cache := by
  cases reply with
  | error error => cases resource <;> cases accepted
  | ok data =>
      refine ⟨data, rfl, ?_⟩
      cases resource with
      | state =>
          cases result : Snapshot.decode data client.now with
          | error error => simp [accept, acceptState, bind, Except.bind, result] at accepted
          | ok snapshot =>
              simp only [accept, acceptState, bind, Except.bind, result, Prod.mk.injEq,
                Except.ok.injEq] at accepted
              obtain ⟨rfl, rfl⟩ := accepted
              refine ⟨by simp [Fetched.decode, result, Except.map], ?_, ?_⟩
              · split <;> simp
              · cases client.cache.linked <;> simp [Client.log, Fetched.keep]
      | identity identifier =>
          cases result : Identity.decode identifier data client.now with
          | error error => simp [accept, acceptIdentity, bind, Except.bind, result] at accepted
          | ok identity =>
              simp only [accept, acceptIdentity, bind, Except.bind, result, Prod.mk.injEq,
                Except.ok.injEq] at accepted
              obtain ⟨rfl, rfl⟩ := accepted
              refine ⟨by simp [Fetched.decode, result, Except.map], rfl, ?_⟩
              rw [if_neg (by simp)]
              rfl

theorem accept_ok {resource : Resource} {reply : Reply} {client after : Client} {record : Fetched}
    (accepted : client.accept resource reply = (after, .ok record)) :
    ∃ data, reply = .ok data ∧ Fetched.decode resource data client.now = .ok record ∧
      Tidied { client with cache := record.keep client.cache } after := by
  obtain ⟨data, brought, decoded, now, cache⟩ := response_of_accept accepted
  refine ⟨data, brought, decoded, now, ?_⟩
  split at cache
  · exact .inr ⟨none, cache⟩
  · exact .inl cache

theorem accept_error {resource : Resource} {reply : Reply} {client after : Client} {error : Error}
    (refused : client.accept resource reply = (after, .error error)) :
    after.now = client.now ∧ after.cache = client.cache := by
  cases resource with
  | state =>
      unfold accept acceptState at refused
      dsimp only at refused
      split at refused
      · cases refused
        exact ⟨rfl, rfl⟩
      · cases refused
  | identity identifier =>
      unfold accept acceptIdentity at refused
      dsimp only at refused
      split at refused
      · cases refused
        exact ⟨rfl, rfl⟩
      · cases refused

/-- A fetch fails with the error of its reply, or with the fault of the data that it brought. -/
theorem error_of_accept {resource : Resource} {reply : Reply} {client after : Client}
    {error : Error} (refused : client.accept resource reply = (after, .error error)) :
    reply = .error error ∨
      ∃ data, reply = .ok data ∧ Fetched.decode resource data client.now = .error error := by
  cases reply with
  | error cause =>
      refine .inl (congrArg Except.error ?_)
      cases resource <;> exact Except.error.inj (congrArg Prod.snd refused)
  | ok data =>
      refine .inr ⟨data, rfl, ?_⟩
      cases resource with
      | state =>
          cases result : Snapshot.decode data client.now with
          | error cause =>
              simp only [accept, acceptState, bind, Except.bind, result, Prod.mk.injEq,
                Except.error.injEq] at refused
              simp [Fetched.decode, result, Except.map, refused.2]
          | ok snapshot => simp [accept, acceptState, bind, Except.bind, result] at refused
      | identity identifier =>
          cases result : Identity.decode identifier data client.now with
          | error cause =>
              simp only [accept, acceptIdentity, bind, Except.bind, result, Prod.mk.injEq,
                Except.error.injEq] at refused
              simp [Fetched.decode, result, Except.map, refused.2]
          | ok identity => simp [accept, acceptIdentity, bind, Except.bind, result] at refused

end FeatureFlags.Client
