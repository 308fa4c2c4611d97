import FeatureFlags.Proofs.Client.Fetching
import FeatureFlags.Proofs.Client.Stages

/-!
# The caches hold the latest accepted responses

What is cached of a resource is what its last accepted response amounts to, stamped with the time at
which that was accepted; nothing else ever gets into the caches.  Since no two fetches of a resource
are under way at once, what is accepted later was also asked for later, and so no older response
takes the place of a newer one (`HoldsLatest`).
-/

set_option autoImplicit false

namespace FeatureFlags.Client.Run

variable (run : Run)

/-- A fetch of a resource is accepted at a moment, of a response with this data, and until another
moment no further one is. -/
structure LastAccepted (moment : Nat) (resource : Resource) (record : Fetched)
    (accepted fetch : Nat) (data : Value) : Prop where
  before : accepted < moment
  accepts : Flight.Accepts service (run.state accepted) (run.state (accepted + 1)) resource fetch
    (.ok data) record
  decoded : Fetched.decode resource data (run.clock accepted) = .ok record
  last : ∀ later, accepted < later → later < moment → ∀ other newer,
    ¬ run.Accepted later resource other newer

structure HoldsLatest : Prop where
  /-- The snapshot is the first, empty one, or that of the last accepted state response. -/
  snapshot : ∀ moment,
    ((run.client moment).cache.snapshot = .empty ∧
      ∀ earlier < moment, ∀ fetch record, ¬ run.Accepted earlier .state fetch record) ∨
    ∃ accepted fetch data,
      run.LastAccepted moment .state (.state (run.client moment).cache.snapshot) accepted fetch
        data ∧
      Snapshot.decode data (run.clock accepted) = .ok (run.client moment).cache.snapshot
  /-- An identity is that of the last accepted response for the identifier that it is cached
  under. -/
  identity : ∀ moment name identity, (name, identity) ∈ (run.client moment).cache.identities →
    name ≠ "" ∧ identity.identifier = name ∧
      ∃ accepted fetch data,
        run.LastAccepted moment (.identity name) (.identity identity) accepted fetch data ∧
        Identity.decode name data (run.clock accepted) = .ok identity
  distinct : ∀ moment, ((run.client moment).cache.identities.map Prod.fst).Nodup
  refreshedAt : ∀ earlier later old, earlier ≤ later →
    (run.client earlier).cache.snapshot.refreshedAt = some old →
      ∃ new, (run.client later).cache.snapshot.refreshedAt = some new ∧ old.le new = true
  /-- Whether or not the identifier has been without an entry in between. -/
  fetchedAt : ∀ earlier later name old new, earlier ≤ later →
    (name, old) ∈ (run.client earlier).cache.identities →
      (name, new) ∈ (run.client later).cache.identities →
        old.fetchedAt.le new.fetchedAt = true
  /-- When a response is accepted, the fetch of one that is accepted later has not been opened. -/
  inOrder : ∀ resource first fetch record second other newer, first < second →
    run.Accepted first resource fetch record → run.Accepted second resource other newer →
      (run.state (first + 1)).fetch? other = none

variable {run}

/-! ## The last accepted response -/

theorem lastAccepted_of_accepted {moment fetch : Nat} {resource : Resource} {record : Fetched}
    (accepted : run.Accepted moment resource fetch record) :
    ∃ data, run.LastAccepted (moment + 1) resource record moment fetch data := by
  obtain ⟨data, accepts, decoded, -⟩ := accepted.response
  refine ⟨data, Nat.lt_succ_self moment, accepts, decoded, ?_⟩
  intro later after before
  exact absurd before (Nat.not_lt.mpr after)

theorem LastAccepted.succ {moment accepted fetch : Nat} {resource : Resource} {record : Fetched}
    {data : Value} (latest : run.LastAccepted moment resource record accepted fetch data)
    (pending : ∀ other newer, ¬ run.Accepted moment resource other newer) :
    run.LastAccepted (moment + 1) resource record accepted fetch data := by
  refine ⟨Nat.lt_succ_of_lt latest.before, latest.accepts, latest.decoded, ?_⟩
  intro later after before
  rcases Nat.lt_succ_iff_lt_or_eq.mp before with sooner | rfl
  · exact latest.last later after sooner
  · exact pending

theorem LastAccepted.accepted {moment accepted fetch : Nat} {resource : Resource}
    {record : Fetched} {data : Value}
    (latest : run.LastAccepted moment resource record accepted fetch data) :
    run.Accepted accepted resource fetch record :=
  ⟨.ok data, latest.accepts⟩

theorem LastAccepted.fetchedAt? {moment accepted fetch : Nat} {resource : Resource}
    {record : Fetched} {data : Value}
    (latest : run.LastAccepted moment resource record accepted fetch data) :
    record.fetchedAt? = some (run.clock accepted) :=
  fetchedAt?_of_decode latest.decoded

/-- What is last accepted before a later moment is accepted no earlier. -/
theorem LastAccepted.le {earlier later accepted fetch newest other : Nat} {resource : Resource}
    {record newer : Fetched} {data newData : Value} (order : earlier ≤ later)
    (old : run.LastAccepted earlier resource record accepted fetch data)
    (new : run.LastAccepted later resource newer newest other newData) : accepted ≤ newest := by
  refine Nat.le_of_not_lt fun overtaken => ?_
  exact new.last accepted overtaken (Nat.lt_of_lt_of_le old.before order) fetch record old.accepted

theorem LastAccepted.fetchedAt_le (forward : run.Forward)
    {earlier later accepted fetch newest other : Nat} {resource : Resource}
    {record newer : Fetched} {data newData : Value} {oldest : Double} (order : earlier ≤ later)
    (old : run.LastAccepted earlier resource record accepted fetch data)
    (new : run.LastAccepted later resource newer newest other newData)
    (stamped : record.fetchedAt? = some oldest) :
    ∃ stamp, newer.fetchedAt? = some stamp ∧ oldest.le stamp = true := by
  refine ⟨run.clock newest, new.fetchedAt?, ?_⟩
  rw [Option.some.inj (stamped.symm.trans old.fetchedAt?)]
  exact forward accepted newest (old.le order new)

/-! ## The snapshot -/

theorem snapshot_succ_of_pending {moment : Nat}
    (pending : ∀ fetch record, ¬ run.Accepted moment .state fetch record) :
    (run.client (moment + 1)).cache.snapshot = (run.client moment).cache.snapshot := by
  cases run.change moment with
  | tidied tidied => exact tidied.keeps.2.1
  | clocked now client => rw [client]
  | swept now keep present client =>
      rw [client, sweep_cache]
      rfl
  | accepted resource fetch record accepted =>
      obtain ⟨data, decoded, tidied⟩ := accepted.decoded
      rcases decode_eq_ok decoded with ⟨rfl, -⟩ | ⟨name, identity, rfl, rfl, -⟩
      · exact absurd accepted (pending fetch record)
      · exact tidied.keeps.2.1

theorem snapshot_of_accepted {moment fetch : Nat} {record : Fetched}
    (accepted : run.Accepted moment .state fetch record) :
    record = .state (run.client (moment + 1)).cache.snapshot := by
  obtain ⟨data, decoded, tidied⟩ := accepted.decoded
  rcases decode_eq_ok decoded with ⟨-, snapshot, rfl, -⟩ | ⟨name, identity, other, -⟩
  · rw [tidied.keeps.2.1]
    rfl
  · cases other

theorem snapshot_latest (run : Run) (moment : Nat) :
    ((run.client moment).cache.snapshot = .empty ∧
      ∀ earlier < moment, ∀ fetch record, ¬ run.Accepted earlier .state fetch record) ∨
    ∃ accepted fetch data,
      run.LastAccepted moment .state (.state (run.client moment).cache.snapshot) accepted fetch
        data := by
  induction moment with
  | zero => exact .inl ⟨rfl, fun earlier before => absurd before (Nat.not_lt_zero earlier)⟩
  | succ moment inductionHypothesis =>
      by_cases brought : ∃ fetch record, run.Accepted moment .state fetch record
      · obtain ⟨fetch, record, accepted⟩ := brought
        obtain ⟨data, latest⟩ := lastAccepted_of_accepted accepted
        rw [snapshot_of_accepted accepted] at latest
        exact .inr ⟨moment, fetch, data, latest⟩
      · have pending : ∀ fetch record, ¬ run.Accepted moment .state fetch record :=
          fun fetch record accepted => brought ⟨fetch, record, accepted⟩
        rw [snapshot_succ_of_pending pending]
        rcases inductionHypothesis with ⟨first, never⟩ | ⟨accepted, fetch, data, latest⟩
        · refine .inl ⟨first, fun earlier before => ?_⟩
          rcases Nat.lt_succ_iff_lt_or_eq.mp before with sooner | rfl
          · exact never earlier sooner
          · exact pending
        · exact .inr ⟨accepted, fetch, data, latest.succ pending⟩

/-! ## The identities -/

/-- Only an accepted response for its identifier brings an identity. -/
theorem identity?_of_succ {moment : Nat} {name : String} {identity : Identity}
    (pending : ∀ fetch record, ¬ run.Accepted moment (.identity name) fetch record)
    (cached : (run.client (moment + 1)).cache.identity? name = some identity) :
    (run.client moment).cache.identity? name = some identity := by
  obtain ⟨-, tidy⟩ := run.cache_wellFormed moment
  have unswept : ∀ cache : Cache, cache.Tidy → ∀ now keep,
      (cache.sweep now keep).identity? name = some identity →
        cache.identity? name = some identity := by
    intro cache tidy now keep held
    rw [tidy.identity?_sweep] at held
    exact (Option.filter_eq_some_iff.mp held).1
  cases run.change moment with
  | tidied tidied =>
      rcases tidied.cache with same | ⟨keep, swept⟩
      · rw [same] at cached
        exact cached
      · rw [swept] at cached
        exact unswept _ tidy _ keep cached
  | clocked now client =>
      rw [client] at cached
      exact cached
  | swept now keep present client =>
      rw [client, sweep_cache] at cached
      exact unswept _ tidy now keep cached
  | accepted resource fetch record accepted =>
      obtain ⟨-, cache⟩ := accepted.cache
      obtain ⟨data, decoded, -⟩ := accepted.decoded
      rcases decode_eq_ok decoded with
        ⟨rfl, snapshot, rfl, -⟩ | ⟨other, newer, rfl, rfl, made⟩
      · rw [cache] at cached
        split at cached
        · have held := unswept _ (keep_tidy tidy) _ none cached
          exact held
        · exact cached
      · have apart : name ≠ newer.identifier := by
          rw [(identity_of_decode made).1]
          rintro rfl
          exact pending fetch _ accepted
        rw [if_neg fun both => Resource.noConfusion both.1] at cache
        rw [cache, Fetched.keep, Cache.identity?, Cache.withIdentity, Entries.lookup_put,
          if_neg (by simpa using apart)] at cached
        exact cached

theorem identity?_of_accepted_self {moment fetch : Nat} {name : String} {record : Fetched}
    (accepted : run.Accepted moment (.identity name) fetch record) :
    ∃ identity, record = .identity identity ∧
      (run.client (moment + 1)).cache.identity? name = some identity := by
  obtain ⟨-, cache⟩ := accepted.cache
  obtain ⟨data, decoded, -⟩ := accepted.decoded
  rcases decode_eq_ok decoded with ⟨other, -⟩ | ⟨other, identity, same, rfl, made⟩
  · cases other
  · cases same
    refine ⟨identity, rfl, ?_⟩
    rw [if_neg fun both => Resource.noConfusion both.1] at cache
    rw [cache, Fetched.keep, Cache.identity?, Cache.withIdentity, Entries.lookup_put,
      (identity_of_decode made).1, beq_self_eq_true, if_pos rfl]

theorem identity?_latest (run : Run) {moment : Nat} {name : String} {identity : Identity}
    (cached : (run.client moment).cache.identity? name = some identity) :
    ∃ accepted fetch data,
      run.LastAccepted moment (.identity name) (.identity identity) accepted fetch data := by
  induction moment with
  | zero => cases cached
  | succ moment inductionHypothesis =>
      by_cases brought : ∃ fetch record, run.Accepted moment (.identity name) fetch record
      · obtain ⟨fetch, record, accepted⟩ := brought
        obtain ⟨newer, rfl, held⟩ := identity?_of_accepted_self accepted
        cases held.symm.trans cached
        obtain ⟨data, latest⟩ := lastAccepted_of_accepted accepted
        exact ⟨moment, fetch, data, latest⟩
      · have pending : ∀ fetch record, ¬ run.Accepted moment (.identity name) fetch record :=
          fun fetch record accepted => brought ⟨fetch, record, accepted⟩
        obtain ⟨accepted, fetch, data, latest⟩ :=
          inductionHypothesis (identity?_of_succ pending cached)
        exact ⟨accepted, fetch, data, latest.succ pending⟩

/-- Nobody asks for the identity of an empty identifier. -/
theorem named_of_accepted {moment fetch : Nat} {name : String} {record : Fetched}
    (accepted : run.Accepted moment (.identity name) fetch record) : name ≠ "" := by
  obtain ⟨reply, accepts⟩ := accepted
  obtain ⟨asked, caller, phase, stage, -, asks⟩ :=
    run.history.asked_of_unfinished accepts.unfinished
  have needs := (awaits_iff_needs (run.client asked) phase (.identity name)).mp
    ⟨_, stage, asks.moves⟩
  have named : ∃ identifier, named? identifier = some name := by
    cases needs with
    | identifying identifier name named stale => exact ⟨identifier, named⟩
    | matching query phase closes name begins listed named stale => exact ⟨_, named⟩
  obtain ⟨identifier, named⟩ := named
  rintro rfl
  exact absurd (Option.filter_eq_some_iff.mp named).2 (by decide)

theorem mem_identities_iff (run : Run) (moment : Nat) (name : String) (identity : Identity) :
    (name, identity) ∈ (run.client moment).cache.identities ↔
      (run.client moment).cache.identity? name = some identity :=
  ⟨Entries.lookup_of_mem (run.cache_wellFormed moment).2, Entries.mem_of_lookup⟩

/-! ## The order of responses -/

theorem fetch?_of_accepted_later {resource : Resource} {first fetch second other : Nat}
    {record newer : Fetched} (order : first < second)
    (accepted : run.Accepted first resource fetch record)
    (later : run.Accepted second resource other newer) :
    (run.state (first + 1)).fetch? other = none := by
  obtain ⟨reply, accepts⟩ := accepted
  obtain ⟨laterReply, laterAccepts⟩ := later
  have registered : Flight.Registered (run.state first) := (run.history.orderly first).registered
  cases present : (run.state (first + 1)).fetch? other with
  | none => rfl
  | some found =>
      have unfinished := run.history.unfinished_between (Nat.le_refl _) order present
        laterAccepts.unfinished
      exact absurd unfinished
        ((run.history.next first).closed registered accepts.unfinished accepts.finished other)

/-- While the clock does not go back, the caches hold the latest accepted responses at all moments
of a run, whatever is called, answered, refused, cancelled or swept in it. -/
theorem run_holdsLatest (run : Run) (forward : run.Forward) : run.HoldsLatest where
  snapshot moment := by
    refine (run.snapshot_latest moment).imp_right fun ⟨accepted, fetch, data, latest⟩ => ?_
    refine ⟨accepted, fetch, data, latest, ?_⟩
    rcases decode_eq_ok latest.decoded with ⟨-, snapshot, same, made⟩ | ⟨name, identity, other, -⟩
    · cases same
      exact made
    · cases other
  identity moment name identity member := by
    obtain ⟨accepted, fetch, data, latest⟩ :=
      run.identity?_latest ((run.mem_identities_iff moment name identity).mp member)
    rcases decode_eq_ok latest.decoded with ⟨other, -⟩ | ⟨other, made, same, sameRecord, result⟩
    · cases other
    · cases same
      cases sameRecord
      exact ⟨named_of_accepted latest.accepted, (identity_of_decode result).1, accepted, fetch,
        data, latest, result⟩
  distinct moment := (run.cache_wellFormed moment).2
  refreshedAt earlier later old order stamped := by
    have oldest := (run.snapshot_latest earlier).resolve_left fun ⟨first, _⟩ => by
      rw [first] at stamped
      cases stamped
    obtain ⟨accepted, fetch, data, oldLatest⟩ := oldest
    have newest := (run.snapshot_latest later).resolve_left fun ⟨_, never⟩ =>
      never accepted (Nat.lt_of_lt_of_le oldLatest.before order) fetch _ oldLatest.accepted
    obtain ⟨renewed, other, newData, newLatest⟩ := newest
    exact oldLatest.fetchedAt_le forward order newLatest stamped
  fetchedAt earlier later name old new order oldMember newMember := by
    obtain ⟨accepted, fetch, data, oldLatest⟩ :=
      run.identity?_latest ((run.mem_identities_iff earlier name old).mp oldMember)
    obtain ⟨renewed, other, newData, newLatest⟩ :=
      run.identity?_latest ((run.mem_identities_iff later name new).mp newMember)
    obtain ⟨stamp, stamped, ordered⟩ := oldLatest.fetchedAt_le forward order newLatest rfl
    cases stamped
    exact ordered
  inOrder _ _ _ _ _ _ _ order accepted later := fetch?_of_accepted_later order accepted later

/-- The last step of `renewal` is the first turn of its second fetch for one identifier; here that
has its reply at once. -/
def renewed : Run :=
  { renewal with
    steps := renewal.steps.take 12 ++
      [.move (.turn (some (.ok (.object [("overrides", .object [])]))))] }

/-- The entry of an identifier is swept and comes back, and then it is no older. -/
theorem run_holdsLatest_renewed :
    renewed.Forward ∧ renewed.HoldsLatest ∧
      (renewed.client 10).cache.identity? "ada" = none ∧
      ∃ old new, ("ada", old) ∈ (renewed.client 3).cache.identities ∧
        ("ada", new) ∈ (renewed.client 13).cache.identities ∧
        old.fetchedAt.le new.fetchedAt = true := by
  have forward : renewed.Forward :=
    renewed.forward_of_steps (by decide +kernel) (by decide +kernel)
  have holds := run_holdsLatest renewed forward
  have before : ∃ old, (renewed.client 3).cache.identity? "ada" = some old :=
    Option.isSome_iff_exists.mp (by decide +kernel)
  have after : ∃ new, (renewed.client 13).cache.identity? "ada" = some new :=
    Option.isSome_iff_exists.mp (by decide +kernel)
  obtain ⟨old, cached⟩ := before
  obtain ⟨new, cachedAgain⟩ := after
  have oldMember := (renewed.mem_identities_iff 3 "ada" old).mpr cached
  have newMember := (renewed.mem_identities_iff 13 "ada" new).mpr cachedAgain
  exact ⟨forward, holds, Option.isNone_iff_eq_none.mp (by decide +kernel), old, new, oldMember,
    newMember, holds.fetchedAt 3 13 "ada" old new (by decide) oldMember newMember⟩

end FeatureFlags.Client.Run
