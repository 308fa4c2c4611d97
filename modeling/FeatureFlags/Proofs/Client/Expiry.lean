import FeatureFlags.Proofs.Client.Moments
import FeatureFlags.Session.Step

/-!
# What a sweep removes

A sweep first collects the identifiers of the expired entries that it does not spare, and then
deletes these entries one after the other.  It removes exactly the expired ones and counts them, and
nothing that it removes is fresh at the same time, whatever doubles the times and the lifetime are.
So right after a new state no entry is expired, and all that were fresh are still there
(`sweep_exact`).
-/

set_option autoImplicit false

namespace FeatureFlags

namespace Cache

variable {cache : Cache} {now : Double} {keep : Option String}

def staleNames (now : Double) (keep : Option String) (cache : Cache) : List String :=
  (cache.identities.filter (cache.isStale now keep)).map Prod.fst

def delete (identities : List (String × Identity)) (name : String) : List (String × Identity) :=
  identities.eraseP fun entry => entry.1 == name

/-! ## Deletions one after the other -/

theorem delete_eq_filter {identities : List (String × Identity)}
    (distinct : (identities.map Prod.fst).Nodup) (name : String) :
    delete identities name = identities.filter fun entry => entry.1 != name := by
  induction identities with
  | nil => rfl
  | cons head rest inductionHypothesis =>
      obtain ⟨absent, distinctRest⟩ := List.nodup_cons.mp distinct
      by_cases here : head.1 = name
      · have others : ∀ entry ∈ rest, (entry.1 != name) = true := by
          intro entry within
          rw [bne_iff_ne, ← here]
          intro same
          exact absent (same ▸ List.mem_map_of_mem within)
        simp [delete, here, List.filter_eq_self.mpr others]
      · have apart : (head.1 == name) = false := beq_eq_false_iff_ne.mpr here
        have rest := inductionHypothesis distinctRest
        unfold delete at rest ⊢
        simp [apart, bne, rest]

theorem foldl_delete {identities : List (String × Identity)}
    (distinct : (identities.map Prod.fst).Nodup) (names : List String) :
    names.foldl delete identities = identities.filter fun entry => !names.contains entry.1 := by
  induction names generalizing identities with
  | nil => simp
  | cons name names inductionHypothesis =>
      have still : ((identities.filter fun entry => entry.1 != name).map Prod.fst).Nodup :=
        distinct.sublist (List.filter_sublist.map Prod.fst)
      rw [List.foldl_cons, delete_eq_filter distinct, inductionHypothesis still,
        List.filter_filter]
      refine List.filter_congr fun entry _ => ?_
      rw [List.contains_cons, Bool.not_or, Bool.and_comm]
      rfl

theorem Tidy.mem_staleNames_iff (tidy : cache.Tidy) {entry : String × Identity}
    (present : entry ∈ cache.identities) :
    entry.1 ∈ cache.staleNames now keep ↔ cache.isStale now keep entry = true := by
  constructor
  · intro listed
    obtain ⟨other, found, same⟩ := List.mem_map.mp listed
    obtain ⟨within, stale⟩ := List.mem_filter.mp found
    have twice : other = entry := List.inj_on_of_nodup_map tidy within present same
    rw [← twice]
    exact stale
  · intro stale
    exact List.mem_map_of_mem (List.mem_filter.mpr ⟨present, stale⟩)

/-- Deleting the collected identifiers one after the other leaves what a sweep leaves. -/
theorem Tidy.identities_sweep (tidy : cache.Tidy) (now : Double) (keep : Option String) :
    (cache.sweep now keep).identities =
      (cache.staleNames now keep).foldl delete cache.identities := by
  rw [foldl_delete tidy]
  refine List.filter_congr fun entry present => ?_
  rw [Bool.eq_iff_iff, Bool.not_eq_true', Bool.not_eq_true', Bool.eq_false_iff, Bool.eq_false_iff,
    ne_eq, ne_eq, List.contains_iff_mem, tidy.mem_staleNames_iff present]

theorem length_sweep (now : Double) (keep : Option String) (cache : Cache) :
    (cache.sweep now keep).identities.length + cache.staleCount now keep =
      cache.identities.length := by
  rw [sweep, staleCount, List.countP_eq_length_filter, Nat.add_comm]
  exact (List.length_eq_length_filter_add _).symm

/-! ## What is removed -/

/-- From one cache to the other exactly the entries of other identifiers than the one to keep are
removed that have expired. -/
structure Sweeps (before after : Cache) (now : Double) (keep : Option String) (count : Nat) :
    Prop where
  identity?_iff : ∀ name identity, after.identity? name = some identity ↔
    before.identity? name = some identity ∧
      ¬(keep ≠ some name ∧ isExpired now identity.fetchedAt before.lifetimes.identity = true)
  deleted : after.identities = (before.staleNames now keep).foldl delete before.identities
  inOrder : after.identities.Sublist before.identities
  counted : after.identities.length + count = before.identities.length
  rest : after = { before with identities := after.identities }
  neverFresh : ∀ name identity, before.identity? name = some identity →
    after.identity? name = none → before.isIdentityFresh now identity = false

theorem Tidy.identity?_sweep_iff (tidy : cache.Tidy) {name : String} {identity : Identity} :
    (cache.sweep now keep).identity? name = some identity ↔
      cache.identity? name = some identity ∧
        ¬(keep ≠ some name ∧ isExpired now identity.fetchedAt cache.lifetimes.identity = true) := by
  rw [tidy.identity?_sweep, Option.filter_eq_some_iff]
  refine and_congr_right fun _ => ?_
  rw [isStale, Bool.not_eq_true', Bool.eq_false_iff, ne_eq, Bool.and_eq_true, bne_iff_ne]

theorem Tidy.sweeps (tidy : cache.Tidy) (now : Double) (keep : Option String) :
    Sweeps cache (cache.sweep now keep) now keep (cache.staleCount now keep) where
  identity?_iff _ _ := tidy.identity?_sweep_iff
  deleted := tidy.identities_sweep now keep
  inOrder := List.filter_sublist
  counted := cache.length_sweep now keep
  rest := rfl
  neverFresh name identity held removed := by
    have expired : isExpired now identity.fetchedAt cache.lifetimes.identity = true := by
      by_contra kept
      have still : (cache.sweep now keep).identity? name = some identity :=
        tidy.identity?_sweep_iff.mpr ⟨held, fun dropped => kept dropped.2⟩
      cases removed.symm.trans still
    exact not_isFresh_of_isExpired expired

structure Cleared (before after : Cache) (now : Double) : Prop where
  current : ∀ name identity, after.identity? name = some identity →
    isExpired now identity.fetchedAt before.lifetimes.identity = false
  fresh : ∀ name identity, before.identity? name = some identity →
    before.isIdentityFresh now identity = true → after.identity? name = some identity

theorem Tidy.cleared (tidy : cache.Tidy) (now : Double) :
    Cleared cache (cache.sweep now none) now where
  current name identity held := by
    have kept := (tidy.identity?_sweep_iff.mp held).2
    exact Bool.eq_false_iff.mpr fun expired => kept ⟨nofun, expired⟩
  fresh name identity held fresh := by
    refine tidy.identity?_sweep_iff.mpr ⟨held, fun dropped => ?_⟩
    have stale : cache.isIdentityFresh now identity = false := not_isFresh_of_isExpired dropped.2
    cases stale.symm.trans fresh

end Cache

namespace Client

open Cache

/-- An accepted state is swept with the snapshot in place. -/
theorem Run.Accepted.cleared {run : Run} {moment fetch : Nat} {record : Fetched}
    (accepted : run.Accepted moment .state fetch record) (linked : run.linked = true) :
    Cleared (run.client moment).cache (run.client (moment + 1)).cache (run.clock moment) := by
  obtain ⟨-, cache⟩ := accepted.cache
  rw [if_pos ⟨rfl, linked⟩] at cache
  obtain ⟨data, decoded, -⟩ := accepted.decoded
  obtain ⟨-, snapshot, rfl, -⟩ | ⟨name, identity, other, -⟩ := decode_eq_ok decoded
  · have tidy := (run.cache_wellFormed moment).2
    have kept : ((Fetched.state snapshot).keep (run.client moment).cache).Tidy := tidy
    have cleared := kept.cleared (run.clock moment)
    rw [← cache] at cleared
    exact ⟨cleared.current, cleared.fresh⟩
  · cases other

end Client

/-- A sweep that is asked for removes exactly what has expired and tells how much, and what a state
refresh leaves is free of it. -/
theorem sweep_exact :
    (∀ (session : Session) (now : Option Double) (keep : Option String),
      session.client.cache.Tidy →
        ∃ count, (session.perform (.sweep now keep)).2 = .count count ∧
          Cache.Sweeps session.client.cache (session.perform (.sweep now keep)).1.client.cache
            (now.getD session.client.now) keep count) ∧
      ∀ (run : Client.Run) (moment fetch : Nat) (record : Client.Fetched), run.linked = true →
        run.Accepted moment .state fetch record →
          Cache.Cleared (run.client moment).cache (run.client (moment + 1)).cache
            (run.clock moment) := by
  constructor
  · intro session now keep tidy
    have after : (session.perform (.sweep now keep)).1.client.cache =
        session.client.cache.sweep (now.getD session.client.now) keep := Client.sweep_cache ..
    rw [after]
    exact ⟨_, rfl, tidy.sweeps _ keep⟩
  · intro run moment fetch record linked accepted
    exact accepted.cleared linked

def aged : Session :=
  .new none (.memory (.new (.list []) (.list []) []))
    { Client.new "flags.test" (.ofInt 6) .usual true with
      cache := { Cache.empty .usual true with
        identities := [("ada", ⟨"ada", [], .ofInt 0⟩), ("bob", ⟨"bob", [], .ofInt 3⟩)] } }

def outlived : Client.Run where
  host := "flags.test"
  now := .ofInt 0
  lifetimes := .usual
  linked := true
  steps := [
    .move (.call (.start (.identify (some "ada"))) false),
    .move (.turn none),
    .move (.turn (some (.ok (.object [("overrides", .object [])])))),
    .move (.turn none),
    .move (.turn none),
    .move (.turn none),
    .clock (.ofInt 6),
    .move (.call (.start (.refresh .refresh)) false),
    .move (.turn none),
    .move (.turn (some (.ok (.object [("flags", .list []), ("overrides", .list [])]))))]

def record? : Option (Flight.FetchPhase Client.Reply Client.Fetched) → Option Client.Fetched
  | some (.finished (.ok record)) => some record
  | _ => none

theorem finished_of_record? {phase : Option (Flight.FetchPhase Client.Reply Client.Fetched)}
    {record : Client.Fetched} (found : record? phase = some record) :
    phase = some (.finished (.ok record)) := by
  unfold record? at found
  split at found
  · cases found
    rfl
  · cases found

theorem outlived_accepted : ∃ record, outlived.Accepted 9 .state 1 record := by
  have unfinished : (outlived.state 9).Unfinished .state 1 := by
    unfold Flight.State.Unfinished
    decide +kernel
  obtain ⟨record, finished⟩ : ∃ record, record? ((outlived.state 10).fetchPhase? 1) = some record :=
    Option.isSome_iff_exists.mp (by decide +kernel)
  exact ⟨record, (outlived.history.next 9).accepts unfinished (finished_of_record? finished)⟩

theorem sweep_exact_aged :
    aged.client.cache.Tidy ∧ aged.client.cache.staleNames (.ofInt 6) none = ["ada"] ∧
      (∃ count, (aged.perform (.sweep none none)).2 = .count count ∧
        Cache.Sweeps aged.client.cache (aged.perform (.sweep none none)).1.client.cache
          aged.client.now none count) ∧
      outlived.linked = true ∧ (∃ record, outlived.Accepted 9 .state 1 record) ∧
      Cache.Cleared (outlived.client 9).cache (outlived.client 10).cache (outlived.clock 9) := by
  have tidy : aged.client.cache.Tidy := by
    unfold Cache.Tidy
    decide +kernel
  obtain ⟨record, accepted⟩ := outlived_accepted
  exact ⟨tidy, by decide +kernel, sweep_exact.1 aged none none tidy, rfl, ⟨record, accepted⟩,
    sweep_exact.2 outlived 9 1 record rfl accepted⟩

end FeatureFlags
