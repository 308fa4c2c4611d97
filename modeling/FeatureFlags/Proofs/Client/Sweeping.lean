import FeatureFlags.Proofs.Client.Fetching
import FeatureFlags.Proofs.Client.Stages

/-!
# What becomes of a stale identity

A call that looks up an identifier sweeps the other identities that have expired, and so does a new
state that is linked to them.  So while a caller waits for a stale identity to be fetched again, the
old entry is kept just until another sweep finds it expired: a look-up of some other identifier, a
new state, or a sweep that is asked for (`entry_kept_until_swept`).  The sweep of the caller itself
spares the entry, but nothing else does, and a fetch that fails then leaves no entry behind
(`forgotten_loses_entry`).
-/

set_option autoImplicit false

namespace FeatureFlags.Client.Run

variable (run : Run)

/-- In the step at a moment the identities are swept: because that was asked for, by a call that
looks an identifier up, or for a new state. -/
inductive SweptAt (moment : Nat) : Double → Option String → Prop where
  | asked (now : Double) (keep : Option String)
      (present : run.steps[moment]? = some (.sweep now keep)) : SweptAt moment now keep
  | lookedUp (caller : Nat) (phase : Phase) (move : Move) (name : String)
      (proceeds : Flight.Proceeds service (run.state moment) (run.state (moment + 1)) caller phase
        move)
      (looksUp : LooksUp (run.client moment) phase name) :
      SweptAt moment (run.clock moment) (some name)
  | refreshed (fetch : Nat) (snapshot : Snapshot)
      (accepted : run.Accepted moment .state fetch (.state snapshot))
      (linked : run.linked = true) : SweptAt moment (run.clock moment) none

def Drops (moment : Nat) (name : String) (identity : Identity) : Prop :=
  ∃ now keep, run.SweptAt moment now keep ∧ keep ≠ some name ∧
    isExpired now identity.fetchedAt run.lifetimes.identity = true

/-- An entry is still cached if no sweep since has dropped it, and else there is none. -/
def LeftBySweeps (name : String) (identity : Identity) (first last : Nat) : Prop :=
  ((∀ moment, first ≤ moment → moment < last → ¬ run.Drops moment name identity) ∧
    (run.client last).cache.identity? name = some identity) ∨
  ((∃ moment, first ≤ moment ∧ moment < last ∧ run.Drops moment name identity) ∧
    (run.client last).cache.identity? name = none)

/-- What becomes of the entry of an identifier from the moment at which a caller goes to wait for a
fetch of it. -/
structure KeptUntilSwept (name : String) (identity : Identity) (asked fetch : Nat) : Prop where
  /-- The sweep of the caller itself spares the entry. -/
  spared : (run.client (asked + 1)).cache.identity? name = some identity
  pending : ∀ moment, asked < moment → (run.state moment).Unfinished (.identity name) fetch →
    run.LeftBySweeps name identity (asked + 1) moment
  failed : ∀ moment error, asked < moment → run.FailsAt moment (.identity name) fetch error →
    (run.client (moment + 1)).cache = (run.client moment).cache ∧
      run.LeftBySweeps name identity (asked + 1) moment
  /-- Only a fetch that succeeds puts another entry in its place. -/
  renewed : ∀ moment later, asked < moment →
    run.Accepted moment (.identity name) fetch (.identity later) →
      run.LeftBySweeps name identity (asked + 1) moment ∧
        (run.client (moment + 1)).cache.identity? name = some later

variable {run}

theorem SweptAt.identity? {moment : Nat} {now : Double} {keep : Option String}
    (swept : run.SweptAt moment now keep) (name : String) :
    (run.client (moment + 1)).cache.identity? name =
      ((run.client moment).cache.identity? name).filter fun identity =>
        !(keep != some name && isExpired now identity.fetchedAt run.lifetimes.identity) := by
  obtain ⟨lifetimes, tidy⟩ := run.cache_wellFormed moment
  -- Whoever sweeps, the look-up of the name is that of a sweep of caches with the same identities.
  have filtered := tidy.identity?_sweep now keep name
  unfold Cache.isStale at filtered
  rw [lifetimes] at filtered
  rw [← filtered]
  cases swept with
  | asked now keep present =>
      have client : run.client (moment + 1) = (run.client moment).sweep now keep :=
        congrArg Flight.State.world (run.state_succ_of_step present)
      rw [client, sweep_cache]
  | lookedUp caller phase move other proceeds looksUp =>
      exact congrArg (Cache.identity? name) (looksUp.cache proceeds.moves)
  | refreshed fetch snapshot accepted linked =>
      obtain ⟨-, cache⟩ := accepted.cache
      rw [if_pos ⟨rfl, linked⟩] at cache
      rw [cache]
      rfl

theorem Drops.identity? {moment : Nat} {name : String} {identity : Identity}
    (drops : run.Drops moment name identity)
    (cached : (run.client moment).cache.identity? name = some identity) :
    (run.client (moment + 1)).cache.identity? name = none := by
  obtain ⟨now, keep, swept, spares, expired⟩ := drops
  rw [swept.identity? name, cached]
  simp [Option.filter, spares, expired]

theorem SweptAt.identity?_none {moment : Nat} {now : Double} {keep : Option String}
    (swept : run.SweptAt moment now keep) {name : String}
    (absent : (run.client moment).cache.identity? name = none) :
    (run.client (moment + 1)).cache.identity? name = none := by
  rw [swept.identity? name, absent]
  rfl

theorem SweptAt.identity?_some {moment : Nat} {now : Double} {keep : Option String}
    (swept : run.SweptAt moment now keep) {name : String} {identity : Identity}
    (cached : (run.client moment).cache.identity? name = some identity)
    (kept : ¬ run.Drops moment name identity) :
    (run.client (moment + 1)).cache.identity? name = some identity := by
  rw [swept.identity? name, cached]
  refine Option.filter_eq_some_iff.mpr ⟨rfl, ?_⟩
  by_cases spares : keep = some name
  · simp [spares]
  · cases expired : isExpired now identity.fetchedAt run.lifetimes.identity with
    | false => simp
    | true => exact absurd ⟨now, keep, swept, spares, expired⟩ kept

theorem identity?_of_accepted {moment fetch : Nat} {resource : Resource} {record : Fetched}
    {name : String} (accepted : run.Accepted moment resource fetch record)
    (unswept : ∀ now keep, ¬ run.SweptAt moment now keep)
    (unrenewed : ∀ fetch record, ¬ run.Accepted moment (.identity name) fetch record) :
    (run.client (moment + 1)).cache.identity? name =
      (run.client moment).cache.identity? name := by
  obtain ⟨-, cache⟩ := accepted.cache
  obtain ⟨data, decoded, -⟩ := accepted.decoded
  rcases decode_eq_ok decoded with
    ⟨rfl, snapshot, rfl, -⟩ | ⟨other, identity, rfl, rfl, made⟩
  · have apart : ¬ run.linked = true := fun linked =>
      unswept _ _ (.refreshed fetch snapshot accepted linked)
    rw [if_neg fun both => apart both.2] at cache
    rw [cache]
    rfl
  · have differs : name ≠ identity.identifier := by
      rw [(identity_of_decode made).1]
      rintro rfl
      exact unrenewed fetch _ accepted
    rw [if_neg fun both => Resource.noConfusion both.1] at cache
    rw [cache, Fetched.keep, Cache.identity?, Cache.withIdentity, Entries.lookup_put, if_neg]
    · rfl
    · simpa using differs

/-- Without a sweep or a new record, an entry stays as it is. -/
theorem identity?_succ_of_not_swept {moment : Nat} {name : String}
    (unswept : ∀ now keep, ¬ run.SweptAt moment now keep)
    (unrenewed : ∀ fetch record, ¬ run.Accepted moment (.identity name) fetch record) :
    (run.client (moment + 1)).cache.identity? name =
      (run.client moment).cache.identity? name := by
  suffices same : ∀ (taken : Option Step), run.steps[moment]? = taken →
      (run.client (moment + 1)).cache.identity? name =
        (run.client moment).cache.identity? name from same _ rfl
  intro taken present
  cases taken with
  | none => rw [client, run.state_succ_of_none present]; rfl
  | some taken =>
      cases taken with
      | clock now => rw [client, run.state_succ_of_step present]; rfl
      | sweep now keep => exact absurd (.asked now keep present) (unswept now keep)
      | move action =>
          cases run.world_of_move present with
          | kept world => exact congrArg (fun client => client.cache.identity? name) world
          | drifted drifts => exact drifts.elim
          | proceeded caller phase move proceeds =>
              have nothing : ∀ other, ¬ LooksUp (run.client moment) phase other :=
                fun other looksUp => unswept _ _ (.lookedUp caller phase move other proceeds looksUp)
              exact congrArg (Cache.identity? name) (cache_of_not_looksUp nothing proceeds.moves)
          | departed phase leaves =>
              exact congrArg (Cache.identity? name) (leave_keeps leaves).2
          | replied resource fetch reply unfinished world finished =>
              rcases run.accepted_or_kept unfinished world finished with
                ⟨record, accepted⟩ | ⟨-, cache⟩
              · exact identity?_of_accepted accepted unswept unrenewed
              · exact congrArg (Cache.identity? name) cache

/-- As long as its identifier is not fetched anew, an entry is left as the sweeps leave it. -/
theorem leftBySweeps {name : String} {identity : Identity} {first last : Nat} (order : first ≤ last)
    (cached : (run.client first).cache.identity? name = some identity)
    (unrenewed : ∀ moment, first ≤ moment → moment < last → ∀ fetch record,
      ¬ run.Accepted moment (.identity name) fetch record) :
    run.LeftBySweeps name identity first last := by
  induction order with
  | refl => exact .inl ⟨fun moment after before => absurd before (Nat.not_lt.mpr after), cached⟩
  | @step last order inductionHypothesis =>
      have earlier := inductionHypothesis fun moment after before =>
        unrenewed moment after (Nat.lt_succ_of_lt before)
      have still := unrenewed last order (Nat.lt_succ_self last)
      rcases earlier with ⟨kept, held⟩ | ⟨⟨moment, after, before, drops⟩, gone⟩
      · by_cases drops : run.Drops last name identity
        · exact .inr ⟨⟨last, order, Nat.lt_succ_self last, drops⟩, drops.identity? held⟩
        · refine .inl ⟨fun moment after before => ?_, ?_⟩
          · rcases Nat.lt_succ_iff_lt_or_eq.mp before with sooner | rfl
            · exact kept moment after sooner
            · exact drops
          · by_cases swept : ∃ now keep, run.SweptAt last now keep
            · obtain ⟨now, keep, swept⟩ := swept
              exact swept.identity?_some held drops
            · rw [identity?_succ_of_not_swept (fun now keep this => swept ⟨now, keep, this⟩) still]
              exact held
      · refine .inr ⟨⟨moment, after, Nat.lt_succ_of_lt before, drops⟩, ?_⟩
        by_cases swept : ∃ now keep, run.SweptAt last now keep
        · obtain ⟨now, keep, swept⟩ := swept
          exact swept.identity?_none gone
        · rw [identity?_succ_of_not_swept (fun now keep this => swept ⟨now, keep, this⟩) still]
          exact gone

/-- While a fetch of a resource is under way, no fetch of it is accepted. -/
theorem not_accepted_of_unfinished {resource : Resource} {fetch first last moment other : Nat}
    {record : Fetched} (after : first ≤ moment) (before : moment < last)
    (opened : (run.state first).Unfinished resource fetch)
    (unfinished : (run.state last).Unfinished resource fetch) :
    ¬ run.Accepted moment resource other record := by
  rintro ⟨reply, accepts⟩
  obtain ⟨found, present, -⟩ := Option.map_eq_some_iff.mp opened
  have here : (run.state moment).Unfinished resource fetch :=
    run.history.unfinished_between after (Nat.le_of_lt before) present unfinished
  obtain rfl := (run.history.orderly moment).registered.unique here accepts.unfinished
  have finished := run.history.fetchPhase?_finished before accepts.finished
  exact Flight.not_finished_of_unfinished unfinished finished

/-- From the moment at which a caller goes to wait for a cached but stale identity, the old entry is
kept until a sweep that does not spare it finds it expired; what the fetch adds to that is nothing
if it fails, and the new entry if it succeeds. -/
theorem entry_kept_until_swept (run : Run) {caller asked : Nat} {phase : Phase} {stage : Stage}
    {name : String} {identity : Identity}
    (asks : Flight.Proceeds service (run.state asked) (run.state (asked + 1)) caller phase
      (.await (.identity name) stage))
    (cached : (run.client asked).cache.identity? name = some identity) :
    ∃ fetch, (run.state (asked + 1)).callerPhase? caller = some (.waiting stage fetch) ∧
      run.KeptUntilSwept name identity asked fetch := by
  obtain ⟨fetch, found, waiting, present, sameKey, isOpen, -⟩ := asks.reached
  have opened : (run.state (asked + 1)).Unfinished (.identity name) fetch :=
    Option.map_eq_some_iff.mpr ⟨found, present, by rw [sameKey, isOpen]⟩
  have spared : (run.client (asked + 1)).cache.identity? name = some identity := by
    have needs := (awaits_iff_needs (run.client asked) phase (.identity name)).mp
      ⟨_, stage, asks.moves⟩
    have swept : (run.client (asked + 1)).cache =
        (run.client asked).cache.sweep (run.clock asked) (some name) :=
      needs.looksUp.cache asks.moves
    rw [swept, identity?_sweep_kept]
    exact cached
  have pending : ∀ moment, asked < moment →
      (run.state moment).Unfinished (.identity name) fetch →
        run.LeftBySweeps name identity (asked + 1) moment := by
    intro moment later unfinished
    refine leftBySweeps later spared fun between after before other record => ?_
    exact not_accepted_of_unfinished after before opened unfinished
  refine ⟨fetch, waiting, spared, pending, ?_, ?_⟩
  · intro moment error later fails
    obtain ⟨reply, refused⟩ := fails.refused
    exact ⟨(accept_error refused).2, pending moment later fails.1⟩
  · intro moment renewed later accepted
    obtain ⟨reply, accepts⟩ := accepted
    refine ⟨pending moment later accepts.unfinished, ?_⟩
    have accepted : run.Accepted moment (.identity name) fetch (.identity renewed) :=
      ⟨reply, accepts⟩
    obtain ⟨-, cache⟩ := accepted.cache
    obtain ⟨data, decoded, -⟩ := accepted.decoded
    rcases decode_eq_ok decoded with ⟨other, -⟩ | ⟨other, made, same, sameRecord, result⟩
    · cases other
    · cases same
      cases sameRecord
      rw [if_neg fun both => Resource.noConfusion both.1] at cache
      rw [cache, Fetched.keep, Cache.identity?, Cache.withIdentity, Entries.lookup_put,
        (identity_of_decode result).1]
      simp

theorem identifies_of_turn {moment caller : Nat} {given : Option Reply} {rest : List Flight.Turn}
    {identifier : Option String} {name : String}
    (turn : run.steps[moment]? = some (.move (.turn given)))
    (agenda : (run.state moment).agenda = .caller caller :: rest)
    (present : (run.state moment).callerPhase? caller =
      some (.ready (.start (.identify identifier))))
    (named : named? identifier = some name)
    (stale : run.holds moment (.identity name) = false) :
    Flight.Proceeds service (run.state moment) (run.state (moment + 1)) caller
      (.ready (.start (.identify identifier))) (.await (.identity name) .identifying) :=
  run.proceeds_of_turn turn agenda present (congrArg some (identify_stale named stale))

/-- While a stale identity is fetched again, another identifier is looked up; then the fetch
fails. -/
def forgotten : Run where
  host := "flags.test"
  now := .ofInt 0
  lifetimes := .usual
  linked := true
  steps := [
    .move (.call (.start (.identify (some "ada"))) false),
    .move (.turn none),
    .move (.turn (some (.ok (.object [("overrides", .object [])])))),
    .move (.turn none),
    .move (.turn none),
    .move (.turn none),
    .clock (.ofInt 6),
    .move (.call (.start (.identify (some "ada"))) false),
    .move (.turn none),
    .move (.turn none),
    .move (.call (.start (.identify (some "bob"))) false),
    .move (.turn none),
    .move (.answer 1 (.error (.api 500 "server error" []))),
    .move (.turn none),
    .move (.turn none)]

theorem forgotten_asks : Flight.Proceeds service (forgotten.state 8) (forgotten.state 9) 1
    (.ready (.start (.identify (some "ada")))) (.await (.identity "ada") .identifying) := by
  have stale : forgotten.holds 8 (.identity "ada") = false := by decide +kernel
  exact forgotten.identifies_of_turn rfl rfl rfl rfl stale

theorem forgotten_cached : ∃ identity,
    (forgotten.client 8).cache.identity? "ada" = some identity :=
  Option.isSome_iff_exists.mp (by decide +kernel)

theorem entry_kept_until_swept_forgotten :
    Flight.Proceeds service (forgotten.state 8) (forgotten.state 9) 1
        (.ready (.start (.identify (some "ada")))) (.await (.identity "ada") .identifying) ∧
      ∃ identity fetch, (forgotten.client 8).cache.identity? "ada" = some identity ∧
        (forgotten.state 9).callerPhase? 1 = some (.waiting .identifying fetch) ∧
        forgotten.KeptUntilSwept "ada" identity 8 fetch := by
  obtain ⟨identity, cached⟩ := forgotten_cached
  obtain ⟨fetch, waiting, kept⟩ := entry_kept_until_swept forgotten forgotten_asks cached
  exact ⟨forgotten_asks, identity, fetch, cached, waiting, kept⟩

def failure? : Option (Flight.FetchPhase Reply Fetched) → Option Error
  | some (.finished (.failed error)) => some error
  | _ => none

theorem failsAt_of_failure? {moment fetch : Nat} {resource : Resource}
    (unfinished : (run.state moment).Unfinished resource fetch)
    (failed : (failure? ((run.state (moment + 1)).fetchPhase? fetch)).isSome = true) :
    ∃ error, run.FailsAt moment resource fetch error := by
  obtain ⟨error, found⟩ := Option.isSome_iff_exists.mp failed
  unfold failure? at found
  split at found
  next made phase => exact ⟨made, unfinished, phase⟩
  next => cases found

/-- The stale entry is gone while the fetch that is to renew it is still under way, and it is not
there again when that fetch has failed. -/
theorem forgotten_loses_entry :
    (∃ identity, (forgotten.client 8).cache.identity? "ada" = some identity) ∧
      Flight.Proceeds service (forgotten.state 8) (forgotten.state 9) 1
        (.ready (.start (.identify (some "ada")))) (.await (.identity "ada") .identifying) ∧
      (forgotten.state 12).Unfinished (.identity "ada") 1 ∧
      (forgotten.client 12).cache.identity? "ada" = none ∧
      (∃ error, forgotten.FailsAt 14 (.identity "ada") 1 error) ∧
      (forgotten.client 15).cache.identity? "ada" = none := by
  have unfinished : (forgotten.state 14).Unfinished (.identity "ada") 1 := by
    unfold Flight.State.Unfinished
    decide +kernel
  refine ⟨forgotten_cached, forgotten_asks, ?_, ?_, ?_, ?_⟩
  · unfold Flight.State.Unfinished
    decide +kernel
  · exact Option.isNone_iff_eq_none.mp (by decide +kernel)
  · exact failsAt_of_failure? unfinished (by decide +kernel)
  · exact Option.isNone_iff_eq_none.mp (by decide +kernel)

end FeatureFlags.Client.Run
