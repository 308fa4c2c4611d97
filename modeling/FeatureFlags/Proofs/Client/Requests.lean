import FeatureFlags.Proofs.Client.Alone
import FeatureFlags.Proofs.Client.Repeating

/-!
# What an evaluation requests

An evaluation that runs alone while no fetch is under way requests just what its precedence needs:
the identity, if it has an identifier of which no fresh identity is cached, and then the state, if
the identity is settled, nothing overrides the key and the snapshot is not fresh
(`evaluation_requests`).
-/

set_option autoImplicit false

namespace FeatureFlags.Client

def overridden (query : Query) (identity : Option Identity) : Bool :=
  (query.overrides.find? (.string query.key)).isSome ||
    identity.any fun known => (known.overrides.find? (.string query.key)).isSome

theorem overridden_eq (query : Query) (identity : Option Identity) :
    overridden query identity =
      (Scope.find? ⟨query.overrides, identity⟩ (.string query.key)).isSome := by
  unfold overridden Scope.find?
  cases query.overrides.find? (.string query.key) with
  | some value => rfl
  | none =>
      cases identity with
      | none => rfl
      | some known =>
          simp only [Option.any_some, Option.bind_some, Option.isSome_none, Bool.false_or]
          cases known.overrides.find? (.string query.key) <;> rfl

namespace Run

variable (run : Run)

def identityRequests (query : Query) (begun : Nat) : List Resource :=
  match named? query.identifier with
  | none => []
  | some name => if run.holds begun (.identity name) then [] else [.identity name]

def stateRequests (query : Query) (begun : Nat) : Except Error (Option Identity) → List Resource
  | .error _ => []
  | .ok identity => if overridden query identity || run.holds begun .state then [] else [.state]

/-- How the identity of a query comes to be settled between two moments. -/
inductive SettlesAs (query : Query) (begun ended : Nat) :
    Except Error (Option Identity) → Prop where
  | unnamed (absent : named? query.identifier = none) : SettlesAs query begun ended (.ok none)
  | cached (name : String) (identity : Identity) (named : named? query.identifier = some name)
      (fresh : (run.client begun).cache.freshIdentity? (run.clock begun) name = some identity) :
      SettlesAs query begun ended (.ok (some identity))
  | fetched (name : String) (identity : Identity) (moment fetch : Nat)
      (named : named? query.identifier = some name)
      (stale : run.holds begun (.identity name) = false) (after : begun ≤ moment)
      (before : moment < ended)
      (accepted : run.Accepted moment (.identity name) fetch (.identity identity)) :
      SettlesAs query begun ended (.ok (some identity))
  | failed (name : String) (error : Error) (moment fetch : Nat)
      (named : named? query.identifier = some name)
      (stale : run.holds begun (.identity name) = false) (after : begun ≤ moment)
      (before : moment < ended) (fails : run.FailsAt moment (.identity name) fetch error) :
      SettlesAs query begun ended (.error error)

/-- The snapshot has stayed, or the state has been requested and accepted. -/
def SnapshotKept (begun ended : Nat) : Prop :=
  (run.client ended).cache.snapshot = (run.client begun).cache.snapshot ∨
    (.state ∈ run.requests begun ended ∧ ∃ moment fetch, begun ≤ moment ∧ moment < ended ∧
      run.Accepted moment .state fetch (.state (run.client ended).cache.snapshot))

/-- What an evaluation that has run alone has requested, given how its identity was settled. -/
structure Requested (query : Query) (begun ended : Nat) (ending : Flight.Ending Answer)
    (settled : Except Error (Option Identity)) : Prop where
  settles : run.SettlesAs query begun ended settled
  requests : run.requests begun ended =
    run.identityRequests query begun ++ run.stateRequests query begun settled
  fails : ∀ error, settled = .error error → ending = .failed error
  snapshot : run.SnapshotKept begun ended

variable {run}

theorem identityRequests_unnamed {query : Query} {begun : Nat}
    (absent : named? query.identifier = none) : run.identityRequests query begun = [] := by
  rw [identityRequests, absent]

theorem identityRequests_named {query : Query} {begun : Nat} {name : String}
    (named : named? query.identifier = some name) :
    run.identityRequests query begun =
      if run.holds begun (.identity name) then [] else [.identity name] := by
  rw [identityRequests, named]

theorem holds_state_of_same {earlier later : Nat} (clock : run.clock later = run.clock earlier)
    (snapshot : (run.client later).cache.snapshot = (run.client earlier).cache.snapshot) :
    run.holds later .state = run.holds earlier .state := by
  have lifetimes : (run.client later).cache.lifetimes = (run.client earlier).cache.lifetimes :=
    (run.cache_wellFormed later).1.trans (run.cache_wellFormed earlier).1.symm
  unfold holds Cache.holds Cache.heldSince?
  dsimp only
  rw [clock, snapshot, lifetimes]

theorem SnapshotKept.trans {first middle last : Nat} (before : first ≤ middle)
    (after : middle ≤ last) (kept : run.SnapshotKept first middle)
    (then' : run.SnapshotKept middle last) : run.SnapshotKept first last := by
  unfold SnapshotKept at *
  rw [run.requests_append before after]
  rcases then' with same | ⟨requested, moment, fetch, since, until', accepted⟩
  · rw [same]
    refine kept.imp_right fun ⟨requested, moment, fetch, since, until', accepted⟩ => ?_
    exact ⟨List.mem_append_left _ requested, moment, fetch, since,
      Nat.lt_of_lt_of_le until' after, accepted⟩
  · exact .inr ⟨List.mem_append_right _ requested, moment, fetch, before.trans since, until',
      accepted⟩

/-- An evaluation that has waited for the state ends in its next turn. -/
theorem finish_of_deciding {query : Query} {identity : Option Identity} {closes : Bool}
    {fetch : Nat} {told : Flight.Ending Fetched} {client after : Client} {move : Move}
    (moves : Flight.CallerPhase.proceed? service client
      (.woken (.deciding query identity closes) fetch told) = some (after, move)) :
    ∃ result, move = .finish result := by
  cases told with
  | ok record =>
      cases moves
      exact ⟨_, rfl⟩
  | failed error =>
      cases moves
      exact ⟨_, rfl⟩
  | cancelled => cases moves

namespace Alone

variable {caller first last : Nat}

/-- A lonely caller that ends requests nothing more, and the snapshot stays. -/
theorem ends (alone : run.Alone caller first last) (idle : run.Idle first) (order : first < last)
    {phase : Phase} {result : Except Error Answer}
    (finishes : Flight.Proceeds service (run.state first) (run.state (first + 1)) caller phase
      (.finish result)) :
    run.requests first last = [] ∧
      (run.client last).cache.snapshot = (run.client first).cache.snapshot := by
  refine ⟨alone.requests_of_finish idle finishes (Nat.le_of_lt order), ?_⟩
  rw [alone.cache_of_finish idle finishes order]
  exact (proceed_turned finishes.moves).tidied.keeps.2.1

theorem snapshotKept_of_wait {fetch : Nat} {resource : Resource} {stage : Stage}
    {told : Flight.Ending Fetched} (alone : run.Alone caller first last) (idle : run.Idle first)
    (awaits : Flight.Awaits service run.state caller resource stage fetch first told last) :
    run.SnapshotKept first last := by
  refine (alone.snapshot_of_wait idle awaits).imp_right ?_
  intro ⟨sameResource, moment, after, before, accepted⟩
  rw [alone.requests_of_wait idle awaits, sameResource]
  exact ⟨List.mem_singleton_self _, moment, fetch, after, before, accepted⟩

/-- A lonely evaluation whose identity is settled requests the state if it needs it, and nothing
more. -/
theorem decides (alone : run.Alone caller first last) (idle : run.Idle first) (order : first < last)
    {query : Query} {identity : Option Identity} {closes : Bool} {client : Client} {phase : Phase}
    {move : Move} {ending : Flight.Ending Answer}
    (proceeds : Flight.Proceeds service (run.state first) (run.state (first + 1)) caller phase move)
    (turn : client.afterIdentity query identity closes = (run.client (first + 1), move))
    (tidied : Tidied (run.client first) client)
    (finished : (run.state last).callerPhase? caller = some (.finished ending))
    (kept : ending ≠ .cancelled) :
    run.requests first last = run.stateRequests query first (.ok identity) ∧
      run.SnapshotKept first last := by
  have fresh := tidied.freshSnapshot?
  cases override : Scope.find? ⟨query.overrides, identity⟩ (.string query.key) with
  | some found =>
      have moved := afterIdentity_overridden override closes client
      rw [turn] at moved
      cases moved
      obtain ⟨requests, snapshot⟩ := alone.ends idle order proceeds
      refine ⟨?_, .inl snapshot⟩
      rw [requests, stateRequests, overridden_eq, override]
      rfl
  | none =>
      cases held : client.cache.freshSnapshot? client.now with
      | some state =>
          have moved := congrArg Prod.snd (afterIdentity_of_fresh held query identity closes)
          rw [turn, conclude_move] at moved
          cases moved
          obtain ⟨requests, snapshot⟩ := alone.ends idle order proceeds
          have holds : run.holds first .state = true :=
            Cache.holds_of_freshSnapshot (fresh.symm.trans held)
          refine ⟨?_, .inl snapshot⟩
          rw [requests, stateRequests, holds, Bool.or_true]
          rfl
      | none =>
          have stale := (Cache.freshSnapshot?_eq_none_iff _ _).mp held
          have moved := congrArg Prod.snd (afterIdentity_stale override stale closes)
          rw [turn] at moved
          cases moved
          have holds : run.holds first .state = false :=
            (Cache.freshSnapshot?_eq_none_iff _ _).mp (fresh.symm.trans held)
          obtain ⟨fetch, told, returned, before, awaits⟩ :=
            run.history.awaits_of_proceeds order proceeds finished kept
          have waits := alone.within (Nat.le_refl first) (Nat.le_of_lt before)
          have rest := alone.within (Nat.le_of_lt awaits.order) (Nat.le_refl last)
          obtain ⟨next, goesOn⟩ := awaits.goesOn
          obtain ⟨result, rfl⟩ := finish_of_deciding goesOn.moves
          obtain ⟨requests, snapshot⟩ :=
            rest.ends (waits.idle_returned idle awaits) before goesOn
          have waited := waits.snapshotKept_of_wait idle awaits
          have sooner := Nat.le_of_lt awaits.order
          refine ⟨?_, waited.trans sooner (Nat.le_of_lt before) (.inl snapshot)⟩
          rw [run.requests_append sooner (Nat.le_of_lt before), waits.requests_of_wait idle awaits,
            requests, stateRequests, overridden_eq, override, holds]
          rfl

/-- A lonely evaluation that waits for its identity and then goes on. -/
theorem matched (alone : run.Alone caller first last) (idle : run.Idle first) {query : Query}
    {closes : Bool} {name : String} {fetch returned : Nat} {told : Flight.Ending Fetched}
    {ending : Flight.Ending Answer} (named : named? query.identifier = some name)
    (stale : run.holds first (.identity name) = false)
    (awaits : Flight.Awaits service run.state caller (.identity name) (.matching query closes) fetch
      first told returned)
    (before : returned < last)
    (finished : (run.state last).callerPhase? caller = some (.finished ending))
    (kept : ending ≠ .cancelled) : ∃ settled, run.Requested query first last ending settled := by
  have order := Nat.le_of_lt awaits.order
  have waits := alone.within (Nat.le_refl first) (Nat.le_of_lt before)
  have rest := alone.within order (Nat.le_refl last)
  have idleThen := waits.idle_returned idle awaits
  have requested : run.requests first last =
      run.identityRequests query first ++ run.requests returned last := by
    rw [run.requests_append order (Nat.le_of_lt before), waits.requests_of_wait idle awaits,
      identityRequests_named named, stale]
    rfl
  have snapshot : (run.client returned).cache.snapshot = (run.client first).cache.snapshot :=
    (waits.snapshot_of_wait idle awaits).resolve_right fun accepted => nomatch accepted.1
  obtain ⟨move, goesOn⟩ := awaits.goesOn
  cases told with
  | cancelled => cases goesOn.moves
  | ok record =>
      obtain ⟨identity, rfl⟩ := identity_of_obtains (.awaited _ fetch record returned awaits)
      obtain ⟨moment, after, sooner, accepted⟩ := accepted_of_awaits awaits
      have turn : (run.client returned).afterIdentity query (some identity) closes =
          (run.client (returned + 1), move) := Option.some.inj goesOn.moves
      obtain ⟨requests, snapshotKept⟩ :=
        rest.decides idleThen before goesOn turn (.refl _) finished kept
      have holds := holds_state_of_same (waits.clock_eq order (Nat.le_refl returned)) snapshot
      refine ⟨.ok (some identity), ?_, ?_, (fun _ same => nomatch same), ?_⟩
      · exact .fetched name identity moment fetch named stale (Nat.le_of_lt after)
          (sooner.trans before) accepted
      · rw [requested, requests, stateRequests, holds]
        rfl
      · exact SnapshotKept.trans order (Nat.le_of_lt before) (.inl snapshot) snapshotKept
  | failed error =>
      have turn : (run.client returned).conclude query closes (.error error) =
          (run.client (returned + 1), move) := Option.some.inj goesOn.moves
      cases congrArg Prod.snd turn
      obtain ⟨requests, unchanged⟩ := rest.ends idleThen before goesOn
      obtain ⟨moment, after, sooner, fails⟩ := run.history.ends_of_finished awaits.order
        (unfinished_of_asks awaits) (finished_of_goesOn awaits)
      refine ⟨.error error, ?_, ?_, ?_, .inl (unchanged.trans snapshot)⟩
      · exact .failed name error moment fetch named stale (Nat.le_of_lt after)
          (sooner.trans before) fails
      · rw [requested, requests, stateRequests]
      · intro other same
        cases same
        exact ends_of_finish goesOn before finished

theorem requested (alone : run.Alone caller first last) (idle : run.Idle first)
    (order : first < last) {query : Query} {ending : Flight.Ending Answer}
    (begins : run.BeginsAt caller query first)
    (listed : Entries.contains (.string query.key) (run.client first).cache.snapshot.flags = true)
    (finished : (run.state last).callerPhase? caller = some (.finished ending))
    (kept : ending ≠ .cancelled) : ∃ settled, run.Requested query first last ending settled := by
  obtain ⟨phase, closes, move, opens, proceeds⟩ := begins
  obtain ⟨client, now, cache, turn⟩ := opens.evaluates
  have evaluated : client.evaluate query closes = (run.client (first + 1), move) :=
    Option.some.inj (turn.symm.trans proceeds.moves)
  rw [← cache] at listed
  cases named : named? query.identifier with
  | none =>
      rw [evaluate_known listed (.unnamed named), resolve_unnamed named] at evaluated
      obtain ⟨requests, snapshot⟩ :=
        alone.decides idle order proceeds evaluated ⟨now, .inl cache⟩ finished kept
      refine ⟨.ok none, .unnamed named, ?_, (fun _ same => nomatch same), snapshot⟩
      rw [requests, identityRequests_unnamed named]
      rfl
  | some name =>
      cases fresh : client.cache.freshIdentity? client.now name with
      | some identity =>
          rw [evaluate_known listed (.fresh name identity named fresh),
            resolve_fresh named fresh] at evaluated
          have swept : Tidied (run.client first) (client.sweep client.now (some name)) := by
            refine ⟨(sweep_now ..).trans now, .inr ⟨some name, ?_⟩⟩
            rw [sweep_cache, now, cache]
          obtain ⟨requests, snapshot⟩ :=
            alone.decides idle order proceeds evaluated swept finished kept
          rw [now, cache] at fresh
          have holds : run.holds first (.identity name) = true :=
            Cache.holds_of_freshIdentity fresh
          refine ⟨.ok (some identity), .cached name identity named fresh, ?_,
            (fun _ same => nomatch same), snapshot⟩
          rw [requests, identityRequests_named named, holds]
          rfl
      | none =>
          have stale := (Cache.freshIdentity?_eq_none_iff _ _ _).mp fresh
          rw [evaluate_stale listed named stale] at evaluated
          cases congrArg Prod.snd evaluated
          rw [now, cache] at stale
          obtain ⟨fetch, told, returned, before, awaits⟩ :=
            run.history.awaits_of_proceeds order proceeds finished kept
          exact alone.matched idle named stale awaits before finished kept

/-- A lonely evaluation of a key that is not listed fails at once and requests nothing. -/
theorem unlisted (alone : run.Alone caller first last) (idle : run.Idle first)
    (order : first < last) {query : Query} (begins : run.BeginsAt caller query first)
    (absent : Entries.contains (.string query.key)
      (run.client first).cache.snapshot.flags = false) :
    run.requests first last = [] ∧ (run.client last).cache = (run.client first).cache := by
  obtain ⟨phase, closes, move, opens, proceeds⟩ := begins
  obtain ⟨client, now, cache, turn⟩ := opens.evaluates
  have evaluated : client.evaluate query closes = (run.client (first + 1), move) :=
    Option.some.inj (turn.symm.trans proceeds.moves)
  rw [evaluate_unlisted (cache ▸ absent)] at evaluated
  cases congrArg Prod.snd evaluated
  refine ⟨alone.requests_of_finish idle proceeds (Nat.le_of_lt order), ?_⟩
  have concluded := congrArg (fun next => next.1.cache) evaluated
  rw [alone.cache_of_finish idle proceeds order, ← concluded, ← cache]
  exact conclude_cache ..

end Alone

/-- An evaluation that runs alone while no fetch is under way: a key that is not listed makes it
fail at once, with nothing requested and the caches as they were.  Else it ends once all that it has
requested has been answered, and it has requested the identity if that was not fresh and then the
state if that was needed. -/
theorem evaluation_requests (run : Run) {caller begun ended : Nat} {query : Query}
    (begins : run.BeginsAt caller query begun) (idle : run.Idle begun) (order : begun < ended)
    (alone : run.Alone caller begun ended) :
    (Entries.contains (.string query.key) (run.client begun).cache.snapshot.flags = false →
      (run.state (begun + 1)).callerPhase? caller =
          some (.finished (.failed (.flagNotFound (.string query.key)))) ∧
        run.requests begun ended = [] ∧ (run.client ended).cache = (run.client begun).cache) ∧
    (Entries.contains (.string query.key) (run.client begun).cache.snapshot.flags = true →
      ((run.state ended).isQuiet = true →
        (∀ fetch, (run.state ended).fetchPhase? fetch ≠ some .waiting) →
          ∃ ending, (run.state ended).callerPhase? caller = some (.finished ending)) ∧
      ∀ ending, (run.state ended).callerPhase? caller = some (.finished ending) →
        ending ≠ .cancelled ∧ ∃ settled, run.Requested query begun ended ending settled) := by
  constructor
  · intro absent
    exact ⟨finished_of_unlisted begins absent, alone.unlisted idle order begins absent⟩
  · intro listed
    obtain ⟨phase, closes, move, -, proceeds⟩ := id begins
    have steadfast := alone.steadfast idle proceeds (Nat.le_of_lt order) (Nat.le_refl ended)
    constructor
    · intro quiet replied
      obtain ⟨ending, finished, -⟩ :=
        steadfast.finished (run.history.orderly ended).attended quiet replied
      exact ⟨ending, finished⟩
    · intro ending finished
      have kept : ending ≠ .cancelled := by
        rintro rfl
        exact steadfast.ended finished
      exact ⟨kept, alone.requested idle order begins listed finished kept⟩

/-! ## One run -/

theorem idle_of_checks {moment : Nat}
    (closed : ∀ fetch < (run.state moment).fetches.length,
      (run.state moment).isOpen fetch = false) : run.Idle moment := by
  intro resource fetch unfinished
  obtain ⟨found, present, -⟩ := Option.map_eq_some_iff.mp unfinished
  have inRange := (List.getElem?_eq_some_iff.mp present).1
  have isOpen := (run.state moment).isOpen_of_unfinished unfinished
  rw [closed fetch inRange] at isOpen
  cases isOpen

theorem Idle.not_waiting {moment : Nat} (idle : run.Idle moment) (fetch : Nat) :
    (run.state moment).fetchPhase? fetch ≠ some .waiting := by
  intro waiting
  obtain ⟨found, present, phase⟩ := Option.map_eq_some_iff.mp waiting
  refine idle found.key fetch (Option.map_eq_some_iff.mpr ⟨found, present, ?_⟩)
  rw [phase]
  rfl

def lonely : Run where
  host := "flags.test"
  now := .ofInt 0
  lifetimes := .usual
  linked := true
  steps := [
    .move (.call (.start (.refresh .refresh)) false),
    .move (.turn none),
    .move (.turn (some (.ok (oneFlag true)))),
    .move (.turn none),
    .move (.turn none),
    .move (.turn none),
    .clock (.ofInt 61),
    .move (.call (.start (.evaluate ⟨"dark", some "ada", []⟩)) false),
    .move (.turn none),
    .move (.turn none),
    .move (.answer 1 (.ok (.object [("overrides", .object [])]))),
    .move (.turn none),
    .move (.turn none),
    .move (.turn none),
    .move (.turn none),
    .move (.turn (some (.ok (oneFlag false)))),
    .move (.turn none),
    .move (.turn none),
    .move (.turn none)]

theorem lonely_alone : lonely.Alone 1 8 19 where
  plain moment after before taken present := by
    interval_cases moment <;> cases present <;> constructor
  others moment after before other phase move proceeds := by
    have heads : ∀ moment < 19, 8 ≤ moment → ∀ due ∈ (lonely.state moment).agenda.head?,
        due ≠ .caller 1 → due ∈ [.fetch 1, .forget 1, .deliver 1 1, .fetch 2, .forget 2,
          .deliver 2 1] := by decide +kernel
    by_contra apart
    have member := heads moment before after _ proceeds.turn fun same =>
      apart (Flight.Turn.caller.inj same)
    simp at member

theorem evaluation_requests_lonely :
    lonely.BeginsAt 1 ⟨"dark", some "ada", []⟩ 8 ∧ lonely.Idle 8 ∧ 8 < 19 ∧
      lonely.Alone 1 8 19 ∧
      Entries.contains (.string "dark") (lonely.client 8).cache.snapshot.flags = true ∧
      (lonely.state 19).isQuiet = true ∧
      (∀ fetch, (lonely.state 19).fetchPhase? fetch ≠ some .waiting) ∧
      lonely.requests 8 19 = [.identity "ada", .state] ∧
      ∃ ending settled, (lonely.state 19).callerPhase? 1 = some (.finished ending) ∧
        lonely.Requested ⟨"dark", some "ada", []⟩ 8 19 ending settled := by
  have begins : lonely.BeginsAt 1 ⟨"dark", some "ada", []⟩ 8 :=
    lonely.beginsAt_of_call rfl rfl (by decide +kernel) (by decide +kernel)
  have idle : lonely.Idle 8 := idle_of_checks (by decide +kernel)
  have idleThen : lonely.Idle 19 := idle_of_checks (by decide +kernel)
  have listed : Entries.contains (.string "dark") (lonely.client 8).cache.snapshot.flags = true :=
    by decide +kernel
  have quiet : (lonely.state 19).isQuiet = true := by decide +kernel
  obtain ⟨ends, requested⟩ :=
    (evaluation_requests lonely begins idle (by decide) lonely_alone).2 listed
  obtain ⟨ending, finished⟩ := ends quiet idleThen.not_waiting
  obtain ⟨-, settled, requests⟩ := requested ending finished
  exact ⟨begins, idle, by decide, lonely_alone, listed, quiet, idleThen.not_waiting,
    by decide +kernel, ending, settled, finished, requests⟩

end Run

end FeatureFlags.Client
