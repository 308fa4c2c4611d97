import FeatureFlags.Proofs.Client.AtHand

/-!
# What an evaluation leaves behind

While the clock stands still and nothing is accepted but what an evaluation itself waits for, the
records that it has used stay in the caches (`Underway.succ`).  So when it has ended with a value,
this value could be given again from what is cached (`yields_of_answered`).
-/

set_option autoImplicit false

namespace FeatureFlags.Client.Run

variable (run : Run)

/-- From the moment at which an evaluation of a caller begins up to another, the clock stands still,
no sweep is asked for, and no fetch is accepted but those that the caller itself waits for. -/
structure AtOnce (caller begun again : Nat) : Prop where
  clock : ∀ moment, begun ≤ moment → moment ≤ again → run.clock moment = run.clock begun
  unswept : ∀ moment now keep, begun ≤ moment → moment < again →
    run.steps[moment]? ≠ some (.sweep now keep)
  own : ∀ moment resource fetch record, begun ≤ moment → moment < again →
    run.Accepted moment resource fetch record →
      ∃ stage, Flight.OnHold (run.state moment) caller stage fetch

/-- A fetch is under way, or it has ended; if it has ended with a record, that is cached and
fresh. -/
def Brings (moment : Nat) (resource : Resource) (fetch : Nat) : Prop :=
  (run.state moment).Unfinished resource fetch ∨
    ∃ ending, (run.state moment).fetchPhase? fetch = some (.finished ending) ∧
      ∀ record, ending = .ok record → (run.client moment).fresh? resource = some record

/-- How far an evaluation has come after its first turn, with what it leaves in the caches. -/
inductive Underway (caller : Nat) (query : Query) (moment : Nat) : Prop where
  | matching (closes : Bool) (name : String) (fetch : Nat)
      (named : named? query.identifier = some name)
      (listed : Entries.contains (.string query.key)
        (run.client moment).cache.snapshot.flags = true)
      (spared : Spared (run.client moment) query.identifier)
      (onHold : Flight.OnHold (run.state moment) caller (.matching query closes) fetch)
      (brings : run.Brings moment (.identity name) fetch)
  | deciding (closes : Bool) (identity : Option Identity) (fetch : Nat)
      (known : Known (run.client moment) query.identifier identity)
      (spared : Spared (run.client moment) query.identifier)
      (openEnded : Scope.find? ⟨query.overrides, identity⟩ (.string query.key) = none)
      (onHold : Flight.OnHold (run.state moment) caller (.deciding query identity closes) fetch)
      (brings : run.Brings moment .state fetch)
  | answered (value : Value)
      (finished : (run.state moment).callerPhase? caller =
        some (.finished (.ok (.value value))))
      (spared : Spared (run.client moment) query.identifier)
      (yields : Yields (run.client moment) query value)
  | failed (never : ∀ later value, moment ≤ later →
      (run.state later).callerPhase? caller ≠ some (.finished (.ok (.value value))))

variable {run}

theorem AtOnce.tidied {caller begun again moment : Nat} (atOnce : run.AtOnce caller begun again)
    (after : begun ≤ moment) (before : moment < again)
    (unaccepted : ∀ resource fetch record, ¬ run.Accepted moment resource fetch record) :
    Tidied (run.client moment) (run.client (moment + 1)) := by
  cases run.change moment with
  | tidied tidied => exact tidied
  | clocked now client =>
      have first := atOnce.clock moment after (Nat.le_of_lt before)
      have second := atOnce.clock (moment + 1) (Nat.le_succ_of_le after) before
      refine ⟨second.trans first.symm, .inl ?_⟩
      rw [client]
  | swept now keep present client => exact absurd present (atOnce.unswept moment now keep after before)
  | accepted resource fetch record accepted => exact absurd accepted (unaccepted _ _ _)

/-- What is accepted is fresh if a record is fresh at the very time at which it is made. -/
theorem fresh?_of_accepted {moment fetch : Nat} {resource : Resource} {record : Fetched}
    (accepted : run.Accepted moment resource fetch record)
    (young : isFresh (run.clock moment) (run.clock moment) (run.lifetimes.of resource) = true) :
    (run.client (moment + 1)).fresh? resource = some record := by
  obtain ⟨lifetimes, tidy⟩ := run.cache_wellFormed moment
  obtain ⟨data, decoded, tidied⟩ := accepted.decoded
  refine tidied.fresh? (keep_tidy tidy) ?_
  rcases decode_eq_ok decoded with
    ⟨rfl, snapshot, rfl, made⟩ | ⟨name, identity, rfl, rfl, made⟩
  · have stamped := refreshedAt_of_decode made
    have fresh : ((run.client moment).cache.withSnapshot snapshot).isStateFresh (run.clock moment) =
        true := by
      unfold Cache.isStateFresh Cache.withSnapshot
      rw [stamped, Option.any_some, lifetimes]
      exact young
    exact congrArg (Option.map Fetched.state) (if_pos fresh)
  · obtain ⟨sameName, stamped⟩ := identity_of_decode made
    have cached : ((run.client moment).cache.withIdentity identity).identity? name =
        some identity := by
      rw [Cache.identity?, Cache.withIdentity, Entries.lookup_put, sameName]
      simp
    have fresh : ((run.client moment).cache.withIdentity identity).isIdentityFresh
        (run.clock moment) identity = true := by
      unfold Cache.isIdentityFresh Cache.withIdentity
      rw [stamped, lifetimes]
      exact young
    exact congrArg (Option.map Fetched.identity) (Option.filter_eq_some_iff.mpr ⟨cached, fresh⟩)

/-! ## From one moment to the next -/

/-- What is accepted while a caller is on hold is the fetch that it waits for. -/
theorem AtOnce.held {caller begun again moment fetch other : Nat} {stage : Stage}
    {resource : Resource} {record : Fetched} (atOnce : run.AtOnce caller begun again)
    (after : begun ≤ moment) (before : moment < again)
    (onHold : Flight.OnHold (run.state moment) caller stage fetch)
    (accepted : run.Accepted moment resource other record) : other = fetch := by
  obtain ⟨otherStage, otherHold⟩ := atOnce.own moment resource other record after before accepted
  have same : ∀ {phase : Phase}, (run.state moment).callerPhase? caller = some phase →
      some (otherStage, other) = some (stage, fetch) := by
    intro phase present
    exact (otherHold.held? present).symm.trans (onHold.held? present)
  rcases onHold with waiting | ⟨ending, woken⟩
  · exact congrArg Prod.snd (Option.some.inj (same waiting))
  · exact congrArg Prod.snd (Option.some.inj (same woken))

theorem Brings.fresh? {moment fetch : Nat} {resource : Resource} {ending : Flight.Ending Fetched}
    (brings : run.Brings moment resource fetch)
    (told : (run.state moment).fetchPhase? fetch = some (.finished ending)) :
    ∀ record, ending = .ok record → (run.client moment).fresh? resource = some record := by
  rcases brings with unfinished | ⟨other, finished, fresh⟩
  · exact (Flight.not_finished_of_unfinished unfinished told).elim
  · cases finished.symm.trans told
    exact fresh

theorem Brings.unfinished {moment fetch : Nat} {resource other : Resource} {record : Fetched}
    (brings : run.Brings moment resource fetch)
    (accepted : run.Accepted moment other fetch record) :
    (run.state moment).Unfinished resource fetch ∧ other = resource := by
  obtain ⟨reply, accepts⟩ := accepted
  rcases brings with unfinished | ⟨ending, finished, -⟩
  · have status := accepts.unfinished.symm.trans unfinished
    exact ⟨unfinished, congrArg Prod.fst (Option.some.inj status)⟩
  · exact (Flight.not_finished_of_unfinished accepts.unfinished finished).elim

theorem Brings.succ {caller begun again moment fetch : Nat} {stage : Stage} {resource : Resource}
    (atOnce : run.AtOnce caller begun again) (after : begun ≤ moment) (before : moment < again)
    (young : isFresh (run.clock moment) (run.clock moment) (run.lifetimes.of resource) = true)
    (onHold : Flight.OnHold (run.state moment) caller stage fetch)
    (brings : run.Brings moment resource fetch) : run.Brings (moment + 1) resource fetch := by
  have next := run.history.next moment
  rcases brings with unfinished | ⟨ending, finished, taken⟩
  · rcases next.unfinished unfinished with stays | ⟨ending, finished⟩
    · exact .inl stays
    · refine .inr ⟨ending, finished, ?_⟩
      rintro record rfl
      obtain ⟨reply, accepts⟩ := next.accepts unfinished finished
      exact fresh?_of_accepted ⟨reply, accepts⟩ young
  · refine .inr ⟨ending, next.fetchPhase?_finished finished, fun record brought => ?_⟩
    have tidied : Tidied (run.client moment) (run.client (moment + 1)) := by
      refine atOnce.tidied after before fun other otherFetch otherRecord accepted => ?_
      obtain rfl := atOnce.held after before onHold accepted
      obtain ⟨reply, accepts⟩ := accepted
      exact Flight.not_finished_of_unfinished accepts.unfinished finished
    exact tidied.fresh? (run.cache_wellFormed moment).2 (taken record brought)

theorem failed_of_finished {caller moment : Nat} {query : Query} {ending : Flight.Ending Answer}
    (finished : (run.state moment).callerPhase? caller = some (.finished ending))
    (noValue : ∀ value, ending ≠ .ok (.value value)) : run.Underway caller query moment := by
  refine .failed fun later value order answered => ?_
  have still := run.history.callerPhase?_finished order finished
  cases still.symm.trans answered
  exact noValue value rfl

theorem failed_of_leaving {caller moment : Nat} {query : Query} {reached : Option Stage}
    (leaving : (run.state moment).callerPhase? caller = some (.leaving reached)) :
    run.Underway caller query moment := by
  refine .failed fun later value order answered => ?_
  cases run.history.ending_of_leaving order leaving answered

theorem brings_of_asks {caller moment : Nat} {phase : Phase} {resource : Resource} {stage : Stage}
    (asks : Flight.Proceeds service (run.state moment) (run.state (moment + 1)) caller phase
      (.await resource stage)) :
    ∃ fetch, Flight.OnHold (run.state (moment + 1)) caller stage fetch ∧
      run.Brings (moment + 1) resource fetch := by
  obtain ⟨fetch, found, waiting, present, sameKey, unfinished, -⟩ := asks.reached
  refine ⟨fetch, .inl waiting, .inl ?_⟩
  exact Option.map_eq_some_iff.mpr ⟨found, present, by rw [sameKey, unfinished]⟩

/-- A turn in which the identity has become known ends the evaluation, or it goes to wait for the
state. -/
theorem underway_of_afterIdentity {caller moment : Nat} {query : Query} {phase : Phase}
    {move : Move} {client : Client} {identity : Option Identity} {closes : Bool}
    (proceeds : Flight.Proceeds service (run.state moment) (run.state (moment + 1)) caller phase
      move)
    (turn : client.afterIdentity query identity closes = (run.client (moment + 1), move))
    (known : Known client query.identifier identity) (spared : Spared client query.identifier)
    (listed : Entries.contains (.string query.key) client.cache.snapshot.flags = true) :
    run.Underway caller query (moment + 1) := by
  have now : (run.client (moment + 1)).now = client.now := by
    have tidied := (afterIdentity_turned (.refl client) query identity closes).tidied
    rw [turn] at tidied
    exact tidied.now
  have cache : (run.client (moment + 1)).cache = client.cache := by
    have same := client.afterIdentity_cache query identity closes
    rw [turn] at same
    exact same
  have knownStill : Known (run.client (moment + 1)) query.identifier identity :=
    known.of_same now fun name named => by rw [cache]
  have sparedStill : Spared (run.client (moment + 1)) query.identifier := by
    intro name named
    rw [now, cache]
    exact spared name named
  cases override : Scope.find? ⟨query.overrides, identity⟩ (.string query.key) with
  | some found =>
      have moved := afterIdentity_overridden override closes client
      rw [turn] at moved
      cases moved
      exact .answered found.1 proceeds.reached sparedStill
        (.overridden identity found.2 knownStill (cache ▸ listed) override)
  | none =>
      cases fresh : client.cache.freshSnapshot? client.now with
      | none =>
          have stale := (Cache.freshSnapshot?_eq_none_iff _ _).mp fresh
          have moved := congrArg Prod.snd (afterIdentity_stale override stale closes)
          rw [turn] at moved
          cases moved
          obtain ⟨fetch, onHold, brings⟩ := brings_of_asks proceeds
          exact .deciding closes identity fetch knownStill sparedStill override onHold brings
      | some snapshot =>
          have moved := congrArg Prod.snd (afterIdentity_of_fresh fresh query identity closes)
          rw [turn, conclude_move, FeatureFlags.resolve, override] at moved
          cases moved
          have freshStill : (run.client (moment + 1)).cache.freshSnapshot?
              (run.client (moment + 1)).now = some snapshot := by
            rw [now, cache]
            exact fresh
          cases decides : snapshot.evaluate query.key ⟨query.overrides, identity⟩ with
          | ok found =>
              have ended := proceeds.reached
              rw [decides] at ended
              exact .answered found.1 ended sparedStill
                (.decided identity snapshot found.2 knownStill override freshStill decides)
          | error error =>
              have ended := proceeds.reached
              rw [decides] at ended
              exact failed_of_finished ended nofun

theorem underway_of_begins {caller begun : Nat} {query : Query}
    (begins : run.BeginsAt caller query begun) : run.Underway caller query (begun + 1) := by
  obtain ⟨phase, closes, move, begins, proceeds⟩ := begins
  obtain ⟨client, now, cache, turn⟩ := begins.evaluates
  have evaluated : client.evaluate query closes = (run.client (begun + 1), move) :=
    Option.some.inj (turn.symm.trans proceeds.moves)
  cases listed : Entries.contains (.string query.key) client.cache.snapshot.flags with
  | false =>
      have moved := congrArg Prod.snd evaluated
      rw [evaluate_unlisted listed] at moved
      cases moved
      exact failed_of_finished proceeds.reached nofun
  | true =>
      cases named : named? query.identifier with
      | none =>
          have known : Known client query.identifier none := .unnamed named
          have spared : Spared client query.identifier := by
            intro name other
            cases named.symm.trans other
          rw [evaluate_known listed known, resolve_unnamed named] at evaluated
          exact underway_of_afterIdentity proceeds evaluated known spared listed
      | some name =>
          have spared : Spared (client.sweep client.now (some name)) query.identifier :=
            Spared.sweep query.identifier named
          have sweptListed : Entries.contains (.string query.key)
              (client.sweep client.now (some name)).cache.snapshot.flags = true := by
            rw [sweep_cache]
            exact listed
          cases fresh : client.cache.freshIdentity? client.now name with
          | some identity =>
              have known : Known client query.identifier (some identity) :=
                .fresh name identity named fresh
              have sweptKnown : Known (client.sweep client.now (some name)) query.identifier
                  (some identity) := by
                refine .fresh name identity named ?_
                rw [sweep_now, sweep_cache, freshIdentity?_sweep]
                exact fresh
              rw [evaluate_known listed known, resolve_fresh named fresh] at evaluated
              exact underway_of_afterIdentity proceeds evaluated sweptKnown spared sweptListed
          | none =>
              have stale := (Cache.freshIdentity?_eq_none_iff _ _ _).mp fresh
              rw [evaluate_stale listed named stale] at evaluated
              cases congrArg Prod.snd evaluated
              have swept : client.sweep client.now (some name) = run.client (begun + 1) :=
                congrArg Prod.fst evaluated
              obtain ⟨fetch, onHold, brings⟩ := brings_of_asks proceeds
              rw [swept] at spared sweptListed
              exact .matching closes name fetch named sweptListed spared onHold brings

theorem AtOnce.tidied_or_accepted {caller begun again moment fetch : Nat} {stage : Stage}
    {resource : Resource} (atOnce : run.AtOnce caller begun again) (after : begun ≤ moment)
    (before : moment < again) (onHold : Flight.OnHold (run.state moment) caller stage fetch)
    (brings : run.Brings moment resource fetch) :
    Tidied (run.client moment) (run.client (moment + 1)) ∨
      ∃ record, run.Accepted moment resource fetch record := by
  by_cases any : ∃ other otherFetch record, run.Accepted moment other otherFetch record
  · obtain ⟨other, otherFetch, record, accepted⟩ := any
    obtain rfl := atOnce.held after before onHold accepted
    obtain ⟨-, rfl⟩ := brings.unfinished accepted
    exact .inr ⟨record, accepted⟩
  · exact .inl (atOnce.tidied after before fun other otherFetch record accepted =>
      any ⟨other, otherFetch, record, accepted⟩)

/-- An identity that is accepted leaves the snapshot, and a look-up of it still drops nothing. -/
theorem matching_of_accepted {moment fetch : Nat} {name : String} {record : Fetched}
    {query : Query} (accepted : run.Accepted moment (.identity name) fetch record)
    (named : named? query.identifier = some name)
    (listed : Entries.contains (.string query.key) (run.client moment).cache.snapshot.flags = true)
    (spared : Spared (run.client moment) query.identifier) :
    Entries.contains (.string query.key) (run.client (moment + 1)).cache.snapshot.flags = true ∧
      Spared (run.client (moment + 1)) query.identifier := by
  obtain ⟨data, decoded, tidied⟩ := accepted.decoded
  rcases decode_eq_ok decoded with ⟨other, -⟩ | ⟨other, identity, same, rfl, made⟩
  · cases other
  · cases same
    refine ⟨?_, tidied.spared fun other otherNamed => ?_⟩
    · rw [tidied.keeps.2.1]
      exact listed
    · cases named.symm.trans otherNamed
      have old := spared name named
      rw [← (identity_of_decode made).1] at old ⊢
      exact Cache.sweep_withIdentity old

/-- A state that is accepted leaves what is known of an identity. -/
theorem deciding_of_accepted {moment fetch : Nat} {record : Fetched} {query : Query}
    {identity : Option Identity} (accepted : run.Accepted moment .state fetch record)
    (known : Known (run.client moment) query.identifier identity)
    (spared : Spared (run.client moment) query.identifier) :
    Known (run.client (moment + 1)) query.identifier identity ∧
      Spared (run.client (moment + 1)) query.identifier := by
  obtain ⟨data, decoded, tidied⟩ := accepted.decoded
  rcases decode_eq_ok decoded with ⟨-, snapshot, rfl, -⟩ | ⟨name, identity, other, -⟩
  · refine ⟨tidied.known (run.cache_wellFormed moment).2 ?_, tidied.spared fun name named => ?_⟩
    · exact known.of_same rfl fun name named => rfl
    · exact congrArg (Cache.withSnapshot snapshot) (spared name named)
  · cases other

/-- An evaluation that goes on with the ending of its fetch of the identity. -/
theorem underway_of_matched {caller moment fetch : Nat} {query : Query} {closes : Bool}
    {name : String} {ending : Flight.Ending Fetched} {move : Move}
    (proceeds : Flight.Proceeds service (run.state moment) (run.state (moment + 1)) caller
      (.woken (.matching query closes) fetch ending) move)
    (named : named? query.identifier = some name)
    (listed : Entries.contains (.string query.key) (run.client moment).cache.snapshot.flags = true)
    (spared : Spared (run.client moment) query.identifier)
    (brought : ∀ record, ending = .ok record →
      (run.client moment).fresh? (.identity name) = some record) :
    run.Underway caller query (moment + 1) := by
  cases ending with
  | cancelled => cases proceeds.moves
  | failed error =>
      have turn : (run.client moment).resume (.matching query closes) (.error error) =
          (run.client (moment + 1), move) := Option.some.inj proceeds.moves
      cases congrArg Prod.snd turn
      exact failed_of_finished proceeds.reached nofun
  | ok record =>
      obtain ⟨identity, fresh, rfl⟩ := Option.map_eq_some_iff.mp (brought record rfl)
      have turn : (run.client moment).afterIdentity query (some identity) closes =
          (run.client (moment + 1), move) := Option.some.inj proceeds.moves
      exact underway_of_afterIdentity proceeds turn (.fresh name identity named fresh) spared listed

/-- An evaluation that goes on with the ending of its fetch of the state. -/
theorem underway_of_decided {caller moment fetch : Nat} {query : Query} {closes : Bool}
    {identity : Option Identity} {ending : Flight.Ending Fetched} {move : Move}
    (proceeds : Flight.Proceeds service (run.state moment) (run.state (moment + 1)) caller
      (.woken (.deciding query identity closes) fetch ending) move)
    (known : Known (run.client moment) query.identifier identity)
    (spared : Spared (run.client moment) query.identifier)
    (openEnded : Scope.find? ⟨query.overrides, identity⟩ (.string query.key) = none)
    (brought : ∀ record, ending = .ok record →
      (run.client moment).fresh? .state = some record) :
    run.Underway caller query (moment + 1) := by
  cases ending with
  | cancelled => cases proceeds.moves
  | failed error =>
      have turn : (run.client moment).resume (.deciding query identity closes) (.error error) =
          (run.client (moment + 1), move) := Option.some.inj proceeds.moves
      cases congrArg Prod.snd turn
      exact failed_of_finished proceeds.reached nofun
  | ok record =>
      obtain ⟨snapshot, fresh, rfl⟩ := Option.map_eq_some_iff.mp (brought record rfl)
      have turn : (run.client moment).conclude query closes
          (snapshot.evaluate query.key ⟨query.overrides, identity⟩) =
            (run.client (moment + 1), move) := Option.some.inj proceeds.moves
      have tidied := (proceed_turned proceeds.moves).tidied
      cases congrArg Prod.snd turn
      have ended := proceeds.reached
      cases decides : snapshot.evaluate query.key ⟨query.overrides, identity⟩ with
      | error error =>
          rw [decides] at ended
          exact failed_of_finished ended nofun
      | ok found =>
          rw [decides] at ended
          exact .answered found.1 ended (tidied.spared spared)
            (.decided identity snapshot found.2
              (tidied.known (run.cache_wellFormed moment).2 known) openEnded
              (tidied.freshSnapshot?.trans fresh) decides)

theorem Underway.succ {caller begun again moment : Nat} {query : Query}
    (atOnce : run.AtOnce caller begun again) (after : begun ≤ moment) (before : moment < again)
    (young : ∀ resource, isFresh (run.clock moment) (run.clock moment)
      (run.lifetimes.of resource) = true)
    (underway : run.Underway caller query moment) : run.Underway caller query (moment + 1) := by
  obtain ⟨registered, attended⟩ := run.history.orderly moment
  have tidy := (run.cache_wellFormed moment).2
  -- A caller on hold stays there, leaves, or goes on with the ending that it has been told of.
  cases underway with
  | matching closes name fetch named listed spared onHold brings =>
      rcases (run.history.next moment).onHold registered onHold with
        stays | ⟨-, reached, leaving⟩ | ⟨ending, -, woken, ⟨-, cancelled⟩ | ⟨move, proceeds⟩⟩
      · have still := brings.succ atOnce after before (young _) onHold
        rcases atOnce.tidied_or_accepted after before onHold brings with
          tidied | ⟨record, accepted⟩
        · refine .matching closes name fetch named ?_ (tidied.spared spared) stays still
          rw [tidied.keeps.2.1]
          exact listed
        · obtain ⟨listed, spared⟩ := matching_of_accepted accepted named listed spared
          exact .matching closes name fetch named listed spared stays still
      · exact failed_of_leaving leaving
      · exact failed_of_finished cancelled nofun
      · have told := attended.told caller _ fetch ending woken
        exact underway_of_matched proceeds named listed spared (brings.fresh? told)
  | deciding closes identity fetch known spared openEnded onHold brings =>
      rcases (run.history.next moment).onHold registered onHold with
        stays | ⟨-, reached, leaving⟩ | ⟨ending, -, woken, ⟨-, cancelled⟩ | ⟨move, proceeds⟩⟩
      · have still := brings.succ atOnce after before (young _) onHold
        rcases atOnce.tidied_or_accepted after before onHold brings with
          tidied | ⟨record, accepted⟩
        · exact .deciding closes identity fetch (tidied.known tidy known) (tidied.spared spared)
            openEnded stays still
        · obtain ⟨known, spared⟩ := deciding_of_accepted accepted known spared
          exact .deciding closes identity fetch known spared openEnded stays still
      · exact failed_of_leaving leaving
      · exact failed_of_finished cancelled nofun
      · have told := attended.told caller _ fetch ending woken
        exact underway_of_decided proceeds known spared openEnded (brings.fresh? told)
  | answered value finished spared yields =>
      have tidied : Tidied (run.client moment) (run.client (moment + 1)) := by
        refine atOnce.tidied after before fun resource fetch record accepted => ?_
        obtain ⟨stage, onHold⟩ := atOnce.own moment resource fetch record after before accepted
        cases onHold.held? finished
      exact .answered value (run.history.callerPhase?_finished (Nat.le_succ moment) finished)
        (tidied.spared spared) (tidied.yields tidy yields)
  | failed never =>
      exact .failed fun later value order => never later value (Nat.le_of_succ_le order)

/-- An evaluation that has ended with a value could give that value again from what is cached. -/
theorem yields_of_answered {caller begun again : Nat} {query : Query} {value : Value}
    (young : ∀ moment, begun ≤ moment → moment < again → ∀ resource,
      isFresh (run.clock moment) (run.clock moment) (run.lifetimes.of resource) = true)
    (begins : run.BeginsAt caller query begun) (order : begun < again)
    (atOnce : run.AtOnce caller begun again)
    (answered : (run.state again).callerPhase? caller = some (.finished (.ok (.value value)))) :
    Spared (run.client again) query.identifier ∧ Yields (run.client again) query value := by
  suffices underway : ∀ moment, begun < moment → moment ≤ again →
      run.Underway caller query moment by
    cases underway again order (Nat.le_refl again) with
    | matching closes name fetch named listed spared onHold brings =>
        cases onHold.held? answered
    | deciding closes identity fetch known spared openEnded onHold brings =>
        cases onHold.held? answered
    | answered given finished spared yields =>
        cases finished.symm.trans answered
        exact ⟨spared, yields⟩
    | failed never => exact absurd answered (never again value (Nat.le_refl again))
  intro moment after
  induction after with
  | refl => exact fun _ => underway_of_begins begins
  | @step moment after inductionHypothesis =>
      intro before
      have begunBefore : begun ≤ moment := Nat.le_of_succ_le after
      exact (inductionHypothesis (Nat.le_of_succ_le before)).succ atOnce begunBefore before
        (young moment begunBefore before)

end FeatureFlags.Client.Run
