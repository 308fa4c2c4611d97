import FeatureFlags.Proofs.Client.Evaluation
import FeatureFlags.Proofs.Flight.Sharing

/-!
# What a turn looks up and what it needs

A turn of a call looks up at most one identifier, and that is all it does to the caches
(`LooksUp`).  It cannot go on without a resource of which no fresh record is cached; then it goes to
wait for just that resource (`Needs`).
-/

set_option autoImplicit false

namespace FeatureFlags.Client

/-! ## Identities at hand -/

theorem resolve_unnamed {identifier : Option String} (absent : named? identifier = none)
    (client : Client) : client.resolve identifier = (client, .known none) := by
  unfold resolve
  rw [absent]

theorem resolve_fresh {identifier : Option String} {name : String} {identity : Identity}
    {client : Client} (named : named? identifier = some name)
    (fresh : client.cache.freshIdentity? client.now name = some identity) :
    client.resolve identifier =
      (client.sweep client.now (some name), .known (some identity)) := by
  have still : (client.sweep client.now (some name)).cache.freshIdentity?
      (client.sweep client.now (some name)).now name = some identity := by
    rw [sweep_now, sweep_cache, freshIdentity?_sweep]
    exact fresh
  unfold resolve
  rw [named]
  dsimp only
  rw [still]

theorem resolve_stale {identifier : Option String} {name : String} {client : Client}
    (named : named? identifier = some name)
    (stale : client.cache.holds client.now (.identity name) = false) :
    client.resolve identifier = (client.sweep client.now (some name), .missing name) := by
  have still : (client.sweep client.now (some name)).cache.freshIdentity?
      (client.sweep client.now (some name)).now name = none := by
    rw [sweep_now, sweep_cache, freshIdentity?_sweep]
    exact (Cache.freshIdentity?_eq_none_iff _ _ _).mpr stale
  unfold resolve
  rw [named]
  dsimp only
  rw [still]

/-- A look-up sweeps the caches, sparing its identifier, whatever it finds. -/
theorem resolve_cache {identifier : Option String} {name : String}
    (named : named? identifier = some name) (client : Client) :
    (client.resolve identifier).1.cache = client.cache.sweep client.now (some name) := by
  cases fresh : client.cache.freshIdentity? client.now name with
  | some identity => rw [resolve_fresh named fresh, sweep_cache]
  | none =>
      rw [resolve_stale named ((Cache.freshIdentity?_eq_none_iff _ _ _).mp fresh), sweep_cache]

theorem resolve_of_known {identifier : Option String} {identity : Option Identity}
    {client : Client} (known : Known client identifier identity) :
    client.resolve identifier = ((client.resolve identifier).1, .known identity) := by
  cases known with
  | unnamed absent => rw [resolve_unnamed absent]
  | fresh name identity named fresh => rw [resolve_fresh named fresh]

theorem identify_stale {identifier : Option String} {name : String} {client : Client}
    (named : named? identifier = some name)
    (stale : client.cache.holds client.now (.identity name) = false) :
    client.identify identifier =
      (client.sweep client.now (some name), .await (.identity name) .identifying) := by
  unfold identify
  rw [resolve_stale named stale]

/-! ## The first turn of an evaluation -/

theorem evaluate_unlisted {query : Query} {client : Client}
    (absent : Entries.contains (.string query.key) client.cache.snapshot.flags = false)
    (closes : Bool) :
    client.evaluate query closes =
      client.conclude query closes (.error (.flagNotFound (.string query.key))) := by
  unfold evaluate
  rw [if_neg (Bool.eq_false_iff.mp absent)]

theorem evaluate_known {query : Query} {client : Client} {identity : Option Identity}
    (listed : Entries.contains (.string query.key) client.cache.snapshot.flags = true)
    (known : Known client query.identifier identity) (closes : Bool) :
    client.evaluate query closes =
      (client.resolve query.identifier).1.afterIdentity query identity closes := by
  unfold evaluate
  rw [if_pos listed, resolve_of_known known]

theorem evaluate_stale {query : Query} {client : Client} {name : String}
    (listed : Entries.contains (.string query.key) client.cache.snapshot.flags = true)
    (named : named? query.identifier = some name)
    (stale : client.cache.holds client.now (.identity name) = false) (closes : Bool) :
    client.evaluate query closes =
      (client.sweep client.now (some name),
        .await (.identity name) (.matching query closes)) := by
  unfold evaluate
  rw [if_pos listed, resolve_stale named stale]

theorem conclude_cache (query : Query) (closes : Bool) (outcome : Except Error (Value × Tier))
    (client : Client) : (client.conclude query closes outcome).1.cache = client.cache := by
  cases outcome <;> cases closes <;> rfl

theorem afterIdentity_cache (query : Query) (identity : Option Identity) (closes : Bool)
    (client : Client) :
    (client.afterIdentity query identity closes).1.cache = client.cache := by
  unfold afterIdentity
  dsimp only
  split
  · exact conclude_cache ..
  · split
    · exact conclude_cache ..
    · rfl

/-- An evaluation that finds its key listed looks up its identifier, if it has one. -/
theorem evaluate_cache_of_named {query : Query} {client : Client} {name : String}
    (listed : Entries.contains (.string query.key) client.cache.snapshot.flags = true)
    (named : named? query.identifier = some name) (closes : Bool) :
    (client.evaluate query closes).1.cache = client.cache.sweep client.now (some name) := by
  have swept := resolve_cache named client
  unfold evaluate
  rw [if_pos listed]
  split
  next after identity resolved =>
      rw [resolved] at swept
      rw [afterIdentity_cache]
      exact swept
  next after missing resolved =>
      rw [resolved] at swept
      exact swept

theorem evaluate_cache_of_unnamed {query : Query} {client : Client}
    (absent : Entries.contains (.string query.key) client.cache.snapshot.flags = true →
      named? query.identifier = none) (closes : Bool) :
    (client.evaluate query closes).1.cache = client.cache := by
  cases listed : Entries.contains (.string query.key) client.cache.snapshot.flags with
  | false => rw [evaluate_unlisted listed, conclude_cache]
  | true =>
      have unnamed := absent listed
      rw [evaluate_known listed (.unnamed unnamed), afterIdentity_cache,
        resolve_unnamed unnamed]

/-- The turn in which an evaluation begins is that of an evaluation by a client of the same caches
and the same time. -/
theorem Begins.evaluates {client : Client} {query : Query} {phase : Phase} {closes : Bool}
    (begins : Begins client query phase closes) :
    ∃ begun : Client, begun.now = client.now ∧ begun.cache = client.cache ∧
      phase.proceed? service client = some (begun.evaluate query closes) := by
  cases begins with
  | call => exact ⟨client, rfl, rfl, rfl⟩
  | visit snapshot fresh =>
      refine ⟨client.log (.initialized client.host), rfl, rfl, ?_⟩
      have turn : client.refresh (.visit query) =
          (client.log (.initialized client.host)).evaluate query true := by
        simp [refresh, fresh, afterRefresh]
      exact congrArg some turn
  | refreshed fetch record => exact ⟨client.log (.initialized client.host), rfl, rfl, rfl⟩

theorem Known.of_same {client other : Client} {identifier : Option String}
    {identity : Option Identity} (known : Known client identifier identity)
    (now : other.now = client.now)
    (same : ∀ name, named? identifier = some name →
      other.cache.freshIdentity? client.now name = client.cache.freshIdentity? client.now name) :
    Known other identifier identity := by
  cases known with
  | unnamed absent => exact .unnamed absent
  | fresh name identity named fresh =>
      refine .fresh name identity named ?_
      rw [now, same name named]
      exact fresh

/-! ## All turns -/

/-- What the turn of a call in a phase comes to. -/
inductive Course (client : Client) : Phase → Client × Move → Prop where
  | evaluates (query : Query) (phase : Phase) (closes : Bool) (begun : Client)
      (begins : Begins client query phase closes) (now : begun.now = client.now)
      (cache : begun.cache = client.cache) : Course client phase (begun.evaluate query closes)
  | identifies (identifier : Option String) :
      Course client (.ready (.start (.identify identifier))) (client.identify identifier)
  | refreshes (purpose : Purpose) (stale : client.cache.holds client.now .state = false) :
      Course client (.ready (.start (.refresh purpose)))
        (client, .await .state (.refreshing purpose))
  | hands (query : Query) (closes : Bool) (fetch : Nat) (record : Fetched) :
      Course client (.woken (.matching query closes) fetch (.ok record))
        (client.afterIdentity query record.identity? closes)
  | finishes (phase : Phase) (after : Client) (result : Except Error Answer)
      (cache : after.cache = client.cache) : Course client phase (after, .finish result)

theorem Begins.course {client : Client} {query : Query} {phase : Phase} {closes : Bool}
    {next : Client × Move} (begins : Begins client query phase closes)
    (moves : phase.proceed? service client = some next) : Course client phase next := by
  obtain ⟨begun, now, cache, turn⟩ := begins.evaluates
  rw [moves] at turn
  rw [Option.some.inj turn]
  exact .evaluates query phase closes begun begins now cache

theorem conclude_course (client : Client) (phase : Phase) (query : Query) (closes : Bool)
    (outcome : Except Error (Value × Tier)) :
    Course client phase (client.conclude query closes outcome) :=
  .finishes phase _ _ (conclude_cache query closes outcome client)

theorem enter_course (client : Client) (stage : Stage) :
    Course client (.ready stage) (client.enter stage) := by
  cases stage with
  | start call =>
      cases call with
      | evaluate query => exact Begins.call.course rfl
      | identify identifier => exact .identifies identifier
      | refresh purpose =>
          cases fresh : client.cache.freshSnapshot? client.now with
          | none =>
              have turn : client.refresh purpose = (client, .await .state (.refreshing purpose)) := by
                simp only [refresh, fresh]
              rw [show client.enter (.start (.refresh purpose)) = client.refresh purpose from rfl,
                turn]
              exact .refreshes purpose ((Cache.freshSnapshot?_eq_none_iff _ _).mp fresh)
          | some snapshot =>
              have turn : client.refresh purpose = client.afterRefresh purpose := by
                simp only [refresh, fresh]
              cases purpose with
              | visit query => exact (Begins.visit snapshot fresh).course rfl
              | refresh =>
                  rw [show client.enter (.start (.refresh .refresh)) = client.refresh .refresh
                    from rfl, turn]
                  exact .finishes _ _ _ rfl
              | setUp =>
                  rw [show client.enter (.start (.refresh .setUp)) = client.refresh .setUp
                    from rfl, turn]
                  exact .finishes _ _ _ rfl
  | refreshing purpose => exact .finishes _ _ _ rfl
  | identifying => exact .finishes _ _ _ rfl
  | matching query closes => exact .finishes _ _ _ rfl
  | deciding query identity closes => exact .finishes _ _ _ rfl

theorem resume_error_course (client : Client) (stage : Stage) (fetch : Nat) (error : Error) :
    Course client (.woken stage fetch (.failed error)) (client.resume stage (.error error)) := by
  cases stage with
  | start call => exact .finishes _ _ _ rfl
  | refreshing purpose => exact .finishes _ _ _ rfl
  | identifying => exact .finishes _ _ _ rfl
  | matching query closes => exact conclude_course client _ query closes (.error error)
  | deciding query identity closes => exact conclude_course client _ query closes (.error error)

theorem resume_ok_course (client : Client) (stage : Stage) (fetch : Nat) (record : Fetched) :
    Course client (.woken stage fetch (.ok record)) (client.resume stage (.ok record)) := by
  cases stage with
  | start call => exact .finishes _ _ _ rfl
  | refreshing purpose =>
      cases purpose with
      | visit query => exact (Begins.refreshed fetch record).course rfl
      | refresh => exact .finishes _ _ _ rfl
      | setUp => exact .finishes _ _ _ rfl
  | identifying => exact .finishes _ _ _ rfl
  | matching query closes => exact .hands query closes fetch record
  | deciding query identity closes => exact conclude_course ..

theorem proceed_course {client : Client} {phase : Phase} {next : Client × Move}
    (moves : phase.proceed? service client = some next) : Course client phase next := by
  cases phase with
  | ready stage =>
      cases moves
      exact client.enter_course stage
  | woken stage fetch ending =>
      cases ending with
      | ok record =>
          cases moves
          exact client.resume_ok_course stage fetch record
      | failed error =>
          cases moves
          exact client.resume_error_course stage fetch error
      | cancelled => cases moves
  | waiting stage fetch => cases moves
  | leaving reached => cases moves
  | finished ending => cases moves

/-! ## Look-ups -/

inductive LooksUp (client : Client) : Phase → String → Prop where
  | identifying (identifier : Option String) (name : String)
      (named : named? identifier = some name) :
      LooksUp client (.ready (.start (.identify identifier))) name
  | evaluating (query : Query) (phase : Phase) (closes : Bool) (name : String)
      (begins : Begins client query phase closes)
      (listed : Entries.contains (.string query.key) client.cache.snapshot.flags = true)
      (named : named? query.identifier = some name) : LooksUp client phase name

theorem identify_cache (identifier : Option String) (client : Client) :
    (client.identify identifier).1.cache = (client.resolve identifier).1.cache := by
  unfold identify
  split
  next after identity resolved => rw [resolved]
  next after missing resolved => rw [resolved]

theorem LooksUp.cache {client after : Client} {phase : Phase} {name : String} {move : Move}
    (looksUp : LooksUp client phase name)
    (moves : phase.proceed? service client = some (after, move)) :
    after.cache = client.cache.sweep client.now (some name) := by
  cases looksUp with
  | identifying identifier name named =>
      have turn : client.identify identifier = (after, move) := Option.some.inj moves
      have swept := client.identify_cache identifier
      rw [turn, resolve_cache named] at swept
      exact swept
  | evaluating query phase closes name begins listed named =>
      obtain ⟨begun, now, cache, turn⟩ := begins.evaluates
      rw [moves] at turn
      have swept : (begun.evaluate query closes).1.cache =
          begun.cache.sweep begun.now (some name) :=
        evaluate_cache_of_named (cache ▸ listed) named closes
      rw [← Option.some.inj turn, now, cache] at swept
      exact swept

/-- A turn that looks nothing up leaves the caches alone. -/
theorem cache_of_not_looksUp {client after : Client} {phase : Phase} {move : Move}
    (nothing : ∀ name, ¬ LooksUp client phase name)
    (moves : phase.proceed? service client = some (after, move)) :
    after.cache = client.cache := by
  suffices same : ∀ next, Course client phase next → next.1.cache = client.cache from
    same (after, move) (proceed_course moves)
  intro next course
  cases course with
  | evaluates query phase closes begun begins now cache =>
      have unnamed : (begun.evaluate query closes).1.cache = begun.cache := by
        refine evaluate_cache_of_unnamed (fun listed => ?_) closes
        cases named : named? query.identifier with
        | none => rfl
        | some name =>
            exact absurd (.evaluating query phase closes name begins (cache ▸ listed) named)
              (nothing name)
      rw [unnamed, cache]
  | identifies identifier =>
      rw [identify_cache]
      cases named : named? identifier with
      | some name => exact absurd (.identifying identifier name named) (nothing name)
      | none => rw [resolve_unnamed named]
  | refreshes purpose stale => rfl
  | hands query closes fetch record => exact afterIdentity_cache ..
  | finishes phase after result cache => exact cache

/-! ## Needs -/

/-- In its turn a call in this phase cannot go on without a resource of which no fresh record is
cached. -/
inductive Needs (client : Client) : Phase → Resource → Prop where
  | refreshing (purpose : Purpose) (stale : client.cache.holds client.now .state = false) :
      Needs client (.ready (.start (.refresh purpose))) .state
  | identifying (identifier : Option String) (name : String)
      (named : named? identifier = some name)
      (stale : client.cache.holds client.now (.identity name) = false) :
      Needs client (.ready (.start (.identify identifier))) (.identity name)
  | matching (query : Query) (phase : Phase) (closes : Bool) (name : String)
      (begins : Begins client query phase closes)
      (listed : Entries.contains (.string query.key) client.cache.snapshot.flags = true)
      (named : named? query.identifier = some name)
      (stale : client.cache.holds client.now (.identity name) = false) :
      Needs client phase (.identity name)
  | deciding (query : Query) (phase : Phase) (closes : Bool) (identity : Option Identity)
      (begins : Begins client query phase closes)
      (listed : Entries.contains (.string query.key) client.cache.snapshot.flags = true)
      (known : Known client query.identifier identity)
      (openEnded : Scope.find? ⟨query.overrides, identity⟩ (.string query.key) = none)
      (stale : client.cache.holds client.now .state = false) : Needs client phase .state
  | matched (query : Query) (closes : Bool) (fetch : Nat) (record : Fetched)
      (openEnded : Scope.find? ⟨query.overrides, record.identity?⟩ (.string query.key) = none)
      (stale : client.cache.holds client.now .state = false) :
      Needs client (.woken (.matching query closes) fetch (.ok record)) .state

theorem afterIdentity_stale {query : Query} {identity : Option Identity} {client : Client}
    (openEnded : Scope.find? ⟨query.overrides, identity⟩ (.string query.key) = none)
    (stale : client.cache.holds client.now .state = false) (closes : Bool) :
    client.afterIdentity query identity closes =
      (client, .await .state (.deciding query identity closes)) := by
  have absent := (Cache.freshSnapshot?_eq_none_iff _ _).mpr stale
  unfold afterIdentity
  dsimp only
  rw [openEnded]
  dsimp only
  rw [absent]

theorem holds_state_of_tidied {client after : Client} (tidied : Tidied client after) :
    after.cache.holds after.now .state = client.cache.holds client.now .state := by
  rw [tidied.now]
  rcases tidied.cache with same | ⟨keep, swept⟩
  · rw [same]
  · rw [swept]
    rfl

/-- A call that needs a resource goes to wait for it. -/
theorem Needs.awaits {client : Client} {phase : Phase} {resource : Resource}
    (needs : Needs client phase resource) :
    ∃ after stage, phase.proceed? service client = some (after, .await resource stage) := by
  cases needs with
  | refreshing purpose stale =>
      have absent := (Cache.freshSnapshot?_eq_none_iff _ _).mpr stale
      refine ⟨client, .refreshing purpose, congrArg some ?_⟩
      change client.refresh purpose = _
      unfold refresh
      rw [absent]
  | identifying identifier name named stale =>
      exact ⟨_, _, congrArg some (identify_stale named stale)⟩
  | matching query phase closes name begins listed named stale =>
      obtain ⟨begun, now, cache, turn⟩ := begins.evaluates
      rw [turn, evaluate_stale (cache ▸ listed) named (by rw [now, cache, stale])]
      exact ⟨_, _, rfl⟩
  | deciding query phase closes identity begins listed known openEnded stale =>
      obtain ⟨begun, now, cache, turn⟩ := begins.evaluates
      have sameKnown : Known begun query.identifier identity :=
        known.of_same now fun name named => by rw [cache]
      have tidied := begun.resolve_tidied query.identifier
      have stillStale : (begun.resolve query.identifier).1.cache.holds
          (begun.resolve query.identifier).1.now .state = false := by
        rw [holds_state_of_tidied tidied, now, cache, stale]
      rw [turn, evaluate_known (cache ▸ listed) sameKnown,
        afterIdentity_stale openEnded stillStale]
      exact ⟨_, _, rfl⟩
  | matched query closes fetch record openEnded stale =>
      refine ⟨client, .deciding query record.identity? closes, congrArg some ?_⟩
      exact afterIdentity_stale openEnded stale closes

theorem afterIdentity_awaits {query : Query} {identity : Option Identity} {closes : Bool}
    {client : Client} {resource : Resource} {stage : Stage}
    (awaits : (client.afterIdentity query identity closes).2 = .await resource stage) :
    resource = .state ∧
      Scope.find? ⟨query.overrides, identity⟩ (.string query.key) = none ∧
        client.cache.holds client.now .state = false := by
  cases override : Scope.find? ⟨query.overrides, identity⟩ (.string query.key) with
  | some found => simp [afterIdentity, override, conclude] at awaits
  | none =>
      cases fresh : client.cache.freshSnapshot? client.now with
      | some snapshot => simp [afterIdentity, override, fresh, conclude] at awaits
      | none =>
          have stale := (Cache.freshSnapshot?_eq_none_iff _ _).mp fresh
          rw [afterIdentity_stale override stale] at awaits
          cases awaits
          exact ⟨rfl, rfl, stale⟩

theorem evaluate_awaits {query : Query} {closes : Bool} {client : Client} {resource : Resource}
    {stage : Stage} (awaits : (client.evaluate query closes).2 = .await resource stage) :
    Entries.contains (.string query.key) client.cache.snapshot.flags = true ∧
      ((∃ name, resource = .identity name ∧ named? query.identifier = some name ∧
        client.cache.holds client.now (.identity name) = false) ∨
      ∃ identity, resource = .state ∧ Known client query.identifier identity ∧
        Scope.find? ⟨query.overrides, identity⟩ (.string query.key) = none ∧
          client.cache.holds client.now .state = false) := by
  cases listed : Entries.contains (.string query.key) client.cache.snapshot.flags with
  | false =>
      rw [evaluate_unlisted listed, conclude_move] at awaits
      cases awaits
  | true =>
      refine ⟨rfl, ?_⟩
      have ofKnown : ∀ identity, Known client query.identifier identity →
          resource = .state ∧ Scope.find? ⟨query.overrides, identity⟩ (.string query.key) = none ∧
            client.cache.holds client.now .state = false := by
        intro identity known
        rw [evaluate_known listed known] at awaits
        obtain ⟨same, openEnded, stale⟩ := afterIdentity_awaits awaits
        rw [holds_state_of_tidied (client.resolve_tidied query.identifier)] at stale
        exact ⟨same, openEnded, stale⟩
      cases named : named? query.identifier with
      | none =>
          have known : Known client query.identifier none := .unnamed named
          obtain ⟨same, openEnded, stale⟩ := ofKnown none known
          exact .inr ⟨none, same, known, openEnded, stale⟩
      | some name =>
          cases fresh : client.cache.freshIdentity? client.now name with
          | some identity =>
              have known : Known client query.identifier (some identity) :=
                .fresh name identity named fresh
              obtain ⟨same, openEnded, stale⟩ := ofKnown (some identity) known
              exact .inr ⟨some identity, same, known, openEnded, stale⟩
          | none =>
              have stale := (Cache.freshIdentity?_eq_none_iff _ _ _).mp fresh
              rw [evaluate_stale listed named stale] at awaits
              cases awaits
              exact .inl ⟨name, rfl, rfl, stale⟩

/-- A call goes to wait for a resource exactly when it needs it. -/
theorem awaits_iff_needs (client : Client) (phase : Phase) (resource : Resource) :
    (∃ after stage, phase.proceed? service client = some (after, .await resource stage)) ↔
      Needs client phase resource := by
  refine ⟨fun ⟨after, stage, moves⟩ => ?_, Needs.awaits⟩
  suffices needs : ∀ next, Course client phase next → next.2 = .await resource stage →
      Needs client phase resource from needs _ (proceed_course moves) rfl
  intro next course awaits
  cases course with
  | evaluates query phase closes begun begins now cache =>
      obtain ⟨listed, ⟨name, rfl, named, stale⟩ | ⟨identity, rfl, known, openEnded, stale⟩⟩ :=
        evaluate_awaits awaits
      · rw [now, cache] at stale
        exact .matching query phase closes name begins (cache ▸ listed) named stale
      · rw [now, cache] at stale
        have sameKnown : Known client query.identifier identity :=
          known.of_same now.symm fun name named => by rw [cache]
        exact .deciding query phase closes identity begins (cache ▸ listed) sameKnown openEnded stale
  | identifies identifier =>
      unfold identify at awaits
      rcases resolved : client.resolve identifier with ⟨after, known | name⟩
      · rw [resolved] at awaits
        cases awaits
      · rw [resolved] at awaits
        cases awaits
        have named := (resolve_missing resolved).1
        cases fresh : client.cache.freshIdentity? client.now name with
        | some identity => cases (resolve_fresh named fresh).symm.trans resolved
        | none =>
            exact .identifying identifier name named
              ((Cache.freshIdentity?_eq_none_iff _ _ _).mp fresh)
  | refreshes purpose stale =>
      cases awaits
      exact .refreshing purpose stale
  | hands query closes fetch record =>
      obtain ⟨rfl, openEnded, stale⟩ := afterIdentity_awaits awaits
      exact .matched query closes fetch record openEnded stale
  | finishes phase after result cache => cases awaits

/-- Who needs the identity of an identifier has looked it up. -/
theorem Needs.looksUp {client : Client} {phase : Phase} {name : String}
    (needs : Needs client phase (.identity name)) : LooksUp client phase name := by
  cases needs with
  | identifying identifier name named stale => exact .identifying identifier name named
  | matching query phase closes name begins listed named stale =>
      exact .evaluating query phase closes name begins listed named

/-- The caller whose turn is next goes on when the turn comes. -/
theorem Run.proceeds_of_turn (run : Run) {moment caller : Nat} {given : Option Reply}
    {rest : List Flight.Turn} {phase : Phase} {after : Client} {move : Move}
    (turn : run.steps[moment]? = some (.move (.turn given)))
    (agenda : (run.state moment).agenda = .caller caller :: rest)
    (present : (run.state moment).callerPhase? caller = some phase)
    (moves : phase.proceed? service (run.client moment) = some (after, move)) :
    Flight.Proceeds service (run.state moment) (run.state (moment + 1)) caller phase move := by
  have registered : Flight.Registered (run.state moment) := (run.history.orderly moment).registered
  rw [run.state_succ_of_step turn]
  exact registered.proceeds service given agenda present moves

end FeatureFlags.Client
