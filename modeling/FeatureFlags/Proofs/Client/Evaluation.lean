import FeatureFlags.Precedence
import FeatureFlags.Proofs.Client.Moments

/-!
# What an evaluation goes through

An evaluation of a query begins in one turn of its caller.  It settles the identity of the query,
and if that leaves the value open it makes sure of a state; each time it finds a fresh record or
waits for one fetch.  `Evaluates` tells this for a run, moment by moment, and `evaluates_of_begins`
says that whatever else happens in the run, an evaluation that ends has gone through just this.
-/

set_option autoImplicit false

namespace FeatureFlags.Client

/-! ## The turns of an evaluation -/

def answer (outcome : Except Error (Value × Tier)) : Except Error Answer :=
  outcome.map fun found => .value found.1

inductive Begins (client : Client) (query : Query) : Phase → Bool → Prop where
  | call : Begins client query (.ready (.start (.evaluate query))) false
  | visit (snapshot : Snapshot) (fresh : client.cache.freshSnapshot? client.now = some snapshot) :
      Begins client query (.ready (.start (.refresh (.visit query)))) true
  | refreshed (fetch : Nat) (record : Fetched) :
      Begins client query (.woken (.refreshing (.visit query)) fetch (.ok record)) true

/-- What is known of an identifier without a fetch. -/
inductive Known (client : Client) (identifier : Option String) : Option Identity → Prop where
  | unnamed (absent : named? identifier = none) : Known client identifier none
  | fresh (name : String) (identity : Identity) (named : named? identifier = some name)
      (fresh : client.cache.freshIdentity? client.now name = some identity) :
      Known client identifier (some identity)

inductive Decides (client : Client) (query : Query) (identity : Option Identity) (closes : Bool) :
    Move → Prop where
  | overridden (found : Value × Tier)
      (override : Scope.find? ⟨query.overrides, identity⟩ (.string query.key) = some found) :
      Decides client query identity closes (.finish (answer (.ok found)))
  | fresh (snapshot : Snapshot)
      (openEnded : Scope.find? ⟨query.overrides, identity⟩ (.string query.key) = none)
      (fresh : client.cache.freshSnapshot? client.now = some snapshot) :
      Decides client query identity closes
        (.finish (answer (snapshot.evaluate query.key ⟨query.overrides, identity⟩)))
  | stale (openEnded : Scope.find? ⟨query.overrides, identity⟩ (.string query.key) = none) :
      Decides client query identity closes (.await .state (.deciding query identity closes))

inductive Opens (client : Client) (query : Query) (closes : Bool) : Move → Prop where
  | unknown (absent : Entries.contains (.string query.key) client.cache.snapshot.flags = false) :
      Opens client query closes (.finish (answer (.error (.flagNotFound (.string query.key)))))
  | missing (name : String) (named : named? query.identifier = some name) :
      Opens client query closes (.await (.identity name) (.matching query closes))
  | known (identity : Option Identity) (move : Move)
      (known : Known client query.identifier identity)
      (decides : Decides client query identity closes move) : Opens client query closes move

theorem conclude_move (query : Query) (closes : Bool) (outcome : Except Error (Value × Tier))
    (client : Client) : (client.conclude query closes outcome).2 = .finish (answer outcome) := rfl

theorem afterIdentity_decides (query : Query) (identity : Option Identity) (closes : Bool)
    (client : Client) :
    Decides client query identity closes (client.afterIdentity query identity closes).2 := by
  unfold afterIdentity
  dsimp only
  split
  next found override => exact .overridden found override
  next openEnded =>
      split
      next snapshot fresh => exact .fresh snapshot openEnded fresh
      next => exact .stale openEnded

/-- A sweep spares the identity that it is told to keep. -/
theorem identity?_sweep_kept (moment : Double) (name : String) (cache : Cache) :
    (cache.sweep moment (some name)).identity? name = cache.identity? name := by
  cases found : cache.identity? name with
  | none =>
      refine List.lookup_eq_none_iff.mpr fun entry member => ?_
      exact List.lookup_eq_none_iff.mp found entry (List.mem_filter.mp member).1
  | some identity => exact Entries.lookup_filter_of_kept found (by simp [Cache.isStale])

theorem freshIdentity?_sweep (now moment : Double) (name : String) (cache : Cache) :
    (cache.sweep moment (some name)).freshIdentity? now name = cache.freshIdentity? now name := by
  rw [Cache.freshIdentity?, identity?_sweep_kept]
  rfl

theorem resolve_known {identifier : Option String} {identity : Option Identity}
    {client after : Client} (known : client.resolve identifier = (after, .known identity)) :
    Known client identifier identity := by
  unfold resolve at known
  split at known
  next absent =>
      cases known
      exact .unnamed absent
  next name named =>
      dsimp only at known
      split at known
      next found fresh =>
          cases known
          rw [sweep_now, sweep_cache, freshIdentity?_sweep] at fresh
          exact .fresh name found named fresh
      · cases known

theorem Tidied.freshSnapshot? {client after : Client} (tidied : Tidied client after) :
    after.cache.freshSnapshot? after.now = client.cache.freshSnapshot? client.now := by
  rw [tidied.now]
  rcases tidied.cache with same | ⟨keep, swept⟩
  · rw [same]
  · rw [swept]
    rfl

theorem Decides.of_tidied {client after : Client} (tidied : Tidied client after) {query : Query}
    {identity : Option Identity} {closes : Bool} {move : Move}
    (decides : Decides after query identity closes move) :
    Decides client query identity closes move := by
  cases decides with
  | overridden found override => exact .overridden found override
  | fresh snapshot openEnded fresh =>
      exact .fresh snapshot openEnded (tidied.freshSnapshot?.symm.trans fresh)
  | stale openEnded => exact .stale openEnded

theorem evaluate_opens (query : Query) (closes : Bool) (client : Client) :
    Opens client query closes (client.evaluate query closes).2 := by
  have tidied := client.resolve_tidied query.identifier
  unfold evaluate
  split
  · split
    next swept identity resolved =>
        rw [resolved] at tidied
        refine .known identity _ (resolve_known resolved) ?_
        exact (swept.afterIdentity_decides query identity closes).of_tidied tidied
    next swept name resolved => exact .missing name (resolve_missing resolved).1
  next absent =>
      rw [conclude_move]
      exact .unknown (Bool.eq_false_iff.mpr absent)

theorem Opens.of_log {client : Client} {event : Log.Event} {query : Query} {closes : Bool}
    {move : Move} (opens : Opens (client.log event) query closes move) :
    Opens client query closes move := by
  have logged : Tidied client (client.log event) := ⟨rfl, .inl rfl⟩
  cases opens with
  | unknown absent => exact .unknown absent
  | missing name named => exact .missing name named
  | known identity move known decides =>
      refine .known identity move ?_ (decides.of_tidied logged)
      cases known with
      | unnamed absent => exact .unnamed absent
      | fresh name identity named fresh => exact .fresh name identity named fresh

theorem Begins.opens {client after : Client} {query : Query} {phase : Phase} {closes : Bool}
    {move : Move} (begins : Begins client query phase closes)
    (moves : phase.proceed? service client = some (after, move)) :
    Opens client query closes move := by
  cases begins with
  | call =>
      have opens := client.evaluate_opens query false
      rw [show client.evaluate query false = (after, move) from Option.some.inj moves] at opens
      exact opens
  | visit snapshot fresh =>
      have opens := (client.log (.initialized client.host)).evaluate_opens query true
      have same : client.refresh (.visit query) =
          (client.log (.initialized client.host)).evaluate query true := by
        simp [refresh, fresh, afterRefresh]
      rw [← same, show client.refresh (.visit query) = (after, move) from Option.some.inj moves]
        at opens
      exact opens.of_log
  | refreshed fetch record =>
      have opens := (client.log (.initialized client.host)).evaluate_opens query true
      rw [show (client.log (.initialized client.host)).evaluate query true = (after, move)
        from Option.some.inj moves] at opens
      exact opens.of_log

/-! ## The course of an evaluation -/

def fresh? (resource : Resource) (client : Client) : Option Fetched :=
  match resource with
  | .state => (client.cache.freshSnapshot? client.now).map .state
  | .identity name => (client.cache.freshIdentity? client.now name).map .identity

theorem fetchedAt?_of_fresh {client : Client} {resource : Resource} {record : Fetched}
    (fresh : client.fresh? resource = some record) :
    ∃ fetchedAt, record.fetchedAt? = some fetchedAt ∧
      isFresh client.now fetchedAt (client.cache.lifetimes.of resource) = true := by
  cases resource with
  | state =>
      obtain ⟨snapshot, held, rfl⟩ := Option.map_eq_some_iff.mp fresh
      unfold Cache.freshSnapshot? at held
      split at held
      next isFresh =>
          cases held
          obtain ⟨fetchedAt, stamped, young⟩ := (Option.any_eq_true _ _).mp isFresh
          exact ⟨fetchedAt, stamped, young⟩
      · cases held
  | identity name =>
      obtain ⟨identity, held, rfl⟩ := Option.map_eq_some_iff.mp fresh
      exact ⟨identity.fetchedAt, rfl, (Option.filter_eq_some_iff.mp held).2⟩

namespace Run

variable (run : Run)

/-- How a caller that needs a resource in its turn at one moment comes by a record of it: a fresh
one is cached, or the caller waits for one fetch of the resource until its turn at another. -/
inductive Obtains (caller : Nat) (resource : Resource) (asked : Nat) : Fetched → Nat → Prop where
  | cached (record : Fetched) (fresh : (run.client asked).fresh? resource = some record) :
      Obtains caller resource asked record asked
  | awaited (stage : Stage) (fetch : Nat) (record : Fetched) (returned : Nat)
      (awaits : Flight.Awaits service run.state caller resource stage fetch asked (.ok record)
        returned) :
      Obtains caller resource asked record returned

def Fails (caller : Nat) (resource : Resource) (asked : Nat) (error : Error) (returned : Nat) :
    Prop :=
  ∃ stage fetch,
    Flight.Awaits service run.state caller resource stage fetch asked (.failed error) returned

/-- The identity that a caller settles on for an identifier; an empty one has none. -/
inductive Settles (caller : Nat) (identifier : Option String) (asked : Nat) :
    Option Identity → Nat → Prop where
  | unnamed (absent : named? identifier = none) : Settles caller identifier asked none asked
  | obtained (name : String) (identity : Identity) (settled : Nat)
      (named : named? identifier = some name)
      (obtains : run.Obtains caller (.identity name) asked (.identity identity) settled) :
      Settles caller identifier asked (some identity) settled

def BeginsAt (caller : Nat) (query : Query) (begun : Nat) : Prop :=
  ∃ phase closes move, Begins (run.client begun) query phase closes ∧
    Flight.Proceeds service (run.state begun) (run.state (begun + 1)) caller phase move

/-- What an evaluation that begins at one moment goes through, with its outcome and the moment of
its last turn. -/
inductive Evaluates (caller : Nat) (query : Query) (begun : Nat) :
    Except Error (Value × Tier) → Nat → Prop where
  | unknown (absent : Entries.contains (.string query.key)
        (run.client begun).cache.snapshot.flags = false) :
      Evaluates caller query begun (.error (.flagNotFound (.string query.key))) begun
  | unmatched (name : String) (error : Error) (returned : Nat)
      (named : named? query.identifier = some name)
      (fails : run.Fails caller (.identity name) begun error returned) :
      Evaluates caller query begun (.error error) returned
  | overridden (identity : Option Identity) (settled : Nat) (found : Value × Tier)
      (settles : run.Settles caller query.identifier begun identity settled)
      (override : Scope.find? ⟨query.overrides, identity⟩ (.string query.key) = some found) :
      Evaluates caller query begun (.ok found) settled
  | undecided (identity : Option Identity) (settled : Nat) (error : Error) (returned : Nat)
      (settles : run.Settles caller query.identifier begun identity settled)
      (openEnded : Scope.find? ⟨query.overrides, identity⟩ (.string query.key) = none)
      (fails : run.Fails caller .state settled error returned) :
      Evaluates caller query begun (.error error) returned
  | decided (identity : Option Identity) (settled : Nat) (snapshot : Snapshot) (returned : Nat)
      (settles : run.Settles caller query.identifier begun identity settled)
      (openEnded : Scope.find? ⟨query.overrides, identity⟩ (.string query.key) = none)
      (obtains : run.Obtains caller .state settled (.state snapshot) returned) :
      Evaluates caller query begun (snapshot.evaluate query.key ⟨query.overrides, identity⟩)
        returned

variable {run}

theorem accepted_of_awaits {caller fetch asked returned : Nat} {resource : Resource} {stage : Stage}
    {record : Fetched}
    (awaits : Flight.Awaits service run.state caller resource stage fetch asked (.ok record)
      returned) :
    ∃ moment, asked < moment ∧ moment < returned ∧ run.Accepted moment resource fetch record := by
  obtain ⟨moment, reply, after, before, accepts⟩ := run.history.accepts_of_awaits awaits
  exact ⟨moment, after, before, reply, accepts⟩

theorem Obtains.record {caller asked returned : Nat} {resource : Resource} {record : Fetched}
    (obtains : run.Obtains caller resource asked record returned) :
    (resource = .state ∧ ∃ snapshot, record = .state snapshot) ∨
      ∃ name identity, resource = .identity name ∧ record = .identity identity := by
  cases obtains with
  | cached record fresh =>
      cases resource with
      | state =>
          obtain ⟨snapshot, -, rfl⟩ := Option.map_eq_some_iff.mp fresh
          exact .inl ⟨rfl, snapshot, rfl⟩
      | identity name =>
          obtain ⟨identity, -, rfl⟩ := Option.map_eq_some_iff.mp fresh
          exact .inr ⟨name, identity, rfl, rfl⟩
  | awaited stage fetch record returned awaits =>
      obtain ⟨moment, -, -, accepted⟩ := accepted_of_awaits awaits
      obtain ⟨data, decoded, -⟩ := accepted.decoded
      rcases decode_eq_ok decoded with ⟨same, snapshot, rfl, -⟩ | ⟨name, identity, same, rfl, -⟩
      · exact .inl ⟨same, snapshot, rfl⟩
      · exact .inr ⟨name, identity, same, rfl⟩

theorem snapshot_of_obtains {caller asked returned : Nat} {record : Fetched}
    (obtains : run.Obtains caller .state asked record returned) :
    ∃ snapshot, record = .state snapshot := by
  rcases obtains.record with ⟨-, found⟩ | ⟨name, identity, other, -⟩
  · exact found
  · cases other

theorem identity_of_obtains {caller asked returned : Nat} {name : String} {record : Fetched}
    (obtains : run.Obtains caller (.identity name) asked record returned) :
    ∃ identity, record = .identity identity := by
  rcases obtains.record with ⟨other, -⟩ | ⟨name, identity, -, found⟩
  · cases other
  · exact ⟨identity, found⟩

theorem ends_of_finish {caller concluded ended : Nat} {phase : Phase}
    {result : Except Error Answer} {ending : Flight.Ending Answer}
    (proceeds : Flight.Proceeds service (run.state concluded) (run.state (concluded + 1)) caller
      phase (.finish result))
    (order : concluded < ended)
    (finished : (run.state ended).callerPhase? caller = some (.finished ending)) :
    ending = .ofExcept result := by
  have still := run.history.callerPhase?_finished order proceeds.reached
  cases still.symm.trans finished
  rfl

/-- A caller that goes to wait for a resource and ends other than cancelled goes on in a later turn,
with a record of the resource that it obtains or with the error of the fetch. -/
theorem goesOn_of_asks {caller asked ended : Nat} {resource : Resource} {stage : Stage}
    {phase : Phase} {ending : Flight.Ending Answer}
    (asks : Flight.Proceeds service (run.state asked) (run.state (asked + 1)) caller phase
      (.await resource stage))
    (order : asked < ended)
    (finished : (run.state ended).callerPhase? caller = some (.finished ending))
    (kept : ending ≠ .cancelled) :
    ∃ fetch returned, returned < ended ∧
      ((∃ record, run.Obtains caller resource asked record returned ∧
        Flight.Proceeds service (run.state returned) (run.state (returned + 1)) caller
          (.woken stage fetch (.ok record)) ((run.client returned).resume stage (.ok record)).2) ∨
      ∃ error, run.Fails caller resource asked error returned ∧
        Flight.Proceeds service (run.state returned) (run.state (returned + 1)) caller
          (.woken stage fetch (.failed error))
          ((run.client returned).resume stage (.error error)).2) := by
  obtain ⟨fetch, told, returned, before, awaits⟩ :=
    run.history.awaits_of_proceeds order asks finished kept
  obtain ⟨move, goesOn⟩ := awaits.goesOn
  refine ⟨fetch, returned, before, ?_⟩
  cases told with
  | ok record =>
      have moves : (run.client returned).resume stage (.ok record) =
          (run.client (returned + 1), move) := Option.some.inj goesOn.moves
      refine .inl ⟨record, .awaited stage fetch record returned awaits, ?_⟩
      rw [moves]
      exact goesOn
  | failed error =>
      have moves : (run.client returned).resume stage (.error error) =
          (run.client (returned + 1), move) := Option.some.inj goesOn.moves
      refine .inr ⟨error, ⟨stage, fetch, awaits⟩, ?_⟩
      rw [moves]
      exact goesOn
  | cancelled => cases goesOn.moves

/-- An evaluation whose identity is settled ends by overrides or by a state of its own. -/
theorem evaluates_of_decides {caller begun settled ended : Nat} {query : Query} {closes : Bool}
    {identity : Option Identity} {phase : Phase} {move : Move} {ending : Flight.Ending Answer}
    (settles : run.Settles caller query.identifier begun identity settled)
    (proceeds : Flight.Proceeds service (run.state settled) (run.state (settled + 1)) caller phase
      move)
    (decides : Decides (run.client settled) query identity closes move) (order : settled < ended)
    (finished : (run.state ended).callerPhase? caller = some (.finished ending))
    (kept : ending ≠ .cancelled) :
    ∃ outcome concluded, run.Evaluates caller query begun outcome concluded ∧ concluded < ended ∧
      ending = .ofExcept (answer outcome) := by
  cases decides with
  | overridden found override =>
      exact ⟨_, settled, .overridden identity settled found settles override, order,
        ends_of_finish proceeds order finished⟩
  | fresh snapshot openEnded fresh =>
      have cached : (run.client settled).fresh? .state = some (.state snapshot) :=
        congrArg (Option.map Fetched.state) fresh
      exact ⟨_, settled, .decided identity settled snapshot settled settles openEnded
        (.cached _ cached), order, ends_of_finish proceeds order finished⟩
  | stale openEnded =>
      obtain ⟨fetch, returned, before, ⟨record, obtains, goesOn⟩ | ⟨error, fails, goesOn⟩⟩ :=
        goesOn_of_asks proceeds order finished kept
      · obtain ⟨snapshot, rfl⟩ := snapshot_of_obtains obtains
        exact ⟨_, returned, .decided identity settled snapshot returned settles openEnded obtains,
          before, ends_of_finish goesOn before finished⟩
      · exact ⟨_, returned, .undecided identity settled error returned settles openEnded fails,
          before, ends_of_finish goesOn before finished⟩

theorem settles_of_known {caller begun : Nat} {identifier : Option String}
    {identity : Option Identity} (known : Known (run.client begun) identifier identity) :
    run.Settles caller identifier begun identity begun := by
  cases known with
  | unnamed absent => exact .unnamed absent
  | fresh name identity named fresh =>
      exact .obtained name identity begun named
        (.cached _ (congrArg (Option.map Fetched.identity) fresh))

/-- However the steps of a run are interleaved, an evaluation that ends other than cancelled has
gone through its own course. -/
theorem evaluates_of_begins {caller begun ended : Nat} {query : Query}
    {ending : Flight.Ending Answer} (begins : run.BeginsAt caller query begun)
    (order : begun < ended)
    (finished : (run.state ended).callerPhase? caller = some (.finished ending))
    (kept : ending ≠ .cancelled) :
    ∃ outcome concluded, run.Evaluates caller query begun outcome concluded ∧ concluded < ended ∧
      ending = .ofExcept (answer outcome) := by
  obtain ⟨phase, closes, move, begins, proceeds⟩ := begins
  cases begins.opens proceeds.moves with
  | unknown absent =>
      exact ⟨_, begun, .unknown absent, order, ends_of_finish proceeds order finished⟩
  | known identity move known decides =>
      exact evaluates_of_decides (settles_of_known known) proceeds decides order finished kept
  | missing name named =>
      obtain ⟨fetch, returned, before, ⟨record, obtains, goesOn⟩ | ⟨error, fails, goesOn⟩⟩ :=
        goesOn_of_asks proceeds order finished kept
      -- In between the caches may have changed in any way; the record comes from the fetch.
      · obtain ⟨identity, rfl⟩ := identity_of_obtains obtains
        have settles : run.Settles caller query.identifier begun (some identity) returned :=
          .obtained name identity returned named obtains
        have decides := (run.client returned).afterIdentity_decides query (some identity) closes
        exact evaluates_of_decides settles goesOn decides before finished kept
      · exact ⟨_, returned, .unmatched name error returned named fails, before,
          ends_of_finish goesOn before finished⟩

def oneFlag (value : Bool) : Value :=
  .object [
    ("flags", .list [.object [
      ("id", .int 1), ("key", .string "dark"), ("value", .bool value)]]),
    ("overrides", .list [])]

/-- While an evaluation waits for its identity, its state expires and another call replaces it. -/
def replaced : Run where
  host := "flags.test"
  now := .ofInt 0
  lifetimes := .usual
  linked := true
  steps := [
    .move (.call (.start (.refresh .refresh)) false),
    .move (.turn none),
    .move (.turn (some (.ok (oneFlag false)))),
    .move (.turn none),
    .move (.turn none),
    .move (.turn none),
    .move (.call (.start (.evaluate ⟨"dark", some "ada", []⟩)) false),
    .move (.turn none),
    .move (.turn none),
    .clock (.ofInt 61),
    .move (.call (.start (.refresh .refresh)) false),
    .move (.turn none),
    .move (.turn (some (.ok (oneFlag true)))),
    .move (.answer 1 (.ok (.object [("overrides", .object [])]))),
    .move (.turn none),
    .move (.turn none),
    .move (.turn none),
    .move (.turn none),
    .move (.turn none),
    .move (.turn none),
    .move (.turn none)]

theorem replaced_begins : replaced.BeginsAt 1 ⟨"dark", some "ada", []⟩ 7 :=
  ⟨_, false, .await (.identity "ada") (.matching ⟨"dark", some "ada", []⟩ false), .call,
    rfl, rfl, rfl, 1, _, rfl, rfl, rfl, rfl, by decide⟩

def truth? : Option (Flight.CallerPhase Stage Fetched Answer) → Option Bool
  | some (.finished (.ok (.value (.bool truth)))) => some truth
  | _ => none

theorem finished_of_truth? {phase : Option (Flight.CallerPhase Stage Fetched Answer)} {truth : Bool}
    (computed : truth? phase = some truth) :
    phase = some (.finished (.ok (.value (.bool truth)))) := by
  unfold truth? at computed
  split at computed
  next found =>
      cases computed
      rfl
  next => cases computed

theorem replaced_finished :
    (replaced.state 21).callerPhase? 1 = some (.finished (.ok (.value (.bool true)))) :=
  finished_of_truth? (by decide +kernel)

end Run

end FeatureFlags.Client
