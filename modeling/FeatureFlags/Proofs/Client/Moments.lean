import FeatureFlags.Client.Run
import FeatureFlags.Proofs.Client.Turns
import FeatureFlags.Proofs.Flight.History
import FeatureFlags.Proofs.Flight.World

/-!
# The moments of a run

A run of a client starts with nothing fetched.  Its moments are counted by steps: `Run.state` is the
state before the step of that number, and the last state at every moment after the last step.  At
every moment a turn, the clock, a sweep or an accepted fetch moves the client (`Run.change`), so the
caches only ever hold what was accepted earlier in the run.
-/

set_option autoImplicit false

namespace FeatureFlags.Client

structure Run where
  host : String
  now : Double
  lifetimes : Lifetimes
  linked : Bool
  steps : List Step

/-- Between two steps of a run everything may be cancelled, and the client may change by itself. -/
def anything : Flight.Outside Client :=
  ⟨fun _ => True, fun _ _ => True⟩

theorem step_next (state : State) (taken : Step) :
    Flight.Next anything service state (step state taken) := by
  cases taken with
  | move action => exact Flight.step_next service state action fun _ _ => True.intro
  | clock now => exact .worldChanged _ True.intro
  | sweep now keep => exact .worldChanged _ True.intro

namespace Run

variable (run : Run)

def state (moment : Nat) : State :=
  Client.run (.start (.new run.host run.now run.lifetimes run.linked)) (run.steps.take moment)

def client (moment : Nat) : Client :=
  (run.state moment).world

def clock (moment : Nat) : Double :=
  (run.client moment).now

def Forward : Prop :=
  ∀ earlier later, earlier ≤ later → (run.clock earlier).le (run.clock later) = true

def Accepted (moment : Nat) (resource : Resource) (fetch : Nat) (record : Fetched) : Prop :=
  ∃ reply, Flight.Accepts service (run.state moment) (run.state (moment + 1)) resource fetch reply
    record

def FailsAt (moment : Nat) (resource : Resource) (fetch : Nat) (error : Error) : Prop :=
  (run.state moment).Unfinished resource fetch ∧
    (run.state (moment + 1)).fetchPhase? fetch = some (.finished (.failed error))

/-! ## One moment and the next -/

omit run in
/-- The step after a part of the steps that is known to be taken. -/
theorem getElem?_of_prefix {steps taken : List Step} {next : Step}
    (first : taken ++ [next] <+: steps) : steps[taken.length]? = some next := by
  obtain ⟨rest, rfl⟩ := first
  simp

theorem state_succ_of_step {moment : Nat} {taken : Step}
    (present : run.steps[moment]? = some taken) :
    run.state (moment + 1) = step (run.state moment) taken := by
  simp [state, Client.run, List.take_add_one, present]

theorem state_succ_of_none {moment : Nat} (absent : run.steps[moment]? = none) :
    run.state (moment + 1) = run.state moment := by
  simp [state, List.take_add_one, absent]

def history : Flight.History anything service where
  state := run.state
  starts := ⟨_, rfl⟩
  next moment := by
    cases present : run.steps[moment]? with
    | none =>
        rw [run.state_succ_of_none present]
        exact .nothing
    | some taken =>
        rw [run.state_succ_of_step present]
        exact step_next _ taken

theorem clock_succ_of_end {moment : Nat} (past : run.steps.length ≤ moment) :
    run.clock (moment + 1) = run.clock moment := by
  rw [clock, client, run.state_succ_of_none (List.getElem?_eq_none past)]
  rfl

/-- A clock that no step turns back never goes back. -/
theorem forward_of_steps (number : (run.clock 0).le (run.clock 0) = true)
    (steps : ∀ moment < run.steps.length, (run.clock moment).le (run.clock (moment + 1)) = true) :
    run.Forward := by
  have self : ∀ moment, (run.clock moment).le (run.clock moment) = true := by
    intro moment
    induction moment with
    | zero => exact number
    | succ moment inductionHypothesis =>
        rcases Nat.lt_or_ge moment run.steps.length with before | past
        · exact Double.le_refl_of_le (steps moment before)
        · rw [run.clock_succ_of_end past]
          exact inductionHypothesis
  intro earlier later order
  induction order with
  | refl => exact self earlier
  | @step moment order inductionHypothesis =>
      rcases Nat.lt_or_ge moment run.steps.length with before | past
      · exact Double.le_trans inductionHypothesis (steps moment before)
      · rw [run.clock_succ_of_end past]
        exact inductionHypothesis

inductive Change (moment : Nat) : Prop where
  | tidied (tidied : Tidied (run.client moment) (run.client (moment + 1)))
  | clocked (now : Double)
      (client : run.client (moment + 1) = { run.client moment with now := now })
  | swept (now : Double) (keep : Option String)
      (present : run.steps[moment]? = some (.sweep now keep))
      (client : run.client (moment + 1) = (run.client moment).sweep now keep)
  | accepted (resource : Resource) (fetch : Nat) (record : Fetched)
      (accepted : run.Accepted moment resource fetch record)

theorem world_of_move {moment : Nat} {action : Action}
    (present : run.steps[moment]? = some (.move action)) :
    Flight.WorldChange (.still fun _ => True) service (run.state moment)
      (run.state (moment + 1)) := by
  have registered : Flight.Registered (run.state moment) := (run.history.orderly moment).registered
  have next :
      Flight.Next (.still fun _ => True) service (run.state moment) (run.state (moment + 1)) := by
    rw [run.state_succ_of_step present]
    exact Flight.step_next service _ action fun _ _ => True.intro
  exact next.world registered

/-- A fetch that has its reply is accepted, or the caches stay as they are. -/
theorem accepted_or_kept {moment fetch : Nat} {resource : Resource} {reply : Reply}
    (unfinished : (run.state moment).Unfinished resource fetch)
    (world : (run.state (moment + 1)).world =
      (service.accept resource reply (run.state moment).world).1)
    (finished : (run.state (moment + 1)).fetchPhase? fetch =
      some (.finished (.ofExcept (service.accept resource reply (run.state moment).world).2))) :
    (∃ record, run.Accepted moment resource fetch record) ∨
      (run.clock (moment + 1) = run.clock moment ∧
        (run.client (moment + 1)).cache = (run.client moment).cache) := by
  rcases result : service.accept resource reply (run.state moment).world with ⟨after, made⟩
  rw [result] at world finished
  cases made with
  | ok record =>
      refine .inl ⟨record, reply, unfinished, ?_, finished⟩
      rw [result, world]
  | error error =>
      obtain ⟨now, cache⟩ := accept_error result
      exact .inr ⟨(congrArg Client.now world).trans now, (congrArg Client.cache world).trans cache⟩

theorem change_of_move {moment : Nat} {action : Action}
    (present : run.steps[moment]? = some (.move action)) : run.Change moment := by
  cases run.world_of_move present with
  | kept world => exact .tidied ⟨congrArg Client.now world, .inl (congrArg Client.cache world)⟩
  | drifted drifts => exact drifts.elim
  | proceeded caller phase move proceeds => exact .tidied (proceed_turned proceeds.moves).tidied
  | departed phase leaves =>
      obtain ⟨now, cache⟩ := leave_keeps leaves
      exact .tidied ⟨now, .inl cache⟩
  | replied resource fetch reply unfinished world finished =>
      rcases run.accepted_or_kept unfinished world finished with ⟨record, accepted⟩ | ⟨now, cache⟩
      · exact .accepted resource fetch record accepted
      · exact .tidied ⟨now, .inl cache⟩

theorem change (moment : Nat) : run.Change moment := by
  cases present : run.steps[moment]? with
  | none =>
      have same := congrArg Flight.State.world (run.state_succ_of_none present)
      exact .tidied ⟨congrArg Client.now same, .inl (congrArg Client.cache same)⟩
  | some taken =>
      have next := run.state_succ_of_step present
      cases taken with
      | move action => exact run.change_of_move present
      | clock now => exact .clocked now (congrArg Flight.State.world next)
      | sweep now keep => exact .swept now keep present (congrArg Flight.State.world next)

variable {run}

/-- What is accepted is decoded from one response at that moment and taken into the caches. -/
theorem Accepted.response {moment fetch : Nat} {resource : Resource} {record : Fetched}
    (accepted : run.Accepted moment resource fetch record) :
    ∃ data, Flight.Accepts service (run.state moment) (run.state (moment + 1)) resource fetch
        (.ok data) record ∧
      Fetched.decode resource data (run.clock moment) = .ok record ∧
      Tidied { run.client moment with cache := record.keep (run.client moment).cache }
        (run.client (moment + 1)) := by
  obtain ⟨reply, accepts⟩ := accepted
  obtain ⟨data, rfl, decoded, tidied⟩ := accept_ok accepts.accepted
  exact ⟨data, accepts, decoded, tidied⟩

theorem Accepted.decoded {moment fetch : Nat} {resource : Resource} {record : Fetched}
    (accepted : run.Accepted moment resource fetch record) :
    ∃ data, Fetched.decode resource data (run.clock moment) = .ok record ∧
      Tidied { run.client moment with cache := record.keep (run.client moment).cache }
        (run.client (moment + 1)) := by
  obtain ⟨data, -, decoded, tidied⟩ := accepted.response
  exact ⟨data, decoded, tidied⟩

theorem Accepted.fetchedAt? {moment fetch : Nat} {resource : Resource} {record : Fetched}
    (accepted : run.Accepted moment resource fetch record) :
    record.fetchedAt? = some (run.clock moment) := by
  obtain ⟨data, decoded, -⟩ := accepted.decoded
  exact fetchedAt?_of_decode decoded

theorem FailsAt.refused {moment fetch : Nat} {resource : Resource} {error : Error}
    (fails : run.FailsAt moment resource fetch error) :
    ∃ reply, (run.client moment).accept resource reply =
      (run.client (moment + 1), .error error) := by
  rcases (run.history.next moment).ends fails.1 fails.2 with cancelled | ⟨reply, world, ending⟩
  · cases cancelled
  · refine ⟨reply, ?_⟩
    have world' : run.client (moment + 1) = ((run.client moment).accept resource reply).1 := world
    rcases result : (run.client moment).accept resource reply with ⟨after, made⟩
    have ending' : Flight.Ending.failed error = .ofExcept made := by
      rw [ending]
      exact congrArg Flight.Ending.ofExcept (congrArg Prod.snd result)
    cases made with
    | ok record => cases ending'
    | error cause =>
        cases ending'
        rw [world', result]

variable (run)

/-! ## What the caches hold -/

theorem cache_wellFormed (moment : Nat) :
    (run.client moment).cache.lifetimes = run.lifetimes ∧ (run.client moment).cache.Tidy := by
  induction moment with
  | zero => exact ⟨rfl, Cache.tidy_empty _ _⟩
  | succ moment inductionHypothesis =>
      obtain ⟨lifetimes, tidy⟩ := inductionHypothesis
      cases run.change moment with
      | tidied tidied =>
          obtain ⟨sameLifetimes, -, staysTidy⟩ := tidied.keeps
          exact ⟨sameLifetimes.trans lifetimes, staysTidy tidy⟩
      | clocked now client =>
          rw [client]
          exact ⟨lifetimes, tidy⟩
      | swept now keep present client =>
          rw [client, sweep_cache]
          exact ⟨lifetimes, tidy.sweep _ _⟩
      | accepted resource fetch record accepted =>
          obtain ⟨data, decoded, tidied⟩ := accepted.decoded
          obtain ⟨sameLifetimes, -, staysTidy⟩ := tidied.keeps
          exact ⟨(sameLifetimes.trans (keep_lifetimes _ _)).trans lifetimes,
            staysTidy (keep_tidy tidy)⟩

theorem cache_linked (moment : Nat) : (run.client moment).cache.linked = run.linked := by
  induction moment with
  | zero => rfl
  | succ moment inductionHypothesis =>
      cases run.change moment with
      | tidied tidied => exact tidied.linked.trans inductionHypothesis
      | clocked now client =>
          rw [client]
          exact inductionHypothesis
      | swept now keep present client =>
          rw [client, sweep_cache]
          exact inductionHypothesis
      | accepted resource fetch record accepted =>
          obtain ⟨data, decoded, tidied⟩ := accepted.decoded
          exact (tidied.linked.trans (keep_linked _ _)).trans inductionHypothesis

variable {run} in
/-- What is accepted is taken into the caches, and a new state sweeps the identities if it is linked
to them. -/
theorem Accepted.cache {moment fetch : Nat} {resource : Resource} {record : Fetched}
    (accepted : run.Accepted moment resource fetch record) :
    run.clock (moment + 1) = run.clock moment ∧
      (run.client (moment + 1)).cache =
        if resource = .state ∧ run.linked = true then
          (record.keep (run.client moment).cache).sweep (run.clock moment) none
        else record.keep (run.client moment).cache := by
  obtain ⟨reply, accepts⟩ := accepted
  have taken : (run.client moment).accept resource reply =
      (run.client (moment + 1), .ok record) := accepts.accepted
  obtain ⟨data, -, -, now, cache⟩ := response_of_accept taken
  rw [run.cache_linked moment] at cache
  exact ⟨now, cache⟩

/-- A cached snapshot was cached at an earlier moment, or it was accepted as a whole since. -/
theorem snapshot_since {first last : Nat} (order : first ≤ last) :
    (run.client last).cache.snapshot = (run.client first).cache.snapshot ∨
      ∃ accepted fetch, first ≤ accepted ∧ accepted < last ∧
        run.Accepted accepted .state fetch (.state (run.client last).cache.snapshot) := by
  induction order with
  | refl => exact .inl rfl
  | @step last order inductionHypothesis =>
      have kept : (run.client (last + 1)).cache.snapshot = (run.client last).cache.snapshot →
          (run.client (last + 1)).cache.snapshot = (run.client first).cache.snapshot ∨
            ∃ accepted fetch, first ≤ accepted ∧ accepted < last + 1 ∧
              run.Accepted accepted .state fetch
                (.state (run.client (last + 1)).cache.snapshot) := by
        intro same
        rw [same]
        refine inductionHypothesis.imp_right fun ⟨accepted, fetch, after, before, taken⟩ => ?_
        exact ⟨accepted, fetch, after, Nat.lt_succ_of_lt before, taken⟩
      cases run.change last with
      | tidied tidied => exact kept tidied.keeps.2.1
      | clocked now client => exact kept (by rw [client])
      | swept now keep present client => exact kept (by rw [client, sweep_cache]; rfl)
      | accepted resource fetch record accepted =>
          obtain ⟨data, decoded, tidied⟩ := accepted.decoded
          have same := tidied.keeps.2.1
          rcases decode_eq_ok decoded with
            ⟨rfl, snapshot, rfl, -⟩ | ⟨identifier, identity, rfl, rfl, -⟩
          · refine .inr ⟨last, fetch, order, Nat.lt_succ_self last, ?_⟩
            rw [same]
            exact accepted
          · exact kept same

/-- A cached snapshot is the first one, or it was accepted as a whole at an earlier moment. -/
theorem snapshot_accepted (moment : Nat) :
    (run.client moment).cache.snapshot = .empty ∨
      ∃ earlier fetch, earlier < moment ∧
        run.Accepted earlier .state fetch (.state (run.client moment).cache.snapshot) := by
  rcases run.snapshot_since (Nat.zero_le moment) with
    first | ⟨accepted, fetch, -, before, taken⟩
  · exact .inl first
  · exact .inr ⟨accepted, fetch, before, taken⟩

end Run

end FeatureFlags.Client
