import FeatureFlags.Proofs.Client.Moments

/-!
# No needless and no overlapping fetches

While the clock does not go back and no sweep runs ahead of it, a record stays cached for as long
as it is fresh, and a fetch that has not started yet is one whose resource is not fresh: nothing
between the look at the cache and the first turn of the fetch could have renewed the resource.  So
no fetch starts while an earlier one of its resource still counts (`fetches_spared`).
-/

set_option autoImplicit false

namespace FeatureFlags.Client

namespace Run

variable (run : Run)

/-- No sweep that is asked for from outside runs ahead of the clock.  Calls and accepted fetches
sweep by themselves, at the time of the clock, and a run without other sweeps is in time. -/
def SweepsInTime : Prop :=
  ∀ (moment : Nat) (now : Double) (keep : Option String),
    run.steps[moment]? = some (.sweep now keep) → now.le (run.clock moment) = true

/-- The step at a moment is the first turn of a fetch of a resource. -/
def Starts (moment : Nat) (resource : Resource) (fetch : Nat) : Prop :=
  (run.state moment).starting? = some (fetch, resource) ∧
    ∃ given, run.steps[moment]? = some (.move (.turn given))

def holds (moment : Nat) (resource : Resource) : Bool :=
  (run.client moment).cache.holds (run.clock moment) resource

variable {run}

theorem not_holds_of_tidied {client after : Client} {resource : Resource}
    (tidied : Tidied client after)
    (tidy : client.cache.Tidy) (stale : client.cache.holds client.now resource = false) :
    after.cache.holds after.now resource = false := by
  rw [tidied.now]
  rcases tidied.cache with same | ⟨keep, swept⟩
  · rw [same]
    exact stale
  · rw [swept]
    exact tidy.not_holds_sweep stale _ keep

theorem covers_of_tidied {client after : Client} {resource : Resource} {fetchedAt : Double}
    (tidied : Tidied client after) (tidy : client.cache.Tidy)
    (covers : client.cache.Covers client.now fetchedAt resource) :
    after.cache.Covers after.now fetchedAt resource := by
  rw [tidied.now]
  rcases tidied.cache with same | ⟨keep, swept⟩
  · rw [same]
    exact covers
  · rw [swept]
    exact covers.sweep tidy (.inl rfl) keep

/-- A resource that is not fresh stays so until a fetch of it is accepted. -/
theorem not_holds_succ (forward : run.Forward) {moment : Nat} {resource : Resource}
    (stale : run.holds moment resource = false)
    (pending : ∀ fetch record, ¬ run.Accepted moment resource fetch record) :
    run.holds (moment + 1) resource = false := by
  have tidy := (run.cache_wellFormed moment).2
  unfold holds at stale ⊢
  cases run.change moment with
  | tidied tidied => exact not_holds_of_tidied tidied tidy stale
  | clocked now client =>
      have later := forward moment (moment + 1) (Nat.le_succ moment)
      unfold clock at later stale ⊢
      have same : (run.client (moment + 1)).cache = (run.client moment).cache := by rw [client]
      rw [same]
      exact Cache.not_holds_of_le later stale
  | swept now keep present client =>
      unfold clock at stale ⊢
      rw [client, sweep_now, sweep_cache]
      exact tidy.not_holds_sweep stale now keep
  | accepted other fetch record accepted =>
      have differs : resource ≠ other := by
        rintro rfl
        exact pending fetch record accepted
      obtain ⟨data, decoded, tidied⟩ := accepted.decoded
      refine not_holds_of_tidied tidied (keep_tidy tidy) ?_
      unfold Cache.holds at stale ⊢
      rw [heldSince?_keep decoded, if_neg differs, keep_lifetimes]
      exact stale

/-- A fetch that is still to start is one of a resource that is not fresh. -/
theorem not_holds_of_scheduled (forward : run.Forward) (moment : Nat) {resource : Resource}
    {fetch : Nat} (unfinished : (run.state moment).Unfinished resource fetch)
    (scheduled : (run.state moment).fetchPhase? fetch = some .scheduled) :
    run.holds moment resource = false := by
  induction moment with
  | zero => cases scheduled
  | succ moment inductionHypothesis =>
      have next := run.history.next moment
      have registered := (run.history.orderly moment).registered
      -- The fetch was scheduled before, or a caller has opened it in this turn; then that caller
      -- has just found the resource not fresh.
      cases next.fetch fetch with
      | kept phase due =>
          have before := phase.symm.trans scheduled
          have open' := next.unfinished_before before unfinished
          refine not_holds_succ forward (inductionHypothesis open' before) ?_
          rintro other record ⟨reply, accepts⟩
          cases registered.unique open' accepts.unfinished
          cases scheduled.symm.trans accepts.finished
      | opened caller phase key stage absent proceeds present due =>
          obtain ⟨found, there, status⟩ := Option.map_eq_some_iff.mp unfinished
          cases present.symm.trans there
          cases status
          exact (proceed_turned proceeds.moves).awaits key stage rfl
      | began turn old phase => cases scheduled.symm.trans phase
      | answered reply waiting phase due => cases scheduled.symm.trans phase
      | cancelled old present pending phase due => cases scheduled.symm.trans phase
      | completed found given reply turn present replied world phase due =>
          cases scheduled.symm.trans phase
      | aborted found turn present cancelling phase due => cases scheduled.symm.trans phase

/-- From the moment at which a fetch is accepted, the caches cover its resource. -/
theorem covers_of_accepted (forward : run.Forward) (inTime : run.SweepsInTime)
    {accepted fetch : Nat} {resource : Resource} {record : Fetched}
    (taken : run.Accepted accepted resource fetch record) {moment : Nat}
    (later : accepted < moment) :
    (run.client moment).cache.Covers (run.clock moment) (run.clock accepted) resource := by
  induction later with
  | refl =>
      obtain ⟨data, decoded, tidied⟩ := taken.decoded
      refine covers_of_tidied tidied (keep_tidy (run.cache_wellFormed accepted).2) ?_
      intro fresh
      have self := (le_refl_of_isFresh fresh).1
      refine ⟨self, run.clock accepted, ?_, self⟩
      rw [heldSince?_keep decoded, if_pos rfl]
  | @step moment order inductionHypothesis =>
      have tidy := (run.cache_wellFormed moment).2
      have clock := forward moment (moment + 1) (Nat.le_succ moment)
      cases run.change moment with
      | tidied tidied => exact covers_of_tidied tidied tidy inductionHypothesis
      | clocked now client =>
          have same : (run.client (moment + 1)).cache = (run.client moment).cache := by rw [client]
          rw [same]
          exact inductionHypothesis.later clock
      | swept now keep present client =>
          have sameNow : run.clock (moment + 1) = run.clock moment := by
            rw [Run.clock, client, sweep_now]
            rfl
          rw [sameNow, client, sweep_cache]
          exact inductionHypothesis.sweep tidy (.inr (inTime moment now keep present)) keep
      | accepted other otherFetch otherRecord taken =>
          obtain ⟨data, decoded, tidied⟩ := taken.decoded
          refine covers_of_tidied tidied (keep_tidy tidy) ?_
          -- A later record of the resource is as new as the clock; one of another changes nothing.
          intro fresh
          rw [keep_lifetimes] at fresh
          obtain ⟨past, newer, held, ordered⟩ := inductionHypothesis fresh
          refine ⟨past, ?_⟩
          rw [heldSince?_keep decoded]
          by_cases same : resource = other
          · rw [if_pos same]
            exact ⟨_, rfl, past⟩
          · rw [if_neg same]
            exact ⟨newer, held, ordered⟩

/-- At no moment has a resource two unfinished fetches, and once a fetch of it has been accepted
none starts for as long as what was accepted is fresh, whatever is called, answered, refused,
cancelled or swept in between. -/
theorem fetches_spared (run : Run) (forward : run.Forward) (inTime : run.SweepsInTime)
    (resource : Resource) :
    (∀ moment fetch other, (run.state moment).Unfinished resource fetch →
      (run.state moment).Unfinished resource other → fetch = other) ∧
    ∀ accepted fetch record started other, run.Accepted accepted resource fetch record →
      accepted < started → run.Starts started resource other →
        isFresh (run.clock started) (run.clock accepted) (run.lifetimes.of resource) = false := by
  constructor
  · intro moment fetch other left right
    exact (run.history.orderly moment).registered.unique left right
  · intro accepted fetch record started other taken later starts
    obtain ⟨unfinished, scheduled⟩ := Flight.State.scheduled_of_starting? _ starts.1
    have stale := not_holds_of_scheduled forward started unfinished scheduled
    have covers := covers_of_accepted forward inTime taken later
    rw [Bool.eq_false_iff]
    intro fresh
    rw [← (run.cache_wellFormed started).1] at fresh
    have held := covers.holds fresh
    rw [holds, held] at stale
    cases stale

/-- An identity is fetched at once, has expired when another identifier is looked up, and is fetched
again. -/
def renewal : Run where
  host := "flags.test"
  now := .ofInt 0
  lifetimes := .usual
  linked := true
  steps := [
    .move (.call (.start (.identify (some "ada"))) false),
    .move (.turn none),
    .move (.turn (some (.ok (.object [("overrides", .object [])])))),
    .clock (.ofInt 6),
    .move (.turn none),
    .move (.turn none),
    .move (.turn none),
    .move (.call (.start (.identify (some "bob"))) false),
    .move (.call (.start (.identify (some "ada"))) false),
    .move (.turn none),
    .move (.turn none),
    .move (.turn none),
    .move (.turn none)]

theorem fetches_spared_renewal :
    renewal.Forward ∧ renewal.SweepsInTime ∧
      renewal.Accepted 2 (.identity "ada") 0 (.identity ⟨"ada", [], renewal.clock 2⟩) ∧
      renewal.Starts 12 (.identity "ada") 2 ∧
      isFresh (renewal.clock 12) (renewal.clock 2) (renewal.lifetimes.of (.identity "ada")) =
        false := by
  have forward : renewal.Forward :=
    renewal.forward_of_steps (by decide +kernel) (by decide +kernel)
  have inTime : renewal.SweepsInTime := by
    intro moment now keep present
    have member := List.mem_of_getElem? present
    simp [renewal] at member
  have accepted : renewal.Accepted 2 (.identity "ada") 0
      (.identity ⟨"ada", [], renewal.clock 2⟩) :=
    ⟨.ok (.object [("overrides", .object [])]), rfl, rfl, rfl⟩
  have starts : renewal.Starts 12 (.identity "ada") 2 := ⟨by decide +kernel, none, rfl⟩
  exact ⟨forward, inTime, accepted, starts,
    (fetches_spared renewal forward inTime (.identity "ada")).2 2 0 _ 12 2 accepted (by decide)
      starts⟩

end Run

end FeatureFlags.Client
