import FeatureFlags.Proofs.Client.Evaluation
import FeatureFlags.Proofs.Client.Fetching
import FeatureFlags.Proofs.Flight.Steadfast

/-!
# Calls that run alone

A caller runs alone between two moments when nothing comes from outside but replies, and no other
caller goes on.  Then the clock stands still, a wait for a resource sends one request, for that
resource, and it leaves no fetch behind (`Alone.wait`); once the caller has ended nothing is
requested or cached any more (`Alone.concluded`).
-/

set_option autoImplicit false

namespace FeatureFlags.Client

/-- Turns and replies, as opposed to calls, cancellations, the clock and sweeps. -/
inductive Step.Plain : Step → Prop where
  | turn (given : Option Reply) : Plain (.move (.turn given))
  | reply (fetch : Nat) (reply : Reply) : Plain (.move (.answer fetch reply))

namespace Run

variable (run : Run)

def request? (moment : Nat) : Option Resource :=
  match run.steps[moment]? with
  | some (.move (.turn _)) => (run.state moment).starting?.map Prod.snd
  | _ => none

def requests (first last : Nat) : List Resource :=
  (List.range' first (last - first)).filterMap run.request?

/-- No fetch has been opened that has not ended. -/
def Idle (moment : Nat) : Prop :=
  ∀ resource fetch, ¬ (run.state moment).Unfinished resource fetch

/-- From one moment on until before another there are only turns and replies, and of all callers
only one goes on. -/
structure Alone (caller first last : Nat) : Prop where
  plain : ∀ moment, first ≤ moment → moment < last → ∀ taken, run.steps[moment]? = some taken →
    taken.Plain
  others : ∀ moment, first ≤ moment → moment < last → ∀ other phase move,
    Flight.Proceeds service (run.state moment) (run.state (moment + 1)) other phase move →
      other = caller

/-! ## Requests -/

theorem request?_eq_some_iff {moment : Nat} {resource : Resource} :
    run.request? moment = some resource ↔ ∃ fetch, run.Starts moment resource fetch := by
  unfold request? Starts
  constructor
  · intro requested
    split at requested
    next given present =>
        obtain ⟨⟨fetch, key⟩, starting, rfl⟩ := Option.map_eq_some_iff.mp requested
        exact ⟨fetch, starting, given, present⟩
    · cases requested
  · rintro ⟨fetch, starting, given, present⟩
    rw [present, starting]
    rfl

theorem requests_self (moment : Nat) : run.requests moment moment = [] := by
  simp [requests]

theorem requests_succ {first last : Nat} (order : first ≤ last) :
    run.requests first (last + 1) = run.requests first last ++ (run.request? last).toList := by
  have longer : last + 1 - first = last - first + 1 := by omega
  have place : first + (last - first) = last := by omega
  rw [requests, longer, List.range'_concat, List.filterMap_append, requests]
  simp only [Nat.one_mul, place, List.filterMap_cons, List.filterMap_nil]
  cases run.request? last <;> rfl

theorem requests_append {first middle last : Nat} (before : first ≤ middle)
    (after : middle ≤ last) :
    run.requests first last = run.requests first middle ++ run.requests middle last := by
  induction after with
  | refl => rw [requests_self, List.append_nil]
  | @step last order inductionHypothesis =>
      rw [run.requests_succ (before.trans order), run.requests_succ order, inductionHypothesis,
        List.append_assoc]

variable {run}

theorem request?_of_idle {moment : Nat} (idle : run.Idle moment) : run.request? moment = none := by
  refine Option.eq_none_iff_forall_ne_some.mpr fun resource requested => ?_
  obtain ⟨fetch, starting, -⟩ := run.request?_eq_some_iff.mp requested
  exact idle resource fetch (Flight.State.scheduled_of_starting? _ starting).1

theorem requests_of_idle {first last : Nat} (order : first ≤ last)
    (idle : ∀ moment, first ≤ moment → moment < last → run.Idle moment) :
    run.requests first last = [] := by
  induction order with
  | refl => exact run.requests_self first
  | @step last order inductionHypothesis =>
      have before := inductionHypothesis fun moment after sooner =>
        idle moment after (Nat.lt_succ_of_lt sooner)
      have nothing := request?_of_idle (idle last order (Nat.lt_succ_self last))
      rw [run.requests_succ order, before, nothing]
      rfl

/-! ## What the steps of a lonely caller do -/

namespace Alone

variable {caller first last : Nat}

theorem within (alone : run.Alone caller first last) {later sooner : Nat} (after : first ≤ later)
    (before : sooner ≤ last) : run.Alone caller later sooner :=
  ⟨fun moment low high => alone.plain moment (after.trans low) (Nat.lt_of_lt_of_le high before),
    fun moment low high => alone.others moment (after.trans low) (Nat.lt_of_lt_of_le high before)⟩

theorem next (alone : run.Alone caller first last) {moment : Nat} (after : first ≤ moment)
    (before : moment < last) :
    Flight.Next (.still fun _ => False) service (run.state moment) (run.state (moment + 1)) := by
  cases present : run.steps[moment]? with
  | none =>
      rw [run.state_succ_of_none present]
      exact .nothing
  | some taken =>
      rw [run.state_succ_of_step present]
      cases alone.plain moment after before taken present with
      | turn given =>
          exact Flight.step_next service (run.state moment) (.turn given) fun _ => nofun
      | reply fetch reply =>
          exact Flight.step_next service (run.state moment) (.answer fetch reply) fun _ => nofun

theorem spares (alone : run.Alone caller first last) {moment fetch : Nat} (after : first ≤ moment)
    (before : moment < last)
    (cancelling : (run.state (moment + 1)).fetchPhase? fetch = some .cancelling) :
    (run.state moment).fetchPhase? fetch = some .cancelling := by
  cases present : run.steps[moment]? with
  | none =>
      rw [run.state_succ_of_none present] at cancelling
      exact cancelling
  | some taken =>
      rw [run.state_succ_of_step present] at cancelling
      cases alone.plain moment after before taken present with
      | turn given => exact Flight.State.cancelling_of_turn cancelling
      | reply answered reply => exact Flight.State.cancelling_of_answer cancelling

/-- The clock stands still, and the caches change only in a turn of the caller and when a reply is
accepted. -/
theorem client_succ (alone : run.Alone caller first last) {moment : Nat} (after : first ≤ moment)
    (before : moment < last) :
    run.clock (moment + 1) = run.clock moment ∧
      ((run.client (moment + 1)).cache = (run.client moment).cache ∨
        (∃ phase move, Flight.Proceeds service (run.state moment) (run.state (moment + 1)) caller
          phase move) ∨
        ∃ resource fetch, (run.state moment).Unfinished resource fetch) := by
  have registered : Flight.Registered (run.state moment) := (run.history.orderly moment).registered
  cases (alone.next after before).world registered with
  | kept world => exact ⟨congrArg Client.now world, .inl (congrArg Client.cache world)⟩
  | drifted drifts => exact drifts.elim
  | proceeded other phase move proceeds =>
      obtain rfl := alone.others moment after before other phase move proceeds
      exact ⟨(proceed_turned proceeds.moves).tidied.now, .inr (.inl ⟨phase, move, proceeds⟩)⟩
  | departed phase leaves =>
      obtain ⟨now, cache⟩ := leave_keeps leaves
      exact ⟨now, .inl cache⟩
  | replied resource fetch reply unfinished world finished =>
      refine ⟨?_, .inr (.inr ⟨resource, fetch, unfinished⟩)⟩
      rcases run.accepted_or_kept unfinished world finished with ⟨record, accepted⟩ | ⟨now, -⟩
      · exact accepted.cache.1
      · exact now

theorem clock_eq (alone : run.Alone caller first last) {moment : Nat} (after : first ≤ moment)
    (before : moment ≤ last) : run.clock moment = run.clock first := by
  induction after with
  | refl => rfl
  | @step moment order inductionHypothesis =>
      rw [(alone.client_succ order before).1]
      exact inductionHypothesis (Nat.le_of_succ_le before)

/-! ## A wait -/

section Wait

variable {asked returned fetch : Nat} {resource : Resource} {stage : Stage}
  {ending : Flight.Ending Fetched}

theorem unfinished_of_asks
    (awaits : Flight.Awaits service run.state caller resource stage fetch asked ending returned) :
    (run.state (asked + 1)).Unfinished resource fetch := by
  obtain ⟨phase, asks⟩ := awaits.asks
  obtain ⟨other, found, waiting, present, sameKey, unfinished, -⟩ := asks.reached
  cases (awaits.onHold (asked + 1) (Nat.lt_succ_self _) awaits.order).held? waiting
  exact Option.map_eq_some_iff.mpr ⟨found, present, by rw [sameKey, unfinished]⟩

theorem finished_of_goesOn
    (awaits : Flight.Awaits service run.state caller resource stage fetch asked ending returned) :
    (run.state returned).fetchPhase? fetch = some (.finished ending) := by
  obtain ⟨move, goesOn⟩ := awaits.goesOn
  exact (run.history.orderly returned).attended.told caller stage fetch ending goesOn.present

/-- While a lonely caller waits, the fetch that it waits for is the only one under way. -/
theorem only_fetch (alone : run.Alone caller asked returned) (idle : run.Idle asked)
    (awaits : Flight.Awaits service run.state caller resource stage fetch asked ending returned)
    {moment : Nat} (after : asked < moment) (before : moment ≤ returned) {other : Resource}
    {opened : Nat} (unfinished : (run.state moment).Unfinished other opened) :
    other = resource ∧ opened = fetch := by
  obtain ⟨asking, asks⟩ := awaits.asks
  induction after generalizing other opened with
  | refl =>
      obtain ⟨opener, phase, next, opens⟩ :=
        (run.history.next asked).asks_of_unfinished (idle other opened) unfinished
      obtain rfl := alone.others asked (Nat.le_refl _) awaits.order opener phase _ opens
      -- A caller makes one move in its turn.
      cases opens.present.symm.trans asks.present
      cases opens.moves.symm.trans asks.moves
      exact ⟨rfl, (run.history.orderly (asked + 1)).registered.unique unfinished
        (unfinished_of_asks awaits)⟩
  | @step moment after inductionHypothesis =>
      by_cases earlier : (run.state moment).Unfinished other opened
      · exact inductionHypothesis (Nat.le_of_succ_le before) earlier
      · obtain ⟨opener, phase, next, opens⟩ :=
          (run.history.next moment).asks_of_unfinished earlier unfinished
        obtain rfl := alone.others moment (Nat.le_of_succ_le after) before opener phase _ opens
        -- Who goes on has been told the ending of its fetch, and so it does not wait for it again.
        obtain ⟨awaited, found, waiting, present, -, pending, -⟩ := opens.reached
        cases (awaits.onHold (moment + 1) (Nat.lt_succ_of_lt after) before).held? waiting
        rcases awaits.onHold moment after (Nat.le_of_succ_le before) with
          still | ⟨told, woken⟩
        · cases opens.present.symm.trans still
          cases opens.moves
        · have finished :=
            (run.history.orderly moment).attended.told opener stage fetch told woken
          have later := (run.history.next moment).fetchPhase?_finished finished
          rw [Flight.State.fetchPhase?_of_fetch? _ present] at later
          rw [Option.some.inj later] at pending
          cases pending

theorem idle_returned (alone : run.Alone caller asked returned) (idle : run.Idle asked)
    (awaits : Flight.Awaits service run.state caller resource stage fetch asked ending returned) :
    run.Idle returned := by
  intro other opened unfinished
  obtain ⟨rfl, rfl⟩ := alone.only_fetch idle awaits awaits.order (Nat.le_refl _) unfinished
  exact Flight.not_finished_of_unfinished unfinished (finished_of_goesOn awaits)

/-- A fetch that is still to start does so in its first turn, and then it sends its request. -/
theorem request?_of_scheduled (alone : run.Alone caller first last) {moment : Nat}
    (after : first ≤ moment) (before : moment < last)
    (unfinished : (run.state moment).Unfinished resource fetch)
    (scheduled : (run.state moment).fetchPhase? fetch = some .scheduled) :
    (run.state (moment + 1)).fetchPhase? fetch = some .scheduled ∨
      run.request? moment = some resource := by
  cases present : run.steps[moment]? with
  | none =>
      rw [run.state_succ_of_none present]
      exact .inl scheduled
  | some taken =>
      cases alone.plain moment after before taken present with
      | reply answered reply =>
          rw [run.state_succ_of_step present]
          exact .inl (Flight.State.scheduled_of_answer scheduled)
      | turn given =>
          have starts : (run.state moment).agenda.head? = some (.fetch fetch) →
              run.request? moment = some resource := fun turn =>
            run.request?_eq_some_iff.mpr
              ⟨fetch, Flight.State.starting?_of_scheduled turn unfinished scheduled, given, present⟩
          have changes : Flight.FetchChange service (run.state moment) (run.state (moment + 1))
              fetch := (run.history.next moment).fetch fetch
          cases changes with
          | kept phase due => exact .inl (phase.trans scheduled)
          | opened caller phase key stage absent proceeds opened due =>
              rw [Flight.State.fetchPhase?, absent] at scheduled
              cases scheduled
          | began turn old phase => exact .inr (starts turn)
          | answered reply waiting phase due => cases scheduled.symm.trans waiting
          | cancelled old found pending phase due =>
              cases scheduled.symm.trans (alone.spares after before phase)
          | completed found given reply turn there replied world phase due =>
              exact .inr (starts turn)
          | aborted found turn there cancelling phase due => exact .inr (starts turn)

/-- The fetch that a lonely caller waits for sends the only request of the wait. -/
theorem requests_of_wait (alone : run.Alone caller asked returned) (idle : run.Idle asked)
    (awaits : Flight.Awaits service run.state caller resource stage fetch asked ending returned) :
    run.requests asked returned = [resource] := by
  have opened := unfinished_of_asks awaits
  obtain ⟨found, present, status⟩ := Option.map_eq_some_iff.mp opened
  have ownKey : found.key = resource := congrArg Prod.fst status
  -- The request is sent in the turn in which the fetch stops being scheduled.
  suffices sent : ∀ moment, asked < moment → moment ≤ returned →
      ((run.state moment).fetchPhase? fetch = some .scheduled ∧ run.requests asked moment = []) ∨
        ((run.state moment).fetchPhase? fetch ≠ some .scheduled ∧
          run.requests asked moment = [resource]) by
    rcases sent returned awaits.order (Nat.le_refl _) with ⟨scheduled, -⟩ | ⟨-, requests⟩
    · cases scheduled.symm.trans (finished_of_goesOn awaits)
    · exact requests
  intro moment after
  induction after with
  | refl =>
      intro before
      refine .inl ⟨(run.history.next asked).scheduled_of_opened (idle resource fetch) opened, ?_⟩
      rw [run.requests_succ (Nat.le_refl asked), run.requests_self, request?_of_idle idle]
      rfl
  | @step moment after inductionHypothesis =>
      intro before
      obtain ⟨later, there, sameKey⟩ := run.history.fetch?_later after present
      have known := Flight.State.fetchPhase?_of_fetch? (run.state moment) there
      rw [run.requests_succ (Nat.le_of_lt after)]
      cases requested : run.request? moment with
      | some other =>
          obtain ⟨started, starting, given, turn⟩ := run.request?_eq_some_iff.mp requested
          obtain ⟨unfinished, scheduled⟩ := Flight.State.scheduled_of_starting? _ starting
          obtain ⟨rfl, rfl⟩ :=
            alone.only_fetch idle awaits after (Nat.le_of_succ_le before) unfinished
          rcases inductionHypothesis (Nat.le_of_succ_le before) with ⟨-, requests⟩ | ⟨begun, -⟩
          · rw [run.state_succ_of_step turn, requests]
            exact .inr ⟨Flight.State.started_of_turn starting, rfl⟩
          · exact absurd scheduled begun
      | none =>
          rcases inductionHypothesis (Nat.le_of_succ_le before) with
            ⟨scheduled, requests⟩ | ⟨begun, requests⟩
          · have unfinished : (run.state moment).Unfinished resource fetch := by
              have phase := Option.some.inj (known.symm.trans scheduled)
              exact Option.map_eq_some_iff.mpr ⟨later, there, by rw [sameKey, ownKey, phase]; rfl⟩
            rcases alone.request?_of_scheduled (Nat.le_of_lt after) before unfinished scheduled with
              stays | sends
            · exact .inl ⟨stays, by rw [requests]; rfl⟩
            · cases requested.symm.trans sends
          · exact .inr ⟨fun again => begun ((run.history.next moment).scheduled_before known again),
              by rw [requests]; rfl⟩

/-- A wait of a lonely caller changes the snapshot only by an accepted state that it waits for. -/
theorem snapshot_of_wait (alone : run.Alone caller asked returned) (idle : run.Idle asked)
    (awaits : Flight.Awaits service run.state caller resource stage fetch asked ending returned) :
    (run.client returned).cache.snapshot = (run.client asked).cache.snapshot ∨
      (resource = .state ∧ ∃ moment, asked ≤ moment ∧ moment < returned ∧
        run.Accepted moment .state fetch (.state (run.client returned).cache.snapshot)) := by
  rcases run.snapshot_since (Nat.le_of_lt awaits.order) with
    same | ⟨moment, accepting, after, before, accepted⟩
  · exact .inl same
  · have unfinished : (run.state moment).Unfinished .state accepting := by
      obtain ⟨reply, accepts⟩ := accepted
      exact accepts.unfinished
    rcases Nat.eq_or_lt_of_le after with rfl | later
    · exact absurd unfinished (idle .state accepting)
    · obtain ⟨rfl, rfl⟩ :=
        alone.only_fetch idle awaits later (Nat.le_of_lt before) unfinished
      exact .inr ⟨rfl, moment, after, before, accepted⟩

end Wait

/-! ## The end -/

section End

variable {result : Except Error Answer} {phase : Phase}

/-- Once a lonely caller has ended nobody goes on. -/
theorem nobody_proceeds (alone : run.Alone caller first last)
    (finishes : Flight.Proceeds service (run.state first) (run.state (first + 1)) caller phase
      (.finish result)) {moment : Nat} (after : first < moment) (before : moment < last)
    {other : Nat} {reached : Phase} {move : Move} :
    ¬ Flight.Proceeds service (run.state moment) (run.state (moment + 1)) other reached move := by
  intro proceeds
  obtain rfl := alone.others moment (Nat.le_of_lt after) before other reached move proceeds
  have ended := run.history.callerPhase?_finished after finishes.reached
  cases proceeds.present.symm.trans ended
  cases proceeds.moves

theorem idle_of_finish (alone : run.Alone caller first last) (idle : run.Idle first)
    (finishes : Flight.Proceeds service (run.state first) (run.state (first + 1)) caller phase
      (.finish result)) {moment : Nat} (after : first ≤ moment) (before : moment ≤ last) :
    run.Idle moment := by
  intro resource fetch
  refine run.history.closed_until_asked after (idle resource) ?_ fetch
  intro middle since until' other reached stage asks
  rcases Nat.eq_or_lt_of_le since with rfl | later
  · obtain rfl :=
      alone.others first since (Nat.lt_of_lt_of_le until' before) other reached _ asks
    cases asks.present.symm.trans finishes.present
    cases asks.moves.symm.trans finishes.moves
  · exact alone.nobody_proceeds finishes later (Nat.lt_of_lt_of_le until' before) asks

/-- Once a lonely caller has ended nothing is requested. -/
theorem requests_of_finish (alone : run.Alone caller first last) (idle : run.Idle first)
    (finishes : Flight.Proceeds service (run.state first) (run.state (first + 1)) caller phase
      (.finish result)) (order : first ≤ last) : run.requests first last = [] :=
  requests_of_idle order fun _ after before =>
    alone.idle_of_finish idle finishes after (Nat.le_of_lt before)

/-- Once a lonely caller has ended the caches stay as they are. -/
theorem cache_of_finish (alone : run.Alone caller first last) (idle : run.Idle first)
    (finishes : Flight.Proceeds service (run.state first) (run.state (first + 1)) caller phase
      (.finish result)) (order : first < last) :
    (run.client last).cache = (run.client (first + 1)).cache := by
  suffices same : ∀ moment, first < moment → moment ≤ last →
      (run.client moment).cache = (run.client (first + 1)).cache from
    same last order (Nat.le_refl last)
  intro moment after
  induction after with
  | refl => exact fun _ => rfl
  | @step moment after inductionHypothesis =>
      intro before
      have since := Nat.le_of_lt after
      rcases (alone.client_succ since before).2 with
        same | ⟨reached, move, proceeds⟩ | ⟨resource, fetch, unfinished⟩
      · rw [same]
        exact inductionHypothesis (Nat.le_of_lt before)
      · exact absurd proceeds (alone.nobody_proceeds finishes after before)
      · exact absurd unfinished
          (alone.idle_of_finish idle finishes since (Nat.le_of_lt before) resource fetch)

end End

/-- A lonely caller that goes on when nothing is under way is never cancelled. -/
theorem steadfast (alone : run.Alone caller first last) (idle : run.Idle first) {phase : Phase}
    {move : Move}
    (proceeds : Flight.Proceeds service (run.state first) (run.state (first + 1)) caller phase move)
    {moment : Nat} (after : first ≤ moment) (before : moment ≤ last) :
    Flight.Steadfast (run.state moment) caller := by
  induction after with
  | refl => exact proceeds.steadfast idle
  | @step moment after inductionHypothesis =>
      exact (inductionHypothesis (Nat.le_of_succ_le before)).next
        (run.history.orderly moment).registered (alone.next after before)
        fun fetch => alone.spares after before

end Alone

end Run

end FeatureFlags.Client
