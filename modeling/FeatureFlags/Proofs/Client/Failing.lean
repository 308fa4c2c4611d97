import FeatureFlags.Proofs.Client.Agenda
import FeatureFlags.Proofs.Client.Stages

/-!
# What a failed fetch leaves behind

A fetch fails with the error of its reply or with the fault of the data that it brought.  Its end
leaves the caches as they are, everyone who waits for it ends with that very error, and it is in
nobody's way: the next call that needs the resource starts a fetch of its own.  `FailsCleanly`
collects this, and `failure_clean` proves it of every fetch that fails in a run.
-/

set_option autoImplicit false

namespace FeatureFlags.Client

/-- A call that has started and is handed an error ends with that error. -/
theorem resume_error {stage : Stage} (started : ∀ call, stage ≠ .start call) (error : Error)
    (client : Client) : (client.resume stage (.error error)).2 = .finish (.error error) := by
  cases stage with
  | start call => exact absurd rfl (started call)
  | refreshing purpose => rfl
  | identifying => rfl
  | matching query closes => rfl
  | deciding query identity closes => rfl

namespace Run

variable (run : Run)

def Uncancelled (caller first last : Nat) : Prop :=
  ∀ moment, first ≤ moment → moment < last → run.steps[moment]? ≠ some (.move (.cancel caller))

/-- Nobody goes to wait for a resource in a stretch of the run. -/
def Unasked (resource : Resource) (first last : Nat) : Prop :=
  ∀ moment, first ≤ moment → moment < last → ∀ caller phase stage,
    ¬ Flight.Proceeds service (run.state moment) (run.state (moment + 1)) caller phase
      (.await resource stage)

/-- How far the error of its fetch has come on its way to a caller. -/
inductive Gets (caller : Nat) (stage : Stage) (fetch : Nat) (error : Error) (moment : Nat) : Prop
    where
  | waiting (phase : (run.state moment).callerPhase? caller = some (.waiting stage fetch))
      (due : .deliver fetch caller ∈ (run.state moment).agenda)
  | told (phase : (run.state moment).callerPhase? caller =
        some (.woken stage fetch (.failed error)))
      (due : .caller caller ∈ (run.state moment).agenda)
  | ended (phase : (run.state moment).callerPhase? caller = some (.finished (.failed error)))

structure FailsCleanly (moment : Nat) (resource : Resource) (fetch : Nat) (error : Error) :
    Prop where
  cause : ∃ reply,
    (run.client moment).accept resource reply = (run.client (moment + 1), .error error) ∧
      (reply = .error error ∨
        ∃ data, reply = .ok data ∧
          Fetched.decode resource data (run.clock moment) = .error error)
  caches : (run.client (moment + 1)).cache = (run.client moment).cache
  /-- Whoever has joined the fetch and is not cancelled gets the error and nothing else. -/
  delivered : ∀ caller stage joined later,
    (run.state joined).callerPhase? caller = some (.waiting stage fetch) → joined ≤ moment →
      moment < later → run.Uncancelled caller joined later →
        run.Gets caller stage fetch error later
  /-- Once all that is due has had its turn, and then all that is due at the end of that, they have
  ended with it. -/
  ends : ∀ caller stage joined first second third,
    (run.state joined).callerPhase? caller = some (.waiting stage fetch) → joined ≤ moment →
      moment < first → first ≤ second → second ≤ third → run.Uncancelled caller joined third →
        run.turns first + (run.state first).agenda.length ≤ run.turns second →
          run.turns second + (run.state second).agenda.length ≤ run.turns third →
            (run.state third).callerPhase? caller = some (.finished (.failed error))
  /-- Until the resource is asked for again, no fetch of it is found. -/
  free : ∀ later, moment < later → run.Unasked resource (moment + 1) later →
    (run.state later).open? resource = none
  /-- The next call that needs the resource starts a fetch of its own. -/
  restarts : ∀ later caller phase given, moment < later →
    run.Unasked resource (moment + 1) later →
      run.steps[later]? = some (.move (.turn given)) →
        (run.state later).agenda.head? = some (.caller caller) →
          (run.state later).callerPhase? caller = some phase →
            Needs (run.client later) phase resource →
              (run.state (later + 1)).fetches =
                  (run.state later).fetches ++ [⟨resource, .scheduled, [caller]⟩] ∧
                ∃ stage, (run.state (later + 1)).callerPhase? caller =
                  some (.waiting stage (run.state later).fetches.length)

variable {run}

/-! ## Delivery -/

theorem started_of_onHold {caller fetch moment : Nat} {stage : Stage}
    (onHold : Flight.OnHold (run.state moment) caller stage fetch) (call : Call) :
    stage ≠ .start call := by
  obtain ⟨asked, phase, resource, -, asks, -⟩ := run.history.asked_of_onHold onHold
  rintro rfl
  exact (proceed_turned asks.moves).starts resource call rfl

theorem next_of_kept {caller moment : Nat}
    (kept : run.steps[moment]? ≠ some (.move (.cancel caller))) :
    Flight.Next ⟨(· ≠ caller), fun _ _ => True⟩ service (run.state moment)
      (run.state (moment + 1)) := by
  cases present : run.steps[moment]? with
  | none =>
      rw [run.state_succ_of_none present]
      exact .nothing
  | some taken =>
      rw [run.state_succ_of_step present]
      cases taken with
      | clock now => exact .worldChanged _ True.intro
      | sweep now keep => exact .worldChanged _ True.intro
      | move action =>
          refine Flight.step_next service _ action fun other cancels same => ?_
          subst same
          exact kept (present.trans (congrArg (fun action => some (Step.move action)) cancels))

/-- A step that does not cancel a caller on hold leaves it on hold, or it is the turn in which the
caller goes on with the ending of its fetch. -/
theorem onHold_succ {caller fetch moment : Nat} {stage : Stage}
    (kept : run.steps[moment]? ≠ some (.move (.cancel caller)))
    (onHold : Flight.OnHold (run.state moment) caller stage fetch) :
    Flight.OnHold (run.state (moment + 1)) caller stage fetch ∨
      ∃ ending, (run.state moment).callerPhase? caller = some (.woken stage fetch ending) ∧
        (ending = .cancelled ∨
          ∃ move, Flight.Proceeds service (run.state moment) (run.state (moment + 1)) caller
            (.woken stage fetch ending) move) := by
  have registered : Flight.Registered (run.state moment) := (run.history.orderly moment).registered
  rcases (next_of_kept kept).onHold registered onHold with
    stays | ⟨may, -⟩ | ⟨ending, -, woken, ⟨cancelled, -⟩ | proceeds⟩
  · exact .inl stays
  · exact absurd rfl may
  · exact .inr ⟨ending, woken, .inl cancelled⟩
  · exact .inr ⟨ending, woken, .inr proceeds⟩

/-- Who has joined a fetch waits for as long as that is unfinished. -/
theorem waiting_until {caller fetch joined moment : Nat} {stage : Stage} {resource : Resource}
    (order : joined ≤ moment)
    (waiting : (run.state joined).callerPhase? caller = some (.waiting stage fetch))
    (kept : run.Uncancelled caller joined moment)
    (unfinished : (run.state moment).Unfinished resource fetch) :
    (run.state moment).callerPhase? caller = some (.waiting stage fetch) := by
  obtain ⟨found, present, -⟩ :=
    (run.history.orderly joined).attended.waits caller stage fetch waiting
  suffices waits : ∀ between, joined ≤ between → between ≤ moment →
      (run.state between).callerPhase? caller = some (.waiting stage fetch) from
    waits moment order (Nat.le_refl moment)
  intro between after
  induction after with
  | refl => exact fun _ => waiting
  | @step between after inductionHypothesis =>
      intro before
      have waits := inductionHypothesis (Nat.le_of_succ_le before)
      rcases onHold_succ (kept between after before) (.inl waits) with
        (stays | ⟨ending, told⟩) | ⟨ending, woken, -⟩
      · exact stays
      · -- Told of its ending, it would wait for a fetch that has finished.
        have finished := (run.history.orderly (between + 1)).attended.told caller stage fetch
          ending told
        have still := run.history.unfinished_between (Nat.le_succ_of_le after) before present
          unfinished
        exact (Flight.not_finished_of_unfinished still finished).elim
      · cases waits.symm.trans woken

theorem gets_of_onHold {caller fetch moment : Nat} {stage : Stage} {error : Error}
    (onHold : Flight.OnHold (run.state moment) caller stage fetch)
    (failed : (run.state moment).fetchPhase? fetch = some (.finished (.failed error))) :
    run.Gets caller stage fetch error moment := by
  have attended := (run.history.orderly moment).attended
  rcases onHold with waiting | ⟨ending, woken⟩
  · exact .waiting waiting (attended.owed (.deliver fetch caller) ⟨stage, _, waiting, failed⟩)
  · have told := attended.told caller stage fetch ending woken
    cases told.symm.trans failed
    exact .told woken (attended.owed (.caller caller) (.inr (.inl ⟨stage, fetch, _, woken⟩)))

theorem ended_of_proceeds {caller fetch moment : Nat} {stage : Stage} {error : Error} {move : Move}
    (proceeds : Flight.Proceeds service (run.state moment) (run.state (moment + 1)) caller
      (.woken stage fetch (.failed error)) move) :
    (run.state (moment + 1)).callerPhase? caller = some (.finished (.failed error)) := by
  have resumed : (run.client moment).resume stage (.error error) =
      (run.client (moment + 1), move) := Option.some.inj proceeds.moves
  have started := started_of_onHold (.inr ⟨_, proceeds.present⟩)
  have finishes := (run.client moment).resume_error started error
  rw [resumed] at finishes
  cases finishes
  exact proceeds.reached

/-- A step that does not cancel the caller brings the error nearer to it, or leaves it where it is. -/
theorem Gets.succ {caller fetch moment : Nat} {stage : Stage} {error : Error}
    (gets : run.Gets caller stage fetch error moment)
    (kept : run.steps[moment]? ≠ some (.move (.cancel caller)))
    (failed : (run.state moment).fetchPhase? fetch = some (.finished (.failed error))) :
    run.Gets caller stage fetch error (moment + 1) := by
  have stillFailed := (run.history.next moment).fetchPhase?_finished failed
  have ofOnHold : Flight.OnHold (run.state moment) caller stage fetch →
      run.Gets caller stage fetch error (moment + 1) := by
    intro onHold
    rcases onHold_succ kept onHold with stays | ⟨ending, woken, goesOn⟩
    · exact gets_of_onHold stays stillFailed
    · have told := (run.history.orderly moment).attended.told caller stage fetch ending woken
      cases told.symm.trans failed
      rcases goesOn with cancelled | ⟨move, proceeds⟩
      · cases cancelled
      · exact .ended (ended_of_proceeds proceeds)
  cases gets with
  | waiting phase due => exact ofOnHold (.inl phase)
  | told phase due => exact ofOnHold (.inr ⟨_, phase⟩)
  | ended phase =>
      exact .ended (run.history.callerPhase?_finished (Nat.le_succ moment) phase)

theorem FailsAt.delivered {moment fetch caller joined later : Nat} {resource : Resource}
    {error : Error} {stage : Stage} (fails : run.FailsAt moment resource fetch error)
    (waiting : (run.state joined).callerPhase? caller = some (.waiting stage fetch))
    (order : joined ≤ moment) (after : moment < later)
    (kept : run.Uncancelled caller joined later) : run.Gets caller stage fetch error later := by
  have waits := waiting_until order waiting
    (fun between first last => kept between first (Nat.lt_trans last after)) fails.1
  induction after with
  | refl =>
      refine gets_of_onHold ?_ fails.2
      rcases onHold_succ (kept moment order (Nat.lt_succ_self moment)) (.inl waits) with
        stays | ⟨ending, woken, -⟩
      · exact stays
      · cases waits.symm.trans woken
  | @step later after inductionHypothesis =>
      have gets := inductionHypothesis fun between first last =>
        kept between first (Nat.lt_succ_of_lt last)
      have failed := run.history.fetchPhase?_finished after fails.2
      refine gets.succ (kept later ?_ (Nat.lt_succ_self later)) failed
      exact Nat.le_trans order (Nat.le_of_succ_le after)

/-- A caller that has been told of the error keeps it until it ends with it. -/
theorem told_or_ended {caller fetch told later : Nat} {stage : Stage} {error : Error}
    (order : told ≤ later) (kept : run.Uncancelled caller told later)
    (woken : (run.state told).callerPhase? caller = some (.woken stage fetch (.failed error))) :
    (run.state later).callerPhase? caller = some (.woken stage fetch (.failed error)) ∨
      (run.state later).callerPhase? caller = some (.finished (.failed error)) := by
  induction order with
  | refl => exact .inl woken
  | @step later order inductionHypothesis =>
      have registered : Flight.Registered (run.state later) :=
        (run.history.orderly later).registered
      rcases inductionHypothesis fun between first last =>
          kept between first (Nat.lt_succ_of_lt last) with woken | ended
      · cases (next_of_kept (kept later order (Nat.lt_succ_self later))).caller registered caller with
        | kept phase due => exact .inl (phase.trans woken)
        | called stage absent phase due => cases absent.symm.trans woken
        | cancelled reached may pending phase due world => exact absurd rfl may
        | told stage fetch ending waiting finished phase due => cases waiting.symm.trans woken
        | proceeded phase move proceeds =>
            cases proceeds.present.symm.trans woken
            exact .inr (ended_of_proceeds proceeds)
        | departed phase turn present leaves ended =>
            cases present.symm.trans woken
            cases leaves
      · exact .inr (run.history.callerPhase?_finished (Nat.le_succ later) ended)

theorem FailsAt.told {moment fetch caller joined first second : Nat} {resource : Resource}
    {error : Error} {stage : Stage} (fails : run.FailsAt moment resource fetch error)
    (waiting : (run.state joined).callerPhase? caller = some (.waiting stage fetch))
    (order : joined ≤ moment) (after : moment < first) (later : first ≤ second)
    (kept : run.Uncancelled caller joined second)
    (enough : run.turns first + (run.state first).agenda.length ≤ run.turns second) :
    (run.state second).callerPhase? caller = some (.woken stage fetch (.failed error)) ∨
      (run.state second).callerPhase? caller = some (.finished (.failed error)) := by
  have keptUntil : ∀ between, between ≤ second → run.Uncancelled caller joined between :=
    fun between last other since sooner => kept other since (Nat.lt_of_lt_of_le sooner last)
  have keptFrom : ∀ between, joined ≤ between → run.Uncancelled caller between second :=
    fun between since other last => kept other (Nat.le_trans since last)
  have joinedFirst : joined ≤ first := Nat.le_trans order (Nat.le_of_lt after)
  cases fails.delivered waiting order after (keptUntil first later) with
  | waiting phase due =>
      obtain ⟨taken, given, rest, since, sooner, turn, agenda⟩ := run.turn_of_due later due enough
      have joinedTaken : joined ≤ taken := Nat.le_trans joinedFirst since
      have failed := run.history.fetchPhase?_finished (Nat.le_trans after since) fails.2
      cases fails.delivered waiting order (Nat.lt_of_lt_of_le after since)
          (keptUntil taken (Nat.le_of_lt sooner)) with
      | waiting phase due =>
          have woken := Flight.woken_of_delivery service given agenda phase failed
          refine told_or_ended sooner (keptFrom (taken + 1) (Nat.le_succ_of_le joinedTaken)) ?_
          rw [run.state_succ_of_step turn]
          exact woken
      | told phase due =>
          exact told_or_ended (Nat.le_of_lt sooner) (keptFrom taken joinedTaken) phase
      | ended phase =>
          exact .inr (run.history.callerPhase?_finished (Nat.le_of_lt sooner) phase)
  | told phase due => exact told_or_ended later (keptFrom first joinedFirst) phase
  | ended phase => exact .inr (run.history.callerPhase?_finished later phase)

theorem FailsAt.ended {moment fetch caller joined first second third : Nat} {resource : Resource}
    {error : Error} {stage : Stage} (fails : run.FailsAt moment resource fetch error)
    (waiting : (run.state joined).callerPhase? caller = some (.waiting stage fetch))
    (order : joined ≤ moment) (after : moment < first) (later : first ≤ second)
    (last : second ≤ third) (kept : run.Uncancelled caller joined third)
    (enough : run.turns first + (run.state first).agenda.length ≤ run.turns second)
    (enoughAgain : run.turns second + (run.state second).agenda.length ≤ run.turns third) :
    (run.state third).callerPhase? caller = some (.finished (.failed error)) := by
  have joinedSecond : joined ≤ second :=
    Nat.le_trans order (Nat.le_trans (Nat.le_of_lt after) later)
  have keptFirst : run.Uncancelled caller joined second :=
    fun between since sooner => kept between since (Nat.lt_of_lt_of_le sooner last)
  rcases fails.told waiting order after later keptFirst enough with woken | ended
  · have due : .caller caller ∈ (run.state second).agenda :=
      (run.history.orderly second).attended.owed (.caller caller) (.inr (.inl ⟨_, _, _, woken⟩))
    obtain ⟨taken, given, rest, since, sooner, turn, agenda⟩ :=
      run.turn_of_due last due enoughAgain
    have keptSecond : run.Uncancelled caller second taken := fun between after before =>
      kept between (Nat.le_trans joinedSecond after) (Nat.lt_trans before sooner)
    rcases told_or_ended since keptSecond woken with woken | ended
    · have proceeds := run.proceeds_of_turn turn agenda woken rfl
      exact run.history.callerPhase?_finished sooner (ended_of_proceeds proceeds)
    · exact run.history.callerPhase?_finished (Nat.le_of_lt sooner) ended
  · exact run.history.callerPhase?_finished last ended

/-! ## The next fetch -/

theorem FailsAt.free {moment fetch later : Nat} {resource : Resource} {error : Error}
    (fails : run.FailsAt moment resource fetch error) (after : moment < later)
    (unasked : run.Unasked resource (moment + 1) later) :
    (run.state later).open? resource = none := by
  have closed := (run.history.next moment).closed (run.history.orderly moment).registered
    fails.1 fails.2
  have registered := (run.history.orderly later).registered
  exact (registered.open?_eq_none_iff resource).mpr
    (run.history.closed_until_asked after closed unasked)

/-- A fetch that fails, however it fails and whoever waits for it, fails cleanly. -/
theorem failure_clean (run : Run) {moment fetch : Nat} {resource : Resource} {error : Error}
    (fails : run.FailsAt moment resource fetch error) :
    run.FailsCleanly moment resource fetch error := by
  obtain ⟨reply, refused⟩ := fails.refused
  refine ⟨⟨reply, refused, error_of_accept refused⟩, (accept_error refused).2, ?_, ?_, ?_, ?_⟩
  · intro caller stage joined later waiting order after kept
    exact fails.delivered waiting order after kept
  · intro caller stage joined first second third waiting order after later last kept
    exact fails.ended waiting order after later last kept
  · intro later after unasked
    exact fails.free after unasked
  · intro later caller phase given after unasked turn head present needs
    obtain ⟨rest, agenda⟩ := List.head?_eq_some_iff.mp head
    obtain ⟨client, stage, moves⟩ := needs.awaits
    have asks : (run.state later).Asks service caller resource stage :=
      ⟨rest, phase, client, agenda, present, moves⟩
    have started := Flight.starts_of_closed service given asks (fails.free after unasked)
    rw [run.state_succ_of_step turn]
    exact ⟨started.1, stage, started.2⟩

/-- Two callers wait for the state, and the one request for it is refused. -/
def refused : Run where
  host := "flags.test"
  now := .ofInt 0
  lifetimes := .usual
  linked := true
  steps := [
    .move (.call (.start (.refresh .refresh)) false),
    .move (.call (.start (.refresh .setUp)) false),
    .move (.turn none),
    .move (.turn none),
    .move (.turn (some (.error (.api 503 "unavailable" []))))]

theorem failure_clean_refused :
    refused.FailsAt 4 .state 0 (.api 503 "unavailable" []) ∧
      refused.FailsCleanly 4 .state 0 (.api 503 "unavailable" []) := by
  have fails : refused.FailsAt 4 .state 0 (.api 503 "unavailable" []) := ⟨rfl, rfl⟩
  exact ⟨fails, failure_clean refused fails⟩

end Run

end FeatureFlags.Client
