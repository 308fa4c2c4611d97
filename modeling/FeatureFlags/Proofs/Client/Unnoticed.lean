import FeatureFlags.Proofs.Client.Cancelling

/-!
# A cancelled caller is missed by nobody

A caller may be cancelled while it is on hold: while it waits for a fetch, or has been told of the
ending and is still to go on.  Beside the run in which that happens stands the run that takes the
same steps but for the caller's own (`Run.uncancelled`).  `Unnoticed` says what holds of the two.
The fetch ends in both in the same way and at the same step, leaves the same caches behind, and is
delivered to the same other callers.  The runs come apart only when the caller goes on where it was
not cancelled, and then everyone else has been told.
-/

set_option autoImplicit false

namespace FeatureFlags.Client

namespace Run

/-- What holds of a run in which a caller is cancelled at a moment, and of another one, in which it
is not, that has taken the same steps at the moments given by their counterparts. -/
structure Unnoticed (run other : Run) (counterpart : Nat → Nat) (caller : Nat) (stage : Stage)
    (fetch moment : Nat) : Prop where
  before : ∀ earlier ≤ moment, other.state (counterpart earlier) = run.state earlier
  /-- After the cancellation a step is the caller's own, or it is taken in both runs. -/
  paired : ∀ later > moment,
    ((∀ taken, run.steps[later]? = some taken → taken.Concerns caller (run.state later)) ∧
      counterpart (later + 1) = counterpart later) ∨
    (other.steps[counterpart later]? = run.steps[later]? ∧
      counterpart (later + 1) = counterpart later + 1)
  uncancelled : .move (.cancel caller) ∉ other.steps.drop (counterpart moment)
  /-- The fetch goes on as it does without the cancellation. -/
  goesOn : ∀ later > moment,
    (run.state later).fetchPhase? fetch = (other.state (counterpart later)).fetchPhase? fetch
  /-- Until it has ended, and by the step that ends it, both have cached the same. -/
  cached : ∀ later > moment,
    (∀ ending, (run.state later).fetchPhase? fetch ≠ some (.finished ending)) →
      (run.client (later + 1)).cache = (other.client (counterpart (later + 1))).cache
  /-- Whoever else is told of the ending is told of the same one, at the same step. -/
  received : ∀ later > moment, ∀ reader readerStage ending, reader ≠ caller →
    (run.state later).callerPhase? reader = some (.waiting readerStage fetch) →
      (run.state (later + 1)).callerPhase? reader = some (.woken readerStage fetch ending) →
        (other.state (counterpart later)).callerPhase? reader =
            some (.waiting readerStage fetch) ∧
          (other.state (counterpart (later + 1))).callerPhase? reader =
            some (.woken readerStage fetch ending)
  /-- As long as the caller is on hold in the other run, everyone else sees the same. -/
  alike : ∀ later > moment,
    Flight.OnHold (other.state (counterpart later)) caller stage fetch →
      (run.state later).without publicly caller =
        (other.state (counterpart later)).without publicly caller
  /-- Once it has gone on there, everyone has been told in both. -/
  told : ∀ later > moment,
    ¬Flight.OnHold (other.state (counterpart later)) caller stage fetch →
      ∃ ending, Flight.ToldAll (run.state later) fetch ending ∧
        Flight.ToldAll (other.state (counterpart later)) fetch ending
  gone : ∀ later > moment, Gone caller stage (run.state later)
  /-- In its own steps the cancelled caller changes nothing that others see, and fetches nothing. -/
  idle : ∀ later ≥ moment, ∀ taken, run.steps[later]? = some taken →
    taken.Concerns caller (run.state later) →
      (run.state (later + 1)).without publicly caller = (run.state later).without publicly caller ∧
        (run.state (later + 1)).fetches = (run.state later).fetches
  unannounced : ∀ later,
    .notify caller ∉ (run.state later).agenda ∧ caller ∉ (run.state later).notified

variable {run : Run} {caller moment fetch : Nat} {stage : Stage}

section Cancelled

variable (waits : Flight.OnHold (run.state moment) caller stage fetch)
    (cancelled : run.steps[moment]? = some (.move (.cancel caller)))

include waits cancelled

theorem alike_of_onHold {later : Nat} (after : moment < later)
    (onHold : Flight.OnHold
      ((run.uncancelled caller moment).state (run.counterpart caller moment later)) caller stage
      fetch) :
    (run.state later).without publicly caller =
      ((run.uncancelled caller moment).state
        (run.counterpart caller moment later)).without publicly caller := by
  cases beside waits cancelled after with
  | together stillOnHold alike => exact alike
  | apart ending told otherTold free => exact absurd onHold free

theorem toldAll_of_free {later : Nat} (after : moment < later)
    (free : ¬Flight.OnHold
      ((run.uncancelled caller moment).state (run.counterpart caller moment later)) caller stage
      fetch) :
    ∃ ending, Flight.ToldAll (run.state later) fetch ending ∧
      Flight.ToldAll ((run.uncancelled caller moment).state
        (run.counterpart caller moment later)) fetch ending := by
  cases beside waits cancelled after with
  | together onHold alike => exact absurd onHold free
  | apart ending told otherTold free => exact ⟨ending, told, otherTold⟩

theorem fetchPhase?_counterpart {later : Nat} (after : moment < later) :
    (run.state later).fetchPhase? fetch =
      ((run.uncancelled caller moment).state
        (run.counterpart caller moment later)).fetchPhase? fetch := by
  cases beside waits cancelled after with
  | together onHold alike => exact fetchPhase?_of_alike alike fetch
  | apart ending told otherTold free => exact told.ended.trans otherTold.ended.symm

/-- While someone is still to be told, the caller does not go on where it was not cancelled. -/
theorem alike_succ {later : Nat} (after : moment < later)
    (untold : ∀ ending, ¬Flight.ToldAll (run.state later) fetch ending) :
    (run.state later).without publicly caller =
        ((run.uncancelled caller moment).state
          (run.counterpart caller moment later)).without publicly caller ∧
      (run.state (later + 1)).without publicly caller =
        ((run.uncancelled caller moment).state
          (run.counterpart caller moment (later + 1))).without publicly caller := by
  cases beside waits cancelled after with
  | apart ending told otherTold free => exact absurd told (untold ending)
  | together onHold alike =>
      refine ⟨alike, alike_of_onHold waits cancelled (Nat.lt_succ_of_lt after) ?_⟩
      refine onHold_counterpart_succ after onHold fun turn => ?_
      obtain ⟨ending, -, told, -⟩ :=
        toldAll_of_turn ((run.uncancelled caller moment).history.orderly _)
          ((run.uncancelled caller moment).history.punctual _) (gone_since waits cancelled after)
          onHold alike turn
      exact untold ending told

theorem cache_counterpart {later : Nat} (after : moment < later)
    (unfinished : ∀ ending, (run.state later).fetchPhase? fetch ≠ some (.finished ending)) :
    (run.client (later + 1)).cache =
      ((run.uncancelled caller moment).client
        (run.counterpart caller moment (later + 1))).cache := by
  obtain ⟨-, alike⟩ := alike_succ waits cancelled after fun ending told =>
    unfinished ending told.ended
  exact cache_of_alike alike

theorem received_counterpart {later reader : Nat} {readerStage : Stage}
    {ending : Flight.Ending Fetched} (after : moment < later) (differs : reader ≠ caller)
    (waiting : (run.state later).callerPhase? reader = some (.waiting readerStage fetch))
    (woken : (run.state (later + 1)).callerPhase? reader =
      some (.woken readerStage fetch ending)) :
    ((run.uncancelled caller moment).state
        (run.counterpart caller moment later)).callerPhase? reader =
          some (.waiting readerStage fetch) ∧
      ((run.uncancelled caller moment).state
        (run.counterpart caller moment (later + 1))).callerPhase? reader =
          some (.woken readerStage fetch ending) := by
  obtain ⟨alike, alikeNext⟩ := alike_succ waits cancelled after fun ending told =>
    told.nobody reader readerStage waiting
  exact ⟨(callerPhase?_of_alike alike differs).symm.trans waiting,
    (callerPhase?_of_alike alikeNext differs).symm.trans woken⟩

theorem idle_of_own {later : Nat} {taken : Step} (since : moment ≤ later)
    (present : run.steps[later]? = some taken) (own : taken.Concerns caller (run.state later)) :
    (run.state (later + 1)).without publicly caller =
      (run.state later).without publicly caller := by
  rw [run.state_succ_of_step present]
  rcases Nat.eq_or_lt_of_le since with rfl | after
  · cases cancelled.symm.trans present
    exact Flight.State.without_cancel_self publicly caller _
  · exact without_step_of_own (gone_since waits cancelled after) own

theorem unannounced (later : Nat) :
    .notify caller ∉ (run.state later).agenda ∧ caller ∉ (run.state later).notified := by
  rw [← not_or]
  intro due
  obtain ⟨result, finished⟩ := (run.history.punctual later).announced caller due
  rcases Nat.lt_or_ge moment later with after | early
  · rcases gone_since waits cancelled after with leaving | ended
    · cases finished.symm.trans leaving
    · cases result <;> cases finished.symm.trans ended
  · have already := run.history.callerPhase?_finished early finished
    cases waits.held? already

end Cancelled

/-- Cancelling a caller while it is on hold goes unnoticed by everyone else. -/
theorem cancellation_unnoticed (run : Run) {caller moment fetch : Nat} {stage : Stage}
    (waits : Flight.OnHold (run.state moment) caller stage fetch)
    (cancelled : run.steps[moment]? = some (.move (.cancel caller))) :
    run.Unnoticed (run.uncancelled caller moment) (run.counterpart caller moment) caller stage fetch
      moment where
  before earlier early := run.state_before caller moment early
  paired later after := by
    cases run.paired caller moment after with
    | own concerns stays => exact .inl ⟨concerns, stays⟩
    | common taken present others there moves => exact .inr ⟨there.trans present.symm, moves⟩
  uncancelled := by
    have within : moment < run.steps.length := (List.getElem?_eq_some_iff.mp cancelled).1
    exact run.not_cancelled_again caller moment (Nat.le_of_lt within)
  goesOn later after := fetchPhase?_counterpart waits cancelled after
  cached later after unfinished := cache_counterpart waits cancelled after unfinished
  received later after reader readerStage ending differs waiting woken :=
    received_counterpart waits cancelled after differs waiting woken
  alike later after onHold := alike_of_onHold waits cancelled after onHold
  told later after free := toldAll_of_free waits cancelled after free
  gone later after := gone_since waits cancelled after
  idle later since taken present own := by
    have unseen := idle_of_own waits cancelled since present own
    refine ⟨unseen, ?_⟩
    simpa only [Flight.State.fetches_without] using congrArg Flight.State.fetches unseen
  unannounced later := unannounced waits cancelled later

/-- Two callers wait for the state, the one that asked for it is cancelled, and then the request is
refused. -/
def abandoned : Run where
  host := "flags.test"
  now := .ofInt 0
  lifetimes := .usual
  linked := true
  steps := [
    .move (.call (.start (.refresh .refresh)) true),
    .move (.call (.start (.refresh .refresh)) true),
    .move (.turn none),
    .move (.turn none),
    .move (.cancel 0),
    .move (.turn (some (.error (.api 503 "unavailable" [])))),
    .move (.turn none),
    .move (.turn none),
    .move (.turn none),
    .move (.turn none)]

theorem cancellation_unnoticed_abandoned :
    Flight.OnHold (abandoned.state 4) 0 (.refreshing .refresh) 0 ∧
      abandoned.steps[4]? = some (.move (.cancel 0)) ∧
        abandoned.Unnoticed (abandoned.uncancelled 0 4) (abandoned.counterpart 0 4) 0
          (.refreshing .refresh) 0 4 ∧
        (abandoned.state 10).callerPhase? 1 =
          some (.woken (.refreshing .refresh) 0 (.failed (.api 503 "unavailable" []))) := by
  have waits : Flight.OnHold (abandoned.state 4) 0 (.refreshing .refresh) 0 := .inl rfl
  exact ⟨waits, rfl, cancellation_unnoticed abandoned waits rfl, rfl⟩

end Run

end FeatureFlags.Client
