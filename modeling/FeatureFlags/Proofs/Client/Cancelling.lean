import FeatureFlags.Proofs.Client.Moments
import FeatureFlags.Proofs.Client.Publicly

/-!
# The run without a cancellation

`Run.uncancelled` takes the steps of a run but for the cancellation of a caller and what follows of
the caller's own.  Step by step the two stand beside each other (`Beside`): the step is left out on
one side (`Beside.own`), or both take it (`Beside.step`).  What is alike in them is all but the
caller itself, until it goes on where it was not cancelled.
-/

set_option autoImplicit false

namespace FeatureFlags.Client

/-! ## The same steps without the cancellation -/

def Step.Concerns (caller : Nat) (state : State) : Step → Prop
  | .move action => Flight.State.Concerns caller state action
  | _ => False

instance (caller : Nat) (state : State) (taken : Step) : Decidable (taken.Concerns caller state) :=
  match taken with
  | .move action => inferInstanceAs (Decidable (Flight.State.Concerns caller state action))
  | .clock _ => inferInstanceAs (Decidable False)
  | .sweep .. => inferInstanceAs (Decidable False)

namespace Run

variable (run : Run) (caller moment : Nat)

/-- A step that a caller owes to its cancellation at a moment: that itself, and what follows of the
caller's own. -/
def isOwn (later : Nat) : Bool :=
  decide (later = moment) || (decide (moment < later) &&
    run.steps[later]?.any fun taken => decide (taken.Concerns caller (run.state later)))

/-- The steps before a moment, but for the caller's own since it was cancelled. -/
def stepsWithout : Nat → List Step
  | 0 => []
  | later + 1 =>
      if run.isOwn caller moment later then stepsWithout later
      else stepsWithout later ++ run.steps[later]?.toList

def uncancelled : Run :=
  { run with steps := run.stepsWithout caller moment run.steps.length }

def counterpart (later : Nat) : Nat :=
  (run.stepsWithout caller moment later).length

theorem stepsWithout_past {later : Nat} (past : run.steps.length ≤ later) :
    run.stepsWithout caller moment later = run.stepsWithout caller moment run.steps.length := by
  induction past with
  | refl => rfl
  | @step later past inductionHypothesis =>
      have absent : run.steps[later]? = none := List.getElem?_eq_none past
      simp only [stepsWithout, absent, Option.toList_none, List.append_nil, ite_self]
      exact inductionHypothesis

theorem stepsWithout_prefix {earlier later : Nat} (order : earlier ≤ later) :
    run.stepsWithout caller moment earlier <+: run.stepsWithout caller moment later := by
  induction order with
  | refl => exact List.prefix_rfl
  | @step later order inductionHypothesis =>
      rw [stepsWithout]
      split
      · exact inductionHypothesis
      · exact inductionHypothesis.trans (List.prefix_append _ _)

theorem take_counterpart (later : Nat) :
    (run.uncancelled caller moment).steps.take (run.counterpart caller moment later) =
      run.stepsWithout caller moment later := by
  rcases Nat.le_total later run.steps.length with within | past
  · exact (List.prefix_iff_eq_take.mp (run.stepsWithout_prefix caller moment within)).symm
  · rw [counterpart, run.stepsWithout_past caller moment past]
    exact List.take_length

theorem state_counterpart (later : Nat) :
    (run.uncancelled caller moment).state (run.counterpart caller moment later) =
      Client.run (.start (.new run.host run.now run.lifetimes run.linked))
        (run.stepsWithout caller moment later) := by
  rw [← run.take_counterpart caller moment later]
  rfl

theorem stepsWithout_before {earlier : Nat} (before : earlier ≤ moment) :
    run.stepsWithout caller moment earlier = run.steps.take earlier := by
  induction earlier with
  | zero => rfl
  | succ earlier inductionHypothesis =>
      have others : run.isOwn caller moment earlier = false := by
        have apart : earlier ≠ moment := by omega
        have early : ¬moment < earlier := by omega
        simp [isOwn, apart, early]
      rw [stepsWithout, others, inductionHypothesis (by omega), List.take_add_one]
      rfl

theorem state_before {earlier : Nat} (before : earlier ≤ moment) :
    (run.uncancelled caller moment).state (run.counterpart caller moment earlier) =
      run.state earlier := by
  rw [state_counterpart, stepsWithout_before _ _ _ before]
  rfl

/-- From the cancellation on, the other steps do not cancel the caller either. -/
theorem not_cancelled_again {later : Nat} (since : moment ≤ later) :
    .move (.cancel caller) ∉
      (run.stepsWithout caller moment later).drop (run.counterpart caller moment moment) := by
  induction since with
  | refl =>
      rw [counterpart, List.drop_length]
      exact List.not_mem_nil
  | @step later since inductionHypothesis =>
      rw [stepsWithout]
      split
      · exact inductionHypothesis
      next others =>
        have within : run.counterpart caller moment moment ≤
            (run.stepsWithout caller moment later).length :=
          (run.stepsWithout_prefix caller moment since).length_le
        rw [List.drop_append_of_le_length within]
        intro member
        rcases List.mem_append.mp member with earlier | last
        · exact inductionHypothesis earlier
        · have present : run.steps[later]? = some (.move (.cancel caller)) := by simpa using last
          refine others ?_
          rcases Nat.eq_or_lt_of_le since with same | after
          · simp [isOwn, same]
          · have concerns : (Step.move (.cancel caller)).Concerns caller (run.state later) := rfl
            simp [isOwn, after, present, concerns]

theorem counterpart_moment_succ :
    run.counterpart caller moment (moment + 1) = run.counterpart caller moment moment := by
  have own : run.isOwn caller moment moment = true := by simp [isOwn]
  rw [counterpart, stepsWithout, if_pos own]
  rfl

/-- How a later step of a run stands to the run in which the caller is not cancelled: it is the
caller's own and left out there, or that run takes it too. -/
inductive Paired (later : Nat) : Prop where
  | own
      (concerns : ∀ taken, run.steps[later]? = some taken → taken.Concerns caller (run.state later))
      (stays : run.counterpart caller moment (later + 1) = run.counterpart caller moment later)
  | common (taken : Step) (present : run.steps[later]? = some taken)
      (others : ¬taken.Concerns caller (run.state later))
      (there : (run.uncancelled caller moment).steps[run.counterpart caller moment later]? =
        some taken)
      (moves : run.counterpart caller moment (later + 1) =
        run.counterpart caller moment later + 1)

theorem paired {later : Nat} (after : moment < later) : run.Paired caller moment later := by
  have apart : later ≠ moment := by omega
  cases present : run.steps[later]? with
  | none =>
      refine .own (fun taken there => ?_) ?_
      · cases present.symm.trans there
      · rw [counterpart, stepsWithout, present]
        simp [counterpart]
  | some taken =>
      have isOwn_iff : run.isOwn caller moment later = true ↔
          taken.Concerns caller (run.state later) := by
        simp [isOwn, apart, after, present]
      by_cases own : taken.Concerns caller (run.state later)
      · refine .own (fun other there => ?_) ?_
        · cases present.symm.trans there
          exact own
        · rw [counterpart, stepsWithout, if_pos (isOwn_iff.mpr own)]
          rfl
      · have known : run.stepsWithout caller moment (later + 1) =
            run.stepsWithout caller moment later ++ [taken] := by
          rw [stepsWithout, if_neg fun isOwn => own (isOwn_iff.mp isOwn), present]
          rfl
        have within : later < run.steps.length := (List.getElem?_eq_some_iff.mp present).1
        refine .common taken present own ?_ ?_
        · exact getElem?_of_prefix (known ▸ run.stepsWithout_prefix caller moment within)
        · rw [counterpart, known]
          simp [counterpart]

end Run

/-! ## Side by side -/

/-- How a run in which a caller was cancelled stands beside the one in which it was not: either the
caller still waits there, and to everyone else both are the same, or all that waited for the fetch
have been told in both how it ended. -/
inductive Beside (caller : Nat) (stage : Stage) (fetch : Nat) (state other : State) : Prop where
  | together (onHold : Flight.OnHold other caller stage fetch)
      (alike : state.without publicly caller = other.without publicly caller)
  | apart (ending : Flight.Ending Fetched) (told : Flight.ToldAll state fetch ending)
      (otherTold : Flight.ToldAll other fetch ending)
      (free : ¬Flight.OnHold other caller stage fetch)

/-- A cancelled caller that is still to end, or has ended. -/
def Gone (caller : Nat) (stage : Stage) (state : State) : Prop :=
  state.callerPhase? caller = some (.leaving (some stage)) ∨
    state.callerPhase? caller = some (.finished .cancelled)

section Beside

variable {caller fetch : Nat} {stage : Stage} {state other : State}

theorem fetchPhase?_of_alike (alike : state.without publicly caller = other.without publicly caller)
    (fetch : Nat) : state.fetchPhase? fetch = other.fetchPhase? fetch := by
  rw [← Flight.State.fetchPhase?_without publicly caller state, alike]
  rfl

theorem callerPhase?_of_alike
    (alike : state.without publicly caller = other.without publicly caller) {reader : Nat}
    (differs : reader ≠ caller) : state.callerPhase? reader = other.callerPhase? reader := by
  rw [← Flight.State.callerPhase?_without_of_ne publicly caller state differs, alike,
    Flight.State.callerPhase?_without_of_ne publicly caller other differs]

theorem cache_of_alike (alike : state.without publicly caller = other.without publicly caller) :
    state.world.cache = other.world.cache := by
  have worlds := congrArg Flight.State.world alike
  rw [Flight.State.world_without, Flight.State.world_without] at worlds
  rw [← cache_publicly state.world, worlds, cache_publicly]

theorem onClient_without {change : Client → Client}
    (seen : ∀ client, (change client).publicly = change client.publicly) (state : State) :
    (onClient change state).without publicly caller =
      onClient change (state.without publicly caller) := by
  rw [onClient, Flight.State.without_world, seen]
  rfl

theorem toldAll_step {ending : Flight.Ending Fetched} (told : Flight.ToldAll state fetch ending)
    (registered : Flight.Registered state) (taken : Step) :
    Flight.ToldAll (step state taken) fetch ending :=
  told.next registered (step_next state taken)

theorem without_step_of_own (gone : Gone caller stage state) {taken : Step}
    (own : taken.Concerns caller state) :
    (step state taken).without publicly caller = state.without publicly caller := by
  cases taken with
  | move action =>
      exact service_discreet.departs caller (gone.imp_left fun leaving => ⟨_, leaving⟩) own
  | clock now => cases own
  | sweep now keep => cases own

theorem Beside.own (beside : Beside caller stage fetch state other)
    (registered : Flight.Registered state) (gone : Gone caller stage state) {taken : Step}
    (own : taken.Concerns caller state) : Beside caller stage fetch (step state taken) other := by
  cases beside with
  | apart ending told otherTold free =>
      exact .apart ending (toldAll_step told registered taken) otherTold free
  | together onHold alike =>
      exact .together onHold ((without_step_of_own gone own).trans alike)

/-- The caller goes on where it was not cancelled: by then everyone has been told. -/
theorem toldAll_of_turn (orderly : Flight.Orderly other) (punctual : Flight.Punctual other)
    (gone : Gone caller stage state) (onHold : Flight.OnHold other caller stage fetch)
    (alike : state.without publicly caller = other.without publicly caller)
    (turn : other.agenda.head? = some (.caller caller)) :
    ∃ ending, other.callerPhase? caller = some (.woken stage fetch ending) ∧
      Flight.ToldAll state fetch ending ∧ Flight.ToldAll other fetch ending := by
  obtain ⟨rest, agenda⟩ := List.head?_eq_some_iff.mp turn
  rcases onHold with waiting | ⟨ending, woken⟩
  · exact absurd (agenda ▸ List.mem_cons_self) (punctual.not_due_of_waiting waiting)
  · have ended := orderly.attended.told caller stage fetch ending woken
    have nobody := punctual.told_all orderly.attended turn woken
    refine ⟨ending, woken, ⟨(fetchPhase?_of_alike alike fetch).trans ended, ?_⟩, ended, nobody⟩
    intro reader readerStage waiting
    by_cases self : reader = caller
    · subst self
      rcases gone with leaving | finished
      · cases waiting.symm.trans leaving
      · cases waiting.symm.trans finished
    · exact nobody reader readerStage ((callerPhase?_of_alike alike self).symm.trans waiting)

theorem Beside.step (beside : Beside caller stage fetch state other)
    (registered : Flight.Registered state) (orderly : Flight.Orderly other)
    (punctual : Flight.Punctual other) (gone : Gone caller stage state) {taken : Step}
    (others : ¬taken.Concerns caller state) :
    Beside caller stage fetch (Client.step state taken) (Client.step other taken) := by
  cases beside with
  | apart ending told otherTold free =>
      exact .apart ending (toldAll_step told registered taken)
        (toldAll_step otherTold orderly.registered taken)
        ((step_next other taken).not_onHold orderly.registered otherTold.ended free)
  | together onHold alike =>
      cases taken with
      | clock now =>
          refine .together onHold ?_
          have seen : ∀ client : Client,
              publicly { client with now := now } = { client.publicly with now := now } :=
            fun _ => rfl
          simp only [Client.step]
          rw [onClient_without seen, onClient_without seen, alike]
      | sweep now keep =>
          refine .together onHold ?_
          have seen : ∀ client : Client,
              (client.sweep now keep).publicly = client.publicly.sweep now keep := fun client =>
            (sweep_publicly now keep client).symm
          simp only [Client.step]
          rw [onClient_without seen, onClient_without seen, alike]
      | move action =>
          by_cases otherOwn : other.Concerns caller action
          · cases action with
            | turn given =>
                obtain ⟨ending, woken, told, otherTold⟩ :=
                  toldAll_of_turn orderly punctual gone onHold alike otherOwn
                obtain ⟨rest, agenda⟩ := List.head?_eq_some_iff.mp otherOwn
                exact .apart ending (toldAll_step told registered _)
                  (toldAll_step otherTold orderly.registered _)
                  (orderly.released agenda woken given)
            | cancel cancelled => exact absurd otherOwn others
            | call newStage notifies => cases otherOwn
            | answer answered reply => cases otherOwn
            | cancelFetch stopped => cases otherOwn
          · obtain ⟨phase, present⟩ : ∃ phase, state.callerPhase? caller = some phase := by
              rcases gone with leaving | finished
              · exact ⟨_, leaving⟩
              · exact ⟨_, finished⟩
            obtain ⟨otherPhase, otherPresent⟩ :
                ∃ phase, other.callerPhase? caller = some phase := by
              rcases onHold with waiting | ⟨ending, woken⟩
              · exact ⟨_, waiting⟩
              · exact ⟨_, woken⟩
            exact .together (orderly.onHold_apart onHold otherOwn)
              (service_discreet.step_alike caller alike present otherPresent others otherOwn)

/-- The caller goes on waiting where it was not cancelled, unless its turn has come. -/
theorem onHold_step (orderly : Flight.Orderly other)
    (onHold : Flight.OnHold other caller stage fetch)
    (noTurn : other.agenda.head? ≠ some (.caller caller)) {taken : Step}
    (others : ¬taken.Concerns caller state) :
    Flight.OnHold (step other taken) caller stage fetch := by
  cases taken with
  | clock now => exact onHold
  | sweep now keep => exact onHold
  | move action =>
      refine orderly.onHold_apart onHold fun own => ?_
      cases action with
      | turn given => exact noTurn own
      | cancel cancelled => exact others own
      | call newStage notifies => cases own
      | answer answered reply => cases own
      | cancelFetch stopped => cases own

end Beside

namespace Run

variable {run : Run} {caller moment fetch : Nat} {stage : Stage}

section Cancelled

variable (waits : Flight.OnHold (run.state moment) caller stage fetch)
    (cancelled : run.steps[moment]? = some (.move (.cancel caller)))

include waits cancelled

theorem gone_since {later : Nat} (after : moment < later) :
    Gone caller stage (run.state later) := by
  induction after with
  | refl =>
      have next : run.state (moment + 1) = (run.state moment).cancel caller :=
        run.state_succ_of_step cancelled
      rw [next, Flight.State.cancel]
      rcases waits with waiting | ⟨ending, woken⟩
      · rw [waiting]
        exact .inl (Flight.State.callerPhase?_setCaller_self _ waiting _)
      · rw [woken]
        exact .inl (Flight.State.callerPhase?_setCaller_self _ woken _)
  | @step later after inductionHypothesis =>
      have registered := (run.history.orderly later).registered
      rcases inductionHypothesis with leaving | finished
      · exact (run.history.next later).callerPhase?_leaving registered leaving
      · exact .inr ((run.history.next later).callerPhase?_finished registered finished)

theorem beside {later : Nat} (after : moment < later) :
    Beside caller stage fetch (run.state later)
      ((run.uncancelled caller moment).state (run.counterpart caller moment later)) := by
  induction after with
  | refl =>
      have next : run.state (moment + 1) = (run.state moment).cancel caller :=
        run.state_succ_of_step cancelled
      rw [run.counterpart_moment_succ, run.state_before caller moment le_rfl, next]
      exact .together waits (Flight.State.without_cancel_self publicly caller _)
  | @step later after inductionHypothesis =>
      have registered := (run.history.orderly later).registered
      have gone := gone_since waits cancelled after
      cases run.paired caller moment after with
      | own concerns stays =>
          rw [stays]
          cases present : run.steps[later]? with
          | none =>
              rw [run.state_succ_of_none present]
              exact inductionHypothesis
          | some taken =>
              rw [run.state_succ_of_step present]
              exact inductionHypothesis.own registered gone (concerns taken present)
      | common taken present others there moves =>
          rw [moves, run.state_succ_of_step present, Run.state_succ_of_step _ there]
          exact inductionHypothesis.step registered
            ((run.uncancelled caller moment).history.orderly _)
            ((run.uncancelled caller moment).history.punctual _) gone others

omit waits cancelled in
theorem onHold_counterpart_succ {later : Nat} (after : moment < later)
    (onHold : Flight.OnHold
      ((run.uncancelled caller moment).state (run.counterpart caller moment later)) caller stage
      fetch)
    (noTurn : ((run.uncancelled caller moment).state
      (run.counterpart caller moment later)).agenda.head? ≠ some (.caller caller)) :
    Flight.OnHold ((run.uncancelled caller moment).state
      (run.counterpart caller moment (later + 1))) caller stage fetch := by
  cases run.paired caller moment after with
  | own concerns stays =>
      rw [stays]
      exact onHold
  | common taken present others there moves =>
      rw [moves, Run.state_succ_of_step _ there]
      exact onHold_step ((run.uncancelled caller moment).history.orderly _) onHold noTurn others

end Cancelled

end Run

end FeatureFlags.Client
