import FeatureFlags.Flight.Callback
import FeatureFlags.Proofs.Flight.Punctual

/-!
# Callbacks are called once

A caller that has a callback and ends other than cancelled makes one call of it due in the step in
which it ends, and that call stays due until it is made (`Next.notifications`).  So in a reachable
state the calls that are due and those that have been made are one for each such caller and none for
any other (`Announced`).
-/

set_option autoImplicit false

namespace FeatureFlags.Flight

variable {World Key Stage Reply Record Output : Type}

def CallerPhase.isTold : CallerPhase Stage Record Output → Bool
  | .finished ending => ending.notice?.isSome
  | _ => false

namespace State

def announces (caller : Nat) (state : State World Key Stage Reply Record Output) : Bool :=
  (state.caller? caller).any fun found => found.notifies && found.phase.isTold

def notifications (caller : Nat) (state : State World Key Stage Reply Record Output) : Nat :=
  state.agenda.count (.notify caller) + state.notified.count caller

variable {state : State World Key Stage Reply Record Output}

theorem notice_of_announces {caller : Nat} (announces : state.announces caller = true) :
    ∃ ending notice, state.callerPhase? caller = some (.finished ending) ∧
      ending.notice? = some notice := by
  obtain ⟨found, present, told⟩ := (Option.any_eq_true _ _).mp announces
  cases phase : found.phase with
  | finished ending =>
      rw [phase, CallerPhase.isTold, Bool.and_eq_true] at told
      obtain ⟨notice, given⟩ := Option.isSome_iff_exists.mp told.2
      exact ⟨ending, notice, Option.map_eq_some_iff.mpr ⟨found, present, phase⟩, given⟩
  | ready stage => simp [phase, CallerPhase.isTold] at told
  | waiting stage fetch => simp [phase, CallerPhase.isTold] at told
  | woken stage fetch ending => simp [phase, CallerPhase.isTold] at told
  | leaving stage => simp [phase, CallerPhase.isTold] at told

theorem announces_of_notice {caller : Nat} {ending : Ending Output} {notice : Notice Output}
    (finished : state.callerPhase? caller = some (.finished ending))
    (told : ending.notice? = some notice)
    (notifies : (state.caller? caller).map Caller.notifies = some true) :
    state.announces caller = true := by
  obtain ⟨found, present, phase⟩ := Option.map_eq_some_iff.mp finished
  rw [present] at notifies
  have has : found.notifies = true := Option.some.inj notifies
  simp [announces, present, has, phase, CallerPhase.isTold, told]

/-- A caller that is given another phase is not heard of if neither phase is told. -/
theorem announces_of_modify {after : State World Key Stage Reply Record Output} {other : Nat}
    {old phase : CallerPhase Stage Record Output}
    (callers : after.callers =
      state.callers.modify other fun found => { found with phase := phase })
    (present : state.callerPhase? other = some old) (untold : old.isTold = false)
    (stillUntold : phase.isTold = false) (caller : Nat) :
    after.announces caller = state.announces caller := by
  obtain ⟨found, there, rfl⟩ := Option.map_eq_some_iff.mp present
  unfold announces caller?
  rw [callers, List.getElem?_modify]
  by_cases here : other = caller
  · subst here
    have stored : state.callers[other]? = some found := there
    simp [stored, untold, stillUntold]
  · simp [here]

theorem announces_call (stage : Stage) (notifies : Bool) (caller : Nat) :
    (state.call stage notifies).announces caller = state.announces caller := by
  unfold announces
  rw [caller?_call]
  split
  next new =>
    have absent : state.caller? caller = none := List.getElem?_eq_none (Nat.le_of_eq new.symm)
    simp [absent, CallerPhase.isTold]
  · rfl

theorem isTold_of_proceed {service : Service World Key Stage Reply Record Output} {world : World}
    {phase : CallerPhase Stage Record Output} {next : World × Move Key Stage Output}
    (moves : phase.proceed? service world = some next) : phase.isTold = false := by
  cases phase with
  | finished ending => cases moves
  | _ => rfl

theorem isTold_of_leave {service : Service World Key Stage Reply Record Output}
    {world after : World} {phase : CallerPhase Stage Record Output}
    (leaves : phase.leave? service world = some after) : phase.isTold = false := by
  cases phase with
  | finished ending => cases leaves
  | _ => rfl

end State

open State

theorem count_notices (state : State World Key Stage Reply Record Output) (caller other : Nat) :
    (state.notices caller).count (.notify other) =
      if caller = other ∧ (state.caller? caller).any (·.notifies) = true then 1 else 0 := by
  unfold notices
  by_cases notifies : (state.caller? caller).any (·.notifies) = true
  · simp [notifies, List.count_singleton]
  · simp [notifies]

theorem count_delivers (fetch : Nat) (waiters : List Nat) (caller : Nat) :
    (waiters.map (Turn.deliver fetch ·)).count (.notify caller) = 0 :=
  List.count_eq_zero_of_not_mem (by simp)

/-- A caller that ends other than cancelled is heard of from then on if it has a callback. -/
theorem announces_of_ending {state after : State World Key Stage Reply Record Output} {other : Nat}
    {phase : CallerPhase Stage Record Output} {ending : Ending Output}
    (callers : after.callers =
      state.callers.modify other fun found => { found with phase := .finished ending })
    (present : state.callerPhase? other = some phase) (untold : phase.isTold = false)
    (told : (CallerPhase.finished ending : CallerPhase Stage Record Output).isTold = true)
    (caller : Nat) :
    (after.announces caller).toNat =
      (state.announces caller).toNat + (state.notices other).count (.notify caller) := by
  obtain ⟨found, there, rfl⟩ := Option.map_eq_some_iff.mp present
  rw [count_notices, there]
  unfold State.announces caller?
  rw [callers, List.getElem?_modify]
  by_cases here : other = caller
  · subst here
    have stored : state.callers[other]? = some found := there
    cases notifies : found.notifies <;> simp [stored, notifies, untold, told]
  · simp [here]

section Next

variable [BEq Key] {outside : Outside World}
    {service : Service World Key Stage Reply Record Output}
    {state after : State World Key Stage Reply Record Output}

/-- A step makes the call of a callback due exactly when its caller ends. -/
theorem Next.notifications (next : Next outside service state after) (caller : Nat) :
    after.notifications caller + (state.announces caller).toNat =
      state.notifications caller + (after.announces caller).toNat := by
  have kept : after.notifications caller = state.notifications caller →
      after.announces caller = state.announces caller →
      after.notifications caller + (state.announces caller).toNat =
        state.notifications caller + (after.announces caller).toNat := by
    intro sameCount sameEnding
    rw [sameCount, sameEnding]
  cases next with
  | nothing => rfl
  | worldChanged world drifts => rfl
  | called stage notifies =>
      refine kept ?_ (announces_call stage notifies caller)
      simp [State.notifications, call, schedule]
  | answered fetch reply waiting =>
      refine kept ?_ rfl
      simp [State.notifications, schedule, setFetch]
  | fetchStopped fetch waiting =>
      refine kept ?_ rfl
      simp [State.notifications, schedule, setFetch]
  | fetchDropped fetch pending => exact kept rfl rfl
  | callerStopped other stage fetch may waiting =>
      refine kept ?_ (announces_of_modify rfl waiting rfl rfl caller)
      simp [State.notifications, schedule, setCaller]
  | callerDropped other reached may pending =>
      refine kept rfl ?_
      rcases pending with ⟨-, stage, ready⟩ | ⟨stage, fetch, ending, -, woken⟩
      · exact announces_of_modify rfl ready rfl rfl caller
      · exact announces_of_modify rfl woken rfl rfl caller
  | passed due rest agenda settled remembers announces =>
      refine kept ?_ rfl
      simp [State.notifications, agenda, announces caller]
  | began fetch rest agenda scheduled =>
      refine kept ?_ rfl
      simp [State.notifications, setFetch, agenda]
  | completed fetch found given reply rest agenda present replied =>
      refine kept ?_ rfl
      simp [State.notifications, complete, finishFetch, schedule, setFetch, agenda, count_delivers]
  | aborted fetch rest agenda cancelling =>
      refine kept ?_ rfl
      simp [State.notifications, finishFetch, schedule, setFetch, agenda, count_delivers]
  | forgot fetch rest agenda =>
      refine kept ?_ rfl
      simp [State.notifications, State.forget, agenda]
  | told fetch other stage ending rest agenda waiting finished =>
      refine kept ?_ (announces_of_modify rfl waiting rfl rfl caller)
      simp [State.notifications, schedule, setCaller, agenda]
  | joined other phase world key stage fetch rest agenda present moves shared =>
      refine kept ?_ (announces_of_modify rfl present (isTold_of_proceed moves) rfl caller)
      simp [State.notifications, setCaller, join, agenda]
  | launched other phase world key stage rest agenda present moves unshared =>
      refine kept ?_ (announces_of_modify rfl present (isTold_of_proceed moves) rfl caller)
      simp [State.notifications, setCaller, launch, schedule, agenda]
  | departed other phase world rest agenda present leaves =>
      refine kept ?_ (announces_of_modify rfl present (isTold_of_leave leaves) rfl caller)
      simp [State.notifications, setCaller, agenda]
  | notified other rest agenda =>
      refine kept ?_ rfl
      simp only [State.notifications, agenda, List.count_append, List.count_cons, List.count_nil,
        beq_iff_eq, Turn.notify.injEq]
      omega
  | concluded other phase world result rest agenda present moves =>
      have told : (CallerPhase.finished (.ofExcept result) :
          CallerPhase Stage Record Output).isTold = true := by cases result <;> rfl
      refine Eq.trans ?_ (congrArg (state.notifications caller + ·)
        (announces_of_ending rfl present (isTold_of_proceed moves) told caller).symm)
      simp [State.notifications, schedule, setCaller, agenda]
      omega

/-- The step calls the callback of a caller and does nothing else. -/
def CallsBack (state after : State World Key Stage Reply Record Output) (caller : Nat) : Prop :=
  ∃ rest, state.agenda = .notify caller :: rest ∧
    after = { state with agenda := rest, notified := state.notified ++ [caller] }

/-- Callbacks are called one at a time, each in a step of its own. -/
theorem Next.callsBack (next : Next outside service state after) :
    after.notified = state.notified ∨ ∃ caller, CallsBack state after caller := by
  cases next with
  | notified caller rest agenda => exact .inr ⟨caller, rest, agenda, rfl⟩
  | _ => exact .inl rfl

omit [BEq Key] in
theorem notifies_of_modify {other caller : Nat} {phase : CallerPhase Stage Record Output}
    (callers : after.callers =
      state.callers.modify other fun found => { found with phase := phase }) :
    (after.caller? caller).map Caller.notifies = (state.caller? caller).map Caller.notifies := by
  unfold caller?
  rw [callers, List.getElem?_modify]
  by_cases here : other = caller
  · subst here
    cases state.callers[other]? <;> simp
  · simp [here]

/-- A caller keeps its callback. -/
theorem Next.notifies (next : Next outside service state after) {caller : Nat} {notifies : Bool}
    (has : (state.caller? caller).map Caller.notifies = some notifies) :
    (after.caller? caller).map Caller.notifies = some notifies := by
  cases next with
  | called stage announces =>
      obtain ⟨found, there, -⟩ := Option.map_eq_some_iff.mp has
      have inRange : caller < state.callers.length := (List.getElem?_eq_some_iff.mp there).1
      rw [caller?_call, if_neg (Nat.ne_of_lt inRange)]
      exact has
  | callerStopped other stage fetch may waiting => exact (notifies_of_modify rfl).trans has
  | callerDropped other reached may pending => exact (notifies_of_modify rfl).trans has
  | told fetch other stage ending rest agenda waiting finished =>
      exact (notifies_of_modify rfl).trans has
  | concluded other phase world result rest agenda present moves =>
      exact (notifies_of_modify rfl).trans has
  | joined other phase world key stage fetch rest agenda present moves shared =>
      exact (notifies_of_modify rfl).trans has
  | launched other phase world key stage rest agenda present moves unshared =>
      exact (notifies_of_modify rfl).trans has
  | departed other phase world rest agenda present leaves =>
      exact (notifies_of_modify rfl).trans has
  | _ => exact has

/-- Callers are never forgotten. -/
theorem Next.callers_grow (next : Next outside service state after) :
    state.callers.length ≤ after.callers.length := by
  cases next <;> simp [call, schedule, setCaller, setFetch, complete, finishFetch, State.forget,
    join, launch]

end Next

/-- The calls of callbacks that are due and those that have been made: one for each caller that has
ended other than cancelled and has a callback, and none for any other. -/
def Announced (state : State World Key Stage Reply Record Output) : Prop :=
  ∀ caller, state.notifications caller = (state.announces caller).toNat

theorem Announced.next [BEq Key] {outside : Outside World}
    {service : Service World Key Stage Reply Record Output}
    {state after : State World Key Stage Reply Record Output} (announced : Announced state)
    (next : Next outside service state after) : Announced after := by
  intro caller
  have balance := next.notifications caller
  have before := announced caller
  omega

namespace History

variable [DecidableEq Key] {outside : Outside World}
    {service : Service World Key Stage Reply Record Output} (history : History outside service)

theorem announced (moment : Nat) : Announced (history.state moment) := by
  induction moment with
  | zero =>
      obtain ⟨world, start⟩ := history.starts
      rw [start]
      exact fun caller => rfl
  | succ moment inductionHypothesis => exact inductionHypothesis.next (history.next moment)

theorem notifies_later {caller earlier later : Nat} {notifies : Bool} (order : earlier ≤ later)
    (has : ((history.state earlier).caller? caller).map Caller.notifies = some notifies) :
    ((history.state later).caller? caller).map Caller.notifies = some notifies := by
  induction order with
  | refl => exact has
  | @step moment order inductionHypothesis =>
      exact (history.next moment).notifies inductionHypothesis

theorem callers_later {earlier later : Nat} (order : earlier ≤ later) :
    (history.state earlier).callers.length ≤ (history.state later).callers.length := by
  induction order with
  | refl => exact Nat.le_refl _
  | @step moment order inductionHypothesis =>
      exact Nat.le_trans inductionHypothesis (history.next moment).callers_grow

/-- A caller ends only once. -/
theorem ending_unique {caller first second : Nat} {ending other : Ending Output}
    (finished : (history.state first).callerPhase? caller = some (.finished ending))
    (again : (history.state second).callerPhase? caller = some (.finished other)) :
    ending = other := by
  rcases Nat.le_total first second with order | order
  · have still := history.callerPhase?_finished order finished
    cases still.symm.trans again
    rfl
  · have still := history.callerPhase?_finished order again
    cases still.symm.trans finished
    rfl

end History

end FeatureFlags.Flight
