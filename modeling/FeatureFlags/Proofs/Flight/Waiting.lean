import FeatureFlags.Proofs.Flight.Fetches

/-!
# Waiting and being told

In a reachable state every turn that is owed is on the agenda, a caller that waits for an unfinished
fetch is among its waiters, and a caller that has been told of an ending has been told the ending of
its fetch (`Attended`).  So nobody waits for a fetch in vain, and nobody is told anything else.
-/

set_option autoImplicit false

namespace FeatureFlags.Flight

variable {World Key Stage Reply Record Output : Type}

open State

structure Attended (state : State World Key Stage Reply Record Output) : Prop where
  owed : ∀ due, state.Owes due → due ∈ state.agenda
  waits : ∀ caller stage fetch, state.callerPhase? caller = some (.waiting stage fetch) →
    ∃ found, state.fetch? fetch = some found ∧
      (found.phase.isFinished = false → caller ∈ found.waiters)
  told : ∀ caller stage fetch ending,
    state.callerPhase? caller = some (.woken stage fetch ending) →
      state.fetchPhase? fetch = some (.finished ending)

theorem attended_start (world : World) :
    Attended (State.start world : State World Key Stage Reply Record Output) := by
  constructor
  · intro due owed
    cases due with
    | fetch fetch => simp [Owes, fetchPhase?, fetch?, State.start] at owed
    | forget fetch => cases owed
    | deliver fetch caller => simp [Owes, callerPhase?, caller?, State.start] at owed
    | caller caller => simp [Owes, callerPhase?, caller?, State.start] at owed
    | notify caller => cases owed
  · intro caller stage fetch waiting
    cases waiting
  · intro caller stage fetch ending woken
    cases woken

section Next

variable [DecidableEq Key] {outside : Outside World}
    {service : Service World Key Stage Reply Record Output}
    {state after : State World Key Stage Reply Record Output}

omit [DecidableEq Key] in
theorem deliver_mem_notices (caller fetch waiter : Nat) :
    .deliver fetch waiter ∉ state.notices caller := by
  unfold notices
  split <;> simp

theorem Next.deliver (next : Next outside service state after) {fetch caller : Nat} {stage : Stage}
    (owed : state.Owes (.deliver fetch caller)) (due : .deliver fetch caller ∈ state.agenda)
    (waiting : after.callerPhase? caller = some (.waiting stage fetch)) :
    .deliver fetch caller ∈ after.agenda := by
  cases next with
  | passed popped rest agenda settled remembers =>
      rw [agenda] at due
      rcases List.mem_cons.mp due with head | later
      · exact absurd (head ▸ owed) settled
      · exact later
  | told other reader readerStage ending rest agenda readerWaits finished =>
      by_cases here : fetch = other ∧ caller = reader
      · obtain ⟨rfl, rfl⟩ := here
        have woken := callerPhase?_setCaller_self { state with agenda := rest } readerWaits
          (.woken readerStage fetch ending)
        cases waiting.symm.trans woken
      · have later : .deliver fetch caller ∈ rest := by
          rw [agenda] at due
          rcases List.mem_cons.mp due with head | later
          · exact absurd (Turn.deliver.inj head) here
          · exact later
        simp [schedule, setCaller, later]
  | nothing => exact due
  | worldChanged world drifts => exact due
  | called newStage notifies => simp [call, schedule, due]
  | answered other reply out => simp [schedule, setFetch, due]
  | fetchStopped other out => simp [schedule, setFetch, due]
  | fetchDropped other pending => exact due
  | callerStopped other otherStage awaited may otherWaits => simp [schedule, setCaller, due]
  | callerDropped other reached may pending => exact due
  | began other rest agenda scheduled => simpa [setFetch, agenda] using due
  | completed other found given reply rest agenda present replied =>
      have later : .deliver fetch caller ∈ rest := by simpa [agenda] using due
      simp [complete, finishFetch, schedule, setFetch, later]
  | aborted other rest agenda cancelling =>
      have later : .deliver fetch caller ∈ rest := by simpa [agenda] using due
      simp [finishFetch, schedule, setFetch, later]
  | forgot other rest agenda => simpa [State.forget, agenda] using due
  | concluded other phase world result rest agenda present moves =>
      simpa [schedule, setCaller, agenda, deliver_mem_notices] using due
  | joined other phase world key newStage shared rest agenda present moves open' =>
      simpa [setCaller, join, agenda] using due
  | launched other phase world key newStage rest agenda present moves unshared =>
      simpa [setCaller, launch, schedule, agenda] using due
  | departed other phase world rest agenda present leaves => simpa [setCaller, agenda] using due
  | notified other rest agenda => simpa [agenda] using due

theorem Attended.caller_due (attended : Attended state) (registered : Registered state)
    (next : Next outside service state after) {caller : Nat} (owes : after.Owes (.caller caller)) :
    .caller caller ∈ after.agenda := by
  cases next.caller registered caller with
  | kept phase due =>
      have owed : state.Owes (.caller caller) := by simpa only [Owes, phase] using owes
      exact due owed (attended.owed _ owed)
  | called stage absent phase due => exact due
  | cancelled reached may pending phase due world => exact due (attended.owed _)
  | told stage fetch ending waiting finished phase due => exact due
  | proceeded phase move proceeds =>
      rcases proceeds.reached.phase with ⟨ending, ended⟩ | ⟨-, stage, fetch, found, -, waits, -⟩
      · simp [Owes, ended] at owes
      · simp [Owes, waits] at owes
  | departed phase turn present leaves ended => simp [Owes, ended] at owes

theorem Attended.fetch_due (attended : Attended state) (next : Next outside service state after)
    {fetch : Nat} (owes : after.Owes (.fetch fetch)) : .fetch fetch ∈ after.agenda := by
  cases next.fetch fetch with
  | kept phase due =>
      have owed : state.Owes (.fetch fetch) := by simpa only [Owes, phase] using owes
      exact due owed (attended.owed _ owed)
  | opened caller phase key stage absent proceeds present due => exact due
  | began turn scheduled phase => simp [Owes, phase] at owes
  | answered reply waiting phase due => exact due
  | cancelled old present pending phase due => exact due (attended.owed _)
  | completed found given reply turn present replied world phase due => simp [Owes, phase] at owes
  | aborted found turn present cancelling phase due => simp [Owes, phase] at owes

theorem Next.waiting (next : Next outside service state after) (registered : Registered state)
    {caller fetch : Nat} {stage : Stage}
    (waiting : after.callerPhase? caller = some (.waiting stage fetch)) :
    state.callerPhase? caller = some (.waiting stage fetch) ∨
      ∃ found, after.fetch? fetch = some found ∧ found.phase.isFinished = false ∧
        caller ∈ found.waiters := by
  cases next.caller registered caller with
  | kept phase due => exact .inl (phase.symm.trans waiting)
  | called newStage absent phase due => cases waiting.symm.trans phase
  | cancelled reached may pending phase due world => cases waiting.symm.trans phase
  | told oldStage other ending oldWaiting finished phase due => cases waiting.symm.trans phase
  | proceeded phase move proceeds =>
      rcases proceeds.reached.phase with
        ⟨ending, ended⟩ | ⟨-, newStage, other, found, -, waits, there, unfinished, member⟩
      · cases waiting.symm.trans ended
      · cases waiting.symm.trans waits
        exact .inr ⟨found, there, unfinished, member⟩
  | departed phase turn present leaves ended => cases waiting.symm.trans ended

theorem Attended.deliver_due (attended : Attended state) (registered : Registered state)
    (next : Next outside service state after) {fetch caller : Nat}
    (owes : after.Owes (.deliver fetch caller)) : .deliver fetch caller ∈ after.agenda := by
  obtain ⟨stage, ending, waiting, finished⟩ := owes
  rcases next.waiting registered waiting with waited | ⟨found, there, unfinished, -⟩
  · obtain ⟨found, present, member⟩ := attended.waits caller stage fetch waited
    cases next.fetch fetch with
    | kept phase due =>
        have owed : state.Owes (.deliver fetch caller) :=
          ⟨stage, ending, waited, phase.symm.trans finished⟩
        exact next.deliver owed (attended.owed _ owed) waiting
    | opened opener phase key newStage absent proceeds opened due => cases absent.symm.trans present
    | began turn scheduled phase => cases phase.symm.trans finished
    | answered reply out phase due => cases phase.symm.trans finished
    | cancelled old there pending phase due => cases phase.symm.trans finished
    | completed stored given reply turn there replied world phase due =>
        -- The fetch ends in this step and tells its waiters, of which the caller is one.
        cases there.symm.trans present
        refine due caller (member ?_)
        exact congrArg Prod.snd (Option.some.inj
          ((congrArg _ present).symm.trans (unfinished_of_reply present replied)))
    | aborted stored turn there cancelling phase due =>
        cases there.symm.trans present
        exact due caller (member (by rw [cancelling]; rfl))
  · rw [fetchPhase?_of_fetch? after there] at finished
    rw [Option.some.inj finished] at unfinished
    cases unfinished

theorem Attended.next (attended : Attended state) (registered : Registered state)
    (next : Next outside service state after) : Attended after := by
  constructor
  · intro due owes
    cases due with
    | fetch fetch => exact attended.fetch_due next owes
    | forget fetch => cases owes
    | deliver fetch caller => exact attended.deliver_due registered next owes
    | caller caller => exact attended.caller_due registered next owes
    | notify caller => cases owes
  · intro caller stage fetch waiting
    rcases next.waiting registered waiting with waited | ⟨found, present, -, member⟩
    · obtain ⟨found, present, member⟩ := attended.waits caller stage fetch waited
      obtain ⟨later, there, -, grows⟩ := next.fetch?_grows present
      refine ⟨later, there, fun unfinished => grows caller (member ?_)⟩
      cases ended : found.phase.isFinished with
      | false => rfl
      | true =>
          obtain ⟨ending, phase⟩ := FetchPhase.exists_of_isFinished ended
          have finished := next.fetchPhase?_finished
            ((fetchPhase?_of_fetch? state present).trans (congrArg some phase))
          rw [fetchPhase?_of_fetch? after there] at finished
          rw [Option.some.inj finished] at unfinished
          cases unfinished
    · exact ⟨found, present, fun _ => member⟩
  · intro caller stage fetch ending woken
    cases next.caller registered caller with
    | kept phase due =>
        exact next.fetchPhase?_finished
          (attended.told caller stage fetch ending (phase.symm.trans woken))
    | called newStage absent phase due => cases woken.symm.trans phase
    | cancelled reached may pending phase due world => cases woken.symm.trans phase
    | told oldStage other oldEnding waiting finished phase due =>
        cases woken.symm.trans phase
        exact next.fetchPhase?_finished finished
    | proceeded phase move proceeds =>
        rcases proceeds.reached.phase with
          ⟨ending, ended⟩ | ⟨-, newStage, other, found, -, waits, -⟩
        · cases woken.symm.trans ended
        · cases woken.symm.trans waits
    | departed phase turn present leaves ended => cases woken.symm.trans ended

end Next

/-! ## Reachable states -/

/-- What holds of every reachable state of shared fetches. -/
structure Orderly [BEq Key] (state : State World Key Stage Reply Record Output) : Prop where
  registered : Registered state
  attended : Attended state

section Orderly

variable [DecidableEq Key] {outside : Outside World}
    {service : Service World Key Stage Reply Record Output}
    {state after : State World Key Stage Reply Record Output}

theorem orderly_start (world : World) :
    Orderly (State.start world : State World Key Stage Reply Record Output) :=
  ⟨registered_start world, attended_start world⟩

theorem Orderly.next (orderly : Orderly state) (next : Next outside service state after) :
    Orderly after :=
  ⟨orderly.registered.next next, orderly.attended.next orderly.registered next⟩

theorem Orderly.run (orderly : Orderly state) (actions : List (Action Stage Reply)) :
    Orderly (state.run service actions) := by
  induction actions generalizing state with
  | nil => exact orderly
  | cons action rest inductionHypothesis =>
      have next : Next (.still fun _ => True) service state (state.step service action) :=
        step_next service state action fun _ _ => True.intro
      exact inductionHypothesis (orderly.next next)

end Orderly

end FeatureFlags.Flight
