import FeatureFlags.Flight.Callback
import FeatureFlags.Proofs.Client.Agenda
import FeatureFlags.Proofs.Client.Evaluation
import FeatureFlags.Proofs.Flight.Announcing
import FeatureFlags.Proofs.Flight.Silenced

/-!
# Calls with a callback

The callback of a call is called once, in a step of its own after the step in which the call has
ended, and with just what the call would have come to without it; the callback of a cancelled call
is never called (`callback_convention`).  `Run.silent` is the run without the callback: it takes the
same steps but for those in which the callback is called, and its states are the same but for the
callback (`CallsWithCallback.state_silent`).
-/

set_option autoImplicit false

namespace FeatureFlags.Client

/-- The same step, with the call that it makes, if it makes one, made without a callback. -/
def Step.silent : Step → Step
  | .move (.call stage _) => .move (.call stage false)
  | taken => taken

def calledBack (before after : State) : List Nat :=
  after.notified.drop before.notified.length

structure Loop where
  state : State
  reported : List Error

/-- A callback that raises an error ends with that; the loop reports it and goes on. -/
def Loop.step (callbacks : Nat → Flight.Callback Answer) (loop : Loop) (taken : Step) : Loop :=
  let after := Client.step loop.state taken
  let raised := (calledBack loop.state after).filterMap fun caller =>
    ((loop.state.ending? caller).bind Flight.Ending.notice?).bind (callbacks caller).raised?
  ⟨after, loop.reported ++ raised⟩

namespace Run

variable (run : Run)

def callbacks (moment : Nat) : List Nat :=
  calledBack (run.state moment) (run.state (moment + 1))

def notice? (caller moment : Nat) : Option (Flight.Notice Answer) :=
  if caller ∈ run.callbacks moment then
    ((run.state moment).ending? caller).bind Flight.Ending.notice?
  else none

def returned? (caller moment : Nat) : Option (Flight.Ending (Option Answer)) :=
  ((run.state moment).caller? caller).bind Flight.Caller.returned?

/-! ## The steps in which callbacks are called -/

theorem callbacks_or (moment : Nat) :
    (run.callbacks moment = [] ∧
        (run.state (moment + 1)).notified = (run.state moment).notified) ∨
      ∃ caller, run.callbacks moment = [caller] ∧
        Flight.CallsBack (run.state moment) (run.state (moment + 1)) caller := by
  unfold callbacks calledBack
  rcases (run.history.next moment).callsBack with same | ⟨caller, rest, agenda, after⟩
  · have notified : (run.state (moment + 1)).notified = (run.state moment).notified := same
    refine .inl ⟨?_, notified⟩
    rw [notified, List.drop_length]
  · have next : run.state (moment + 1) = { run.state moment with
        agenda := rest, notified := (run.state moment).notified ++ [caller] } := after
    refine .inr ⟨caller, ?_, rest, agenda, next⟩
    rw [next]
    simp

variable {run}

theorem callsBack_of_mem {caller moment : Nat} (member : caller ∈ run.callbacks moment) :
    Flight.CallsBack (run.state moment) (run.state (moment + 1)) caller := by
  rcases run.callbacks_or moment with ⟨nobody, -⟩ | ⟨other, only, callsBack⟩
  · rw [nobody] at member
    cases member
  · rw [only] at member
    cases List.mem_singleton.mp member
    exact callsBack

theorem mem_callbacks_of_callsBack {caller moment : Nat}
    (callsBack : Flight.CallsBack (run.state moment) (run.state (moment + 1)) caller) :
    caller ∈ run.callbacks moment := by
  obtain ⟨rest, agenda, after⟩ := callsBack
  unfold callbacks calledBack
  rw [after]
  simp

theorem mem_callbacks_of_turn {caller moment : Nat} {given : Option Reply} {rest : List Flight.Turn}
    (turn : run.steps[moment]? = some (.move (.turn given)))
    (agenda : (run.state moment).agenda = .notify caller :: rest) :
    caller ∈ run.callbacks moment := by
  refine mem_callbacks_of_callsBack ⟨rest, agenda, ?_⟩
  rw [run.state_succ_of_step turn]
  simp only [step, Flight.State.step, Flight.State.turn, agenda]
  rfl

theorem count_notified_succ (run : Run) (caller moment : Nat) :
    (run.state (moment + 1)).notified.count caller =
      (run.state moment).notified.count caller + (run.callbacks moment).count caller := by
  rcases run.callbacks_or moment with ⟨nobody, same⟩ | ⟨other, only, rest, agenda, after⟩
  · rw [same, nobody]
    simp
  · rw [after, only, List.count_append]

theorem count_notified_later {caller earlier later : Nat} (order : earlier ≤ later) :
    (run.state earlier).notified.count caller ≤ (run.state later).notified.count caller := by
  induction order with
  | refl => exact Nat.le_refl _
  | @step moment order inductionHypothesis =>
      have next : (run.state moment.succ).notified.count caller = _ :=
        run.count_notified_succ caller moment
      omega

/-- The calls of a callback that are due and those that have been made. -/
theorem count_callbacks (run : Run) (caller moment : Nat) :
    (run.state moment).agenda.count (.notify caller) + (run.state moment).notified.count caller =
      ((run.state moment).announces caller).toNat :=
  run.history.announced moment caller

theorem count_notified_le (run : Run) (caller moment : Nat) :
    (run.state moment).notified.count caller ≤ 1 := by
  have balance := run.count_callbacks caller moment
  have few := Bool.toNat_le ((run.state moment).announces caller)
  omega

/-- No callback is called twice. -/
theorem callback_once {caller first second : Nat} (member : caller ∈ run.callbacks first)
    (again : caller ∈ run.callbacks second) : first = second := by
  have never : ∀ earlier later, earlier < later → caller ∈ run.callbacks earlier →
      caller ∉ run.callbacks later := by
    intro earlier later order sooner again
    have before := run.count_notified_succ caller earlier
    have between : (run.state (earlier + 1)).notified.count caller ≤
        (run.state later).notified.count caller := count_notified_later order
    have after := run.count_notified_succ caller later
    have atMost := run.count_notified_le caller (later + 1)
    have one := List.count_pos_iff.mpr sooner
    have another := List.count_pos_iff.mpr again
    omega
  rcases Nat.lt_trichotomy first second with before | same | after
  · exact absurd again (never first second before member)
  · exact same
  · exact absurd member (never second first after again)

/-- What has been called was called at some moment. -/
theorem callback_of_notified {caller last : Nat} (member : caller ∈ (run.state last).notified) :
    ∃ moment, moment < last ∧ caller ∈ run.callbacks moment := by
  induction last with
  | zero => cases member
  | succ last inductionHypothesis =>
      by_cases before : caller ∈ (run.state last).notified
      · obtain ⟨moment, sooner, called⟩ := inductionHypothesis before
        exact ⟨moment, Nat.lt_succ_of_lt sooner, called⟩
      · refine ⟨last, Nat.lt_succ_self last, List.count_pos_iff.mp ?_⟩
        have next := run.count_notified_succ caller last
        have absent := List.count_eq_zero_of_not_mem before
        have present := List.count_pos_iff.mpr member
        omega

/-- Only the callback of a caller that has ended, other than cancelled, is called. -/
theorem notice_of_mem {caller moment : Nat} (member : caller ∈ run.callbacks moment) :
    ∃ ending notice, (run.state moment).callerPhase? caller = some (.finished ending) ∧
      Flight.Ending.notice? ending = some notice ∧ run.notice? caller moment = some notice := by
  obtain ⟨rest, agenda, -⟩ := callsBack_of_mem member
  have balance := run.count_callbacks caller moment
  have announces : (run.state moment).announces caller = true := by
    by_contra silent
    rw [Bool.eq_false_iff.mpr silent, agenda] at balance
    simp at balance
  obtain ⟨ending, notice, finished, told⟩ := Flight.State.notice_of_announces announces
  refine ⟨ending, notice, finished, told, ?_⟩
  rw [notice?, if_pos member, Flight.State.ending?_eq_some_iff.mpr finished]
  exact told

/-- A callback is called with the ending of its call, however long ago that was. -/
theorem notice?_of_finished {caller ended moment : Nat} {ending : Flight.Ending Answer}
    {notice : Flight.Notice Answer}
    (finished : (run.state ended).callerPhase? caller = some (.finished ending))
    (told : ending.notice? = some notice) (member : caller ∈ run.callbacks moment) :
    run.notice? caller moment = some notice := by
  obtain ⟨other, given, also, tells, same⟩ := notice_of_mem member
  obtain rfl : other = ending := run.history.ending_unique also finished
  rw [same, ← tells, told]

/-! ## The same run without the callback -/

section Silent

variable (run : Run) (caller called : Nat)

/-- The step at a moment as it is without the callback of the call that was made at `called`. -/
def silentStep? (moment : Nat) : Option Step :=
  if caller ∈ run.callbacks moment then none
  else if moment = called then run.steps[moment]?.map Step.silent
  else run.steps[moment]?

def silentSteps (moment : Nat) : List Step :=
  (List.range moment).filterMap (run.silentStep? caller called)

def silent : Run :=
  { run with steps := run.silentSteps caller called run.steps.length }

/-- The moment of that run at which it has taken the steps that this run has taken by a moment. -/
def silentMoment (moment : Nat) : Nat :=
  (run.silentSteps caller called moment).length

theorem silentSteps_succ (moment : Nat) :
    run.silentSteps caller called (moment + 1) =
      run.silentSteps caller called moment ++ (run.silentStep? caller called moment).toList := by
  unfold silentSteps
  rw [List.range_succ, List.filterMap_append]
  cases step : run.silentStep? caller called moment <;> simp [step]

theorem silentSteps_past {moment : Nat} (past : run.steps.length ≤ moment) :
    run.silentSteps caller called moment = run.silentSteps caller called run.steps.length := by
  induction past with
  | refl => rfl
  | @step moment past inductionHypothesis =>
      have absent : run.steps[moment]? = none := List.getElem?_eq_none past
      have nothing : run.silentStep? caller called moment = none := by
        simp [silentStep?, absent]
      rw [silentSteps_succ, nothing, inductionHypothesis]
      exact List.append_nil _

theorem silentSteps_prefix {earlier later : Nat} (order : earlier ≤ later) :
    run.silentSteps caller called earlier <+: run.silentSteps caller called later := by
  induction order with
  | refl => exact List.prefix_rfl
  | @step later order inductionHypothesis =>
      rw [silentSteps_succ]
      exact inductionHypothesis.trans (List.prefix_append _ _)

theorem take_silentMoment (moment : Nat) :
    (run.silent caller called).steps.take (run.silentMoment caller called moment) =
      run.silentSteps caller called moment := by
  rcases Nat.le_total moment run.steps.length with within | past
  · exact (List.prefix_iff_eq_take.mp (run.silentSteps_prefix caller called within)).symm
  · rw [silentMoment, run.silentSteps_past caller called past]
    exact List.take_length

theorem state_silentMoment (moment : Nat) :
    (run.silent caller called).state (run.silentMoment caller called moment) =
      Client.run (.start (.new run.host run.now run.lifetimes run.linked))
        (run.silentSteps caller called moment) := by
  rw [← run.take_silentMoment caller called moment]
  rfl

end Silent

/-- A step that does not call the callback, and does not make its call, is the same without it. -/
theorem step_silenced (caller : Nat) (state : State) {taken : Step}
    (uncalled : ∀ given, taken = .move (.turn given) → state.agenda.head? ≠ some (.notify caller))
    (apart : ∀ stage notifies, taken = .move (.call stage notifies) →
      caller ≠ state.callers.length) :
    (step state taken).silenced caller = step (state.silenced caller) taken := by
  cases taken with
  | clock now => rfl
  | sweep now keep => rfl
  | move action =>
      refine Flight.State.silenced_step caller state service ?_ ?_
      · intro given same
        exact uncalled given (congrArg Step.move same)
      · intro stage notifies same
        exact apart stage notifies (congrArg Step.move same)

theorem returned?_of_notifies {state : State} {caller : Nat} {notifies : Bool}
    (has : (state.caller? caller).map Flight.Caller.notifies = some notifies) :
    (state.caller? caller).bind Flight.Caller.returned? =
      (state.ending? caller).map (Flight.Ending.returned notifies) := by
  obtain ⟨found, present, same⟩ := Option.map_eq_some_iff.mp has
  simp [Flight.State.ending?, Flight.State.callerPhase?, present, Flight.Caller.returned?, same]

structure CallsWithCallback (run : Run) (caller called : Nat) : Prop where
  new : (run.state called).callers.length = caller
  made : ∃ call, run.steps[called]? = some (.move (.call (.start call) true))

namespace CallsWithCallback

variable {caller called : Nat} (calls : run.CallsWithCallback caller called)

include calls

theorem state_succ : ∃ call,
    run.state (called + 1) = (run.state called).call (.start call) true := by
  obtain ⟨call, made⟩ := calls.made
  exact ⟨call, run.state_succ_of_step made⟩

theorem length_succ : (run.state (called + 1)).callers.length = caller + 1 := by
  obtain ⟨call, next⟩ := calls.state_succ
  rw [next, ← calls.new]
  simp [Flight.State.call, Flight.State.schedule]

theorem notifies {moment : Nat} (after : called < moment) :
    ((run.state moment).caller? caller).map Flight.Caller.notifies = some true := by
  obtain ⟨call, next⟩ := calls.state_succ
  have there : (run.state (called + 1)).caller? caller = some ⟨.ready (.start call), true⟩ := by
    rw [next, Flight.State.caller?_call, if_pos calls.new.symm]
  have since : called + 1 ≤ moment := after
  exact run.history.notifies_later since (congrArg (Option.map Flight.Caller.notifies) there)

theorem absent {moment : Nat} (before : moment ≤ called) :
    (run.state moment).caller? caller = none := by
  have few : (run.state moment).callers.length ≤ (run.state called).callers.length :=
    run.history.callers_later before
  rw [calls.new] at few
  exact List.getElem?_eq_none few

/-- Other calls have other callers. -/
theorem apart {moment : Nat} (other : moment ≠ called) {stage : Stage} {notifies : Bool}
    (present : run.steps[moment]? = some (.move (.call stage notifies))) :
    caller ≠ (run.state moment).callers.length := by
  have grows : (run.state (moment + 1)).callers.length = (run.state moment).callers.length + 1 := by
    rw [run.state_succ_of_step present]
    simp [step, Flight.State.step, Flight.State.call, Flight.State.schedule]
  rcases Nat.lt_or_gt_of_ne other with before | after
  · have few : (run.state (moment + 1)).callers.length ≤ (run.state called).callers.length :=
      run.history.callers_later before
    rw [calls.new] at few
    omega
  · have many : (run.state (called + 1)).callers.length ≤ (run.state moment).callers.length :=
      run.history.callers_later after
    rw [calls.length_succ] at many
    omega

theorem called_lt_of_present {moment : Nat} {phase : Phase}
    (present : (run.state moment).callerPhase? caller = some phase) : called < moment := by
  by_contra before
  obtain ⟨found, there, -⟩ := Option.map_eq_some_iff.mp present
  cases (calls.absent (Nat.le_of_not_lt before)).symm.trans there

/-- The call has been made before its callback is called. -/
theorem called_lt {moment : Nat} (member : caller ∈ run.callbacks moment) : called < moment := by
  obtain ⟨ending, notice, finished, -⟩ := notice_of_mem member
  exact calls.called_lt_of_present finished

/-- Without the callback the same call is made in the same place. -/
theorem silent_made {call : Call}
    (made : run.steps[called]? = some (.move (.call (.start call) true))) :
    (run.silent caller called).steps[run.silentMoment caller called called]? =
      some (.move (.call (.start call) false)) := by
  have within : called < run.steps.length := (List.getElem?_eq_some_iff.mp made).1
  have uncalled : caller ∉ run.callbacks called := fun member =>
    Nat.lt_irrefl called (calls.called_lt member)
  have known : run.silentSteps caller called (called + 1) =
      run.silentSteps caller called called ++ [.move (.call (.start call) false)] := by
    rw [silentSteps_succ, silentStep?, if_neg uncalled, if_pos rfl, made]
    rfl
  exact getElem?_of_prefix (known ▸ run.silentSteps_prefix caller called within)

theorem state_silenced (moment : Nat) :
    Client.run (.start (.new run.host run.now run.lifetimes run.linked))
      (run.silentSteps caller called moment) = (run.state moment).silenced caller := by
  induction moment with
  | zero =>
      exact (Flight.State.silenced_of_absent caller (run.state 0) (Nat.zero_le caller)
        List.not_mem_nil List.not_mem_nil).symm
  | succ moment inductionHypothesis =>
      have known : Client.run (.start (.new run.host run.now run.lifetimes run.linked))
          (run.silentSteps caller called (moment + 1)) =
            Client.run ((run.state moment).silenced caller)
              (run.silentStep? caller called moment).toList := by
        rw [silentSteps_succ, ← inductionHypothesis]
        exact List.foldl_append
      rw [known, silentStep?]
      by_cases callback : caller ∈ run.callbacks moment
      · obtain ⟨rest, agenda, after⟩ := callsBack_of_mem callback
        rw [if_pos callback, after]
        exact (Flight.State.silenced_notified caller _ agenda).symm
      rw [if_neg callback]
      by_cases here : moment = called
      · subst here
        obtain ⟨call, made⟩ := calls.made
        rw [if_pos rfl, made, run.state_succ_of_step made]
        exact (Flight.State.silenced_call_self caller _ calls.new.symm).symm
      rw [if_neg here]
      cases present : run.steps[moment]? with
      | none =>
          rw [run.state_succ_of_none present]
          rfl
      | some taken =>
          rw [run.state_succ_of_step present, step_silenced caller (run.state moment)]
          · rfl
          · intro given same head
            obtain ⟨rest, agenda⟩ := List.head?_eq_some_iff.mp head
            exact callback (mem_callbacks_of_turn (same ▸ present) agenda)
          · intro stage notifies same
            exact calls.apart here (same ▸ present)

theorem state_silent (moment : Nat) :
    (run.silent caller called).state (run.silentMoment caller called moment) =
      (run.state moment).silenced caller := by
  rw [state_silentMoment]
  exact calls.state_silenced moment

theorem returned?_eq (moment : Nat) :
    run.returned? caller moment =
      ((run.state moment).ending? caller).map (Flight.Ending.returned true) := by
  rcases Nat.lt_or_ge called moment with after | before
  · exact returned?_of_notifies (calls.notifies after)
  · have absent := calls.absent before
    simp [returned?, Flight.State.ending?, Flight.State.callerPhase?, absent]

theorem returned?_silent (moment : Nat) :
    (run.silent caller called).returned? caller (run.silentMoment caller called moment) =
      ((run.state moment).ending? caller).map (Flight.Ending.returned false) := by
  unfold returned?
  rw [calls.state_silent]
  rcases Nat.lt_or_ge called moment with after | before
  · obtain ⟨found, present, -⟩ := Option.map_eq_some_iff.mp (calls.notifies after)
    have mute : (((run.state moment).silenced caller).caller? caller).map Flight.Caller.notifies =
        some false := by
      rw [Flight.State.caller?_silenced, present]
      simp
    rw [returned?_of_notifies mute, Flight.State.ending?, Flight.State.callerPhase?_silenced]
    rfl
  · have absent := calls.absent before
    simp [Flight.State.caller?_silenced, Flight.State.ending?, Flight.State.callerPhase?, absent]

/-- Once the call has ended its callback has been called, or it is due. -/
theorem callback_of_ended {ended later : Nat} {ending : Flight.Ending Answer}
    {notice : Flight.Notice Answer}
    (finished : (run.state ended).callerPhase? caller = some (.finished ending))
    (told : ending.notice? = some notice) (order : ended ≤ later)
    (enough : run.turns ended + (run.state ended).agenda.length ≤ run.turns later) :
    ∃ moment, moment < later ∧ caller ∈ run.callbacks moment := by
  have made := calls.called_lt_of_present finished
  have announces : (run.state ended).announces caller = true :=
    Flight.State.announces_of_notice finished told (calls.notifies made)
  have balance := run.count_callbacks caller ended
  by_cases already : caller ∈ (run.state ended).notified
  · obtain ⟨moment, before, member⟩ := callback_of_notified already
    exact ⟨moment, Nat.lt_of_lt_of_le before order, member⟩
  · have due : .notify caller ∈ (run.state ended).agenda := by
      rw [announces, List.count_eq_zero_of_not_mem already] at balance
      exact List.count_pos_iff.mp (Nat.lt_of_lt_of_eq Nat.zero_lt_one balance.symm)
    obtain ⟨moment, given, rest, -, before, turn, agenda⟩ := run.turn_of_due order due enough
    exact ⟨moment, before, mem_callbacks_of_turn turn agenda⟩

end CallsWithCallback

/-! ## Errors that callbacks raise -/

def loop (run : Run) (callbacks : Nat → Flight.Callback Answer) (moment : Nat) : Loop :=
  (run.steps.take moment).foldl (Loop.step callbacks)
    ⟨.start (.new run.host run.now run.lifetimes run.linked), []⟩

theorem loop_succ_of_step {callbacks : Nat → Flight.Callback Answer} {moment : Nat} {taken : Step}
    (present : run.steps[moment]? = some taken) :
    run.loop callbacks (moment + 1) = (run.loop callbacks moment).step callbacks taken := by
  simp [loop, List.take_add_one, present]

theorem loop_succ_of_none {callbacks : Nat → Flight.Callback Answer} {moment : Nat}
    (absent : run.steps[moment]? = none) :
    run.loop callbacks (moment + 1) = run.loop callbacks moment := by
  simp [loop, List.take_add_one, absent]

theorem loop_state (callbacks : Nat → Flight.Callback Answer) (moment : Nat) :
    (run.loop callbacks moment).state = run.state moment := by
  induction moment with
  | zero => rfl
  | succ moment inductionHypothesis =>
      cases present : run.steps[moment]? with
      | none => rw [loop_succ_of_none present, run.state_succ_of_none present, inductionHypothesis]
      | some taken =>
          rw [loop_succ_of_step present, run.state_succ_of_step present, ← inductionHypothesis]
          rfl

theorem reported_of_raised {callbacks : Nat → Flight.Callback Answer} {caller moment : Nat}
    {notice : Flight.Notice Answer} {error : Error}
    (called : run.notice? caller moment = some notice)
    (raises : callbacks caller notice = .error error) :
    error ∈ (run.loop callbacks (moment + 1)).reported := by
  have member : caller ∈ run.callbacks moment := by
    by_contra apart
    rw [notice?, if_neg apart] at called
    cases called
  rw [notice?, if_pos member] at called
  cases present : run.steps[moment]? with
  | none =>
      rw [Run.callbacks, calledBack, run.state_succ_of_none present, List.drop_length] at member
      cases member
  | some taken =>
      rw [loop_succ_of_step present]
      refine List.mem_append_right _ (List.mem_filterMap.mpr ⟨caller, ?_, ?_⟩)
      · rw [loop_state, ← run.state_succ_of_step present]
        exact member
      · rw [loop_state, called]
        simp [Flight.Callback.raised?, raises]

/-! ## The two conventions -/

/-- What the task of a call ends with when it has no callback, and what the callback is called with
when it has one. -/
inductive Tells : Flight.Ending (Option Answer) → Flight.Notice Answer → Prop where
  | value (answer : Answer) : Tells (.ok (some answer)) ⟨none, some answer⟩
  | error (error : Error) : Tells (.failed error) ⟨some error, none⟩

theorem tells_of_notice {ending : Flight.Ending Answer} {notice : Flight.Notice Answer}
    (told : ending.notice? = some notice) : Tells (ending.returned false) notice := by
  cases ending with
  | ok answer =>
      cases told
      exact .value answer
  | failed error =>
      cases told
      exact .error error
  | cancelled => cases told

/-- How a call that was made with a callback stands to the same call without one. -/
structure Convention (run : Run) (caller called : Nat) : Prop where
  /-- It is the same call, made in the same place. -/
  plain : ∃ call, run.steps[called]? = some (.move (.call (.start call) true)) ∧
    (run.silent caller called).steps[run.silentMoment caller called called]? =
      some (.move (.call (.start call) false))
  /-- The callback is called after the call and after the step in which that has ended, in a step
  in which nothing else is done. -/
  apart : ∀ moment, caller ∈ run.callbacks moment → called < moment ∧
    run.returned? caller moment = some (.ok none) ∧
      Flight.CallsBack (run.state moment) (run.state (moment + 1)) caller
  once : ∀ first second, caller ∈ run.callbacks first → caller ∈ run.callbacks second →
    first = second
  /-- The task ends when it would end without the callback; unless it is cancelled, its result is
  null. -/
  ends : ∀ moment, run.returned? caller moment =
    ((run.silent caller called).returned? caller (run.silentMoment caller called moment)).map
      Flight.Ending.nulled
  /-- The callback is called with what the task would come to without it. -/
  told : ∀ moment, caller ∈ run.callbacks moment → ∃ plain notice,
    (run.silent caller called).returned? caller (run.silentMoment caller called moment) =
      some plain ∧ run.notice? caller moment = some notice ∧ Tells plain notice
  /-- If the task would end other than cancelled without the callback, then that is called by the
  time that all that is due at its end has had its turn. -/
  delivered : ∀ ended later plain,
    (run.silent caller called).returned? caller (run.silentMoment caller called ended) =
      some plain → plain ≠ .cancelled → ended ≤ later →
    run.turns ended + (run.state ended).agenda.length ≤ run.turns later →
      ∃ moment notice, moment < later ∧ run.notice? caller moment = some notice ∧
        Tells plain notice
  cancelled : ∀ ended, run.returned? caller ended = some .cancelled →
    ∀ moment, caller ∉ run.callbacks moment
  lasting : ∀ earlier later ending, earlier ≤ later → run.returned? caller earlier = some ending →
    run.returned? caller later = some ending
  /-- An error that the callback raises is reported and leaves the task as it is. -/
  raising : ∀ (callbacks : Nat → Flight.Callback Answer) moment notice error,
    run.notice? caller moment = some notice → callbacks caller notice = .error error →
      error ∈ (run.loop callbacks (moment + 1)).reported ∧ ∀ later,
        ((run.loop callbacks later).state.caller? caller).bind Flight.Caller.returned? =
          run.returned? caller later

/-- A callback is called once and never at once: after its call, and after the step in which that
has ended, with just what the same call would have come to without it.  A cancelled call does not
call it, and nothing that the callback does changes how the task has ended. -/
theorem callback_convention (run : Run) {caller called : Nat}
    (calls : run.CallsWithCallback caller called) : run.Convention caller called where
  plain := by
    obtain ⟨call, made⟩ := calls.made
    exact ⟨call, made, calls.silent_made made⟩
  apart moment member := by
    obtain ⟨ending, notice, finished, told, -⟩ := notice_of_mem member
    refine ⟨calls.called_lt member, ?_, callsBack_of_mem member⟩
    rw [calls.returned?_eq, Flight.State.ending?_eq_some_iff.mpr finished]
    cases ending with
    | ok answer => rfl
    | failed error => rfl
    | cancelled => cases told
  once first second member again := callback_once member again
  ends moment := by
    rw [calls.returned?_eq, calls.returned?_silent]
    cases (run.state moment).ending? caller with
    | none => rfl
    | some ending => cases ending <;> rfl
  told moment member := by
    obtain ⟨ending, notice, finished, told, given⟩ := notice_of_mem member
    refine ⟨ending.returned false, notice, ?_, given, tells_of_notice told⟩
    rw [calls.returned?_silent, Flight.State.ending?_eq_some_iff.mpr finished]
    rfl
  delivered ended later plain returned kept order enough := by
    rw [calls.returned?_silent] at returned
    obtain ⟨ending, ends, rfl⟩ := Option.map_eq_some_iff.mp returned
    have finished := Flight.State.ending?_eq_some_iff.mp ends
    obtain ⟨notice, told⟩ : ∃ notice, Flight.Ending.notice? ending = some notice := by
      cases ending with
      | ok answer => exact ⟨_, rfl⟩
      | failed error => exact ⟨_, rfl⟩
      | cancelled => exact absurd rfl kept
    obtain ⟨moment, before, member⟩ := calls.callback_of_ended finished told order enough
    exact ⟨moment, notice, before, notice?_of_finished finished told member,
      tells_of_notice told⟩
  cancelled ended returned moment member := by
    rw [calls.returned?_eq] at returned
    obtain ⟨ending, ends, cancelled⟩ := Option.map_eq_some_iff.mp returned
    obtain ⟨other, notice, finished, told, -⟩ := notice_of_mem member
    obtain rfl : other = ending :=
      run.history.ending_unique finished (Flight.State.ending?_eq_some_iff.mp ends)
    cases other with
    | ok answer => cases cancelled
    | failed error => cases cancelled
    | cancelled => cases told
  lasting earlier later ending order returned := by
    rw [calls.returned?_eq] at returned ⊢
    obtain ⟨reached, ends, rfl⟩ := Option.map_eq_some_iff.mp returned
    have finished := run.history.callerPhase?_finished order
      (Flight.State.ending?_eq_some_iff.mp ends)
    have still : (run.state later).ending? caller = some reached :=
      Flight.State.ending?_eq_some_iff.mpr finished
    rw [still]
    rfl
  raising callbacks moment notice error called raises := by
    refine ⟨reported_of_raised called raises, ?_⟩
    intro later
    rw [loop_state, returned?]

/-- While one call waits for an identity, another fails, and a third is cancelled as it is told. -/
def interleaved : Run where
  host := "flags.test"
  now := .ofInt 0
  lifetimes := .usual
  linked := true
  steps := [
    .move (.call (.start (.identify (some "ada"))) true),
    .move (.turn none),
    .move (.turn none),
    .move (.call (.start (.evaluate ⟨"dark", none, []⟩)) true),
    .move (.turn none),
    .move (.call (.start (.identify (some "ada"))) true),
    .move (.answer 0 (.ok (.object [("overrides", .object [])]))),
    .move (.turn none),
    .move (.turn none),
    .move (.turn none),
    .move (.turn none),
    .move (.turn none),
    .move (.cancel 2),
    .move (.turn none),
    .move (.turn none),
    .move (.turn none),
    .move (.turn none)]

theorem callback_convention_interleaved :
    interleaved.CallsWithCallback 0 0 ∧ interleaved.Convention 0 0 ∧
      interleaved.callbacks 16 = [0] ∧
    interleaved.CallsWithCallback 1 3 ∧ interleaved.Convention 1 3 ∧
      interleaved.notice? 1 7 = some ⟨some (.flagNotFound (.string "dark")), none⟩ ∧
    interleaved.CallsWithCallback 2 5 ∧ interleaved.Convention 2 5 ∧
      interleaved.returned? 2 16 = some .cancelled := by
  have first : interleaved.CallsWithCallback 0 0 := ⟨by decide +kernel, _, rfl⟩
  have second : interleaved.CallsWithCallback 1 3 := ⟨by decide +kernel, _, rfl⟩
  have third : interleaved.CallsWithCallback 2 5 := ⟨by decide +kernel, _, rfl⟩
  exact ⟨first, callback_convention interleaved first, by decide +kernel, second,
    callback_convention interleaved second, rfl, third, callback_convention interleaved third, rfl⟩

end Run

end FeatureFlags.Client
