import FeatureFlags.Proofs.Flight.Punctual

/-!
# A caller without its callback

`State.silenced` takes the callback away from one caller: the caller announces nothing, and no call
of its callback is due or has been made.  Every step does the same with and without the callback
(`State.silenced_step`), but for the call of the callback itself, of which nothing is left
(`State.silenced_notified`).
-/

set_option autoImplicit false

namespace FeatureFlags.Flight.State

variable {World Key Stage Reply Record Output : Type}

def silenced (caller : Nat) (state : State World Key Stage Reply Record Output) :
    State World Key Stage Reply Record Output :=
  { state with
    callers := state.callers.modify caller fun found => { found with notifies := false }
    agenda := state.agenda.filter (· ≠ .notify caller)
    notified := state.notified.filter (· ≠ caller) }

variable (caller : Nat) (state : State World Key Stage Reply Record Output)

theorem caller?_silenced (other : Nat) :
    (state.silenced caller).caller? other =
      (state.caller? other).map fun found =>
        if caller = other then { found with notifies := false } else found := by
  simp [silenced, caller?, List.getElem?_modify]

@[simp]
theorem callerPhase?_silenced (other : Nat) :
    (state.silenced caller).callerPhase? other = state.callerPhase? other := by
  unfold callerPhase?
  rw [caller?_silenced, Option.map_map]
  congr 1
  funext found
  by_cases same : caller = other <;> simp [same]

@[simp]
theorem fetch?_silenced (fetch : Nat) :
    (state.silenced caller).fetch? fetch = state.fetch? fetch := rfl

@[simp]
theorem fetchPhase?_silenced (fetch : Nat) :
    (state.silenced caller).fetchPhase? fetch = state.fetchPhase? fetch := rfl

@[simp]
theorem open?_silenced [BEq Key] (key : Key) :
    (state.silenced caller).open? key = state.open? key := rfl

/-! ## One change at a time -/

theorem silenced_schedule {turns : List Turn} (others : .notify caller ∉ turns) :
    (state.schedule turns).silenced caller = (state.silenced caller).schedule turns := by
  have kept : turns.filter (· ≠ .notify caller) = turns := by
    rw [List.filter_eq_self]
    intro due member
    simpa using fun same : due = .notify caller => others (same ▸ member)
  simp only [schedule, silenced, List.filter_append, kept]

theorem silenced_schedule_self :
    (state.schedule [.notify caller]).silenced caller = state.silenced caller := by
  simp [schedule, silenced]

theorem silenced_setCaller (other : Nat) (phase : CallerPhase Stage Record Output) :
    (state.setCaller other phase).silenced caller =
      (state.silenced caller).setCaller other phase := by
  by_cases same : other = caller
  · subst same
    simp only [silenced, setCaller, List.modify_modify_eq]
    rfl
  · simp only [silenced, setCaller, List.modify_modify_ne _ _ _ same]

theorem silenced_launch [BEq Key] (key : Key) (other : Nat) :
    (state.launch key other).silenced caller = (state.silenced caller).launch key other := by
  rw [launch, silenced_schedule _ _ (by simp)]
  rfl

theorem silenced_await [BEq Key] (key : Key) (stage : Stage) (other : Nat) :
    (state.await key stage other).silenced caller =
      (state.silenced caller).await key stage other := by
  unfold await
  rw [open?_silenced]
  split
  · rw [silenced_setCaller]
    rfl
  · rw [silenced_setCaller, silenced_launch]
    rfl

theorem silenced_finishCaller (other : Nat) (ending : Ending Output) :
    (state.finishCaller other ending).silenced caller =
      (state.silenced caller).finishCaller other ending := by
  have ends := silenced_setCaller caller state other (.finished ending)
  -- The caller itself ends without a call being due; all others announce their ending as before.
  have announces : (if (state.caller? other).any (·.notifies) then
        (state.setCaller other (.finished ending)).schedule [.notify other]
      else state.setCaller other (.finished ending)).silenced caller =
      if ((state.silenced caller).caller? other).any (·.notifies) then
        ((state.silenced caller).setCaller other (.finished ending)).schedule [.notify other]
      else (state.silenced caller).setCaller other (.finished ending) := by
    rw [caller?_silenced]
    by_cases same : caller = other
    · subst same
      have mute : ((state.caller? caller).map fun found =>
          if caller = caller then { found with notifies := false } else found).any
            (·.notifies) = false := by
        cases state.caller? caller <;> simp
      rw [mute]
      split
      · rw [silenced_schedule_self, ends]
        rfl
      · exact ends
    · simp only [if_neg same, Option.map_id']
      split
      · rw [silenced_schedule _ _ (by simpa using same), ends]
      · exact ends
  unfold finishCaller
  cases ending with
  | cancelled => exact ends
  | ok output => exact announces
  | failed error => exact announces

theorem silenced_finishFetch (fetch : Nat) (ending : Ending Record) :
    (state.finishFetch fetch ending).silenced caller =
      (state.silenced caller).finishFetch fetch ending := by
  unfold finishFetch
  dsimp only
  rw [silenced_schedule _ _ (by simp), fetch?_silenced]
  rfl

theorem silenced_call {stage : Stage} {notifies : Bool} (apart : caller ≠ state.callers.length) :
    (state.call stage notifies).silenced caller =
      (state.silenced caller).call stage notifies := by
  unfold call
  rw [silenced_schedule _ _ (by simp)]
  simp only [silenced, List.length_modify, modify_append_of_ne apart]

/-- A call that is made with its callback, and the same call without. -/
theorem silenced_call_self {stage : Stage} (new : caller = state.callers.length) :
    (state.call stage true).silenced caller = (state.silenced caller).call stage false := by
  subst new
  unfold call
  rw [silenced_schedule _ _ (by simp)]
  have apart : state.callers.modify state.callers.length
      (fun found => { found with notifies := false }) = state.callers :=
    List.modify_eq_self (Nat.le_refl _)
  have added : (state.callers ++ [(⟨.ready stage, true⟩ : Caller Stage Record Output)]).modify
      state.callers.length (fun found => { found with notifies := false }) =
        state.callers ++ [⟨.ready stage, false⟩] := by
    rw [List.modify_eq_take_cons_drop (by simp)]
    simp
  simp only [silenced, apart, added]

theorem silenced_deliver (fetch other : Nat) :
    (state.deliver fetch other).silenced caller =
      (state.silenced caller).deliver fetch other := by
  unfold deliver
  rw [callerPhase?_silenced, fetchPhase?_silenced]
  split
  · split
    · rw [silenced_schedule _ _ (by simp), silenced_setCaller]
    · rfl
  · rfl

theorem silenced_cancel (other : Nat) :
    (state.cancel other).silenced caller = (state.silenced caller).cancel other := by
  unfold cancel
  rw [callerPhase?_silenced]
  split
  · exact silenced_setCaller ..
  · rw [silenced_schedule _ _ (by simp), silenced_setCaller]
  · exact silenced_setCaller ..
  · rfl

theorem silenced_answer (fetch : Nat) (reply : Reply) :
    (state.answer fetch reply).silenced caller =
      (state.silenced caller).answer fetch reply := by
  unfold answer
  rw [fetchPhase?_silenced]
  split
  · rw [silenced_schedule _ _ (by simp)]
    rfl
  · rfl

theorem silenced_cancelFetch (fetch : Nat) :
    (state.cancelFetch fetch).silenced caller =
      (state.silenced caller).cancelFetch fetch := by
  unfold cancelFetch
  rw [fetchPhase?_silenced]
  split
  · rfl
  · rfl
  · rw [silenced_schedule _ _ (by simp)]
    rfl
  · rfl

/-! ## Turns and steps -/

section Service

variable [BEq Key] (service : Service World Key Stage Reply Record Output)

theorem silenced_move (other : Nat) (next : World × Move Key Stage Output) :
    (state.move other next).silenced caller = (state.silenced caller).move other next := by
  obtain ⟨world, move⟩ := next
  cases move with
  | finish result => exact silenced_finishCaller caller { state with world := world } other _
  | await key stage => exact silenced_await caller { state with world := world } key stage other

theorem silenced_runCaller (other : Nat) :
    (state.runCaller service other).silenced caller =
      (state.silenced caller).runCaller service other := by
  unfold runCaller
  rw [callerPhase?_silenced]
  split
  · exact silenced_move ..
  · exact silenced_move ..
  · exact silenced_move ..
  · exact silenced_finishCaller caller { state with world := _ } other _
  · exact silenced_finishCaller caller { state with world := _ } other _
  · exact silenced_finishCaller ..
  · rfl

omit [BEq Key] in
theorem silenced_runFetch (given : Option Reply) (fetch : Nat) :
    (state.runFetch service given fetch).silenced caller =
      (state.silenced caller).runFetch service given fetch := by
  unfold runFetch
  rw [fetch?_silenced]
  split
  · split
    · exact silenced_finishFetch caller { state with world := _ } fetch _
    · rfl
  · exact silenced_finishFetch caller { state with world := _ } fetch _
  · exact silenced_finishFetch ..
  · rfl

theorem silenced_take (given : Option Reply) {due : Turn} (apart : due ≠ .notify caller) :
    (state.take service given due).silenced caller =
      (state.silenced caller).take service given due := by
  cases due with
  | fetch fetch => exact silenced_runFetch ..
  | forget fetch => rfl
  | deliver fetch other => exact silenced_deliver ..
  | caller other => exact silenced_runCaller ..
  | notify other =>
      have differs : other ≠ caller := fun same => apart (congrArg Turn.notify same)
      simp [take, silenced, differs]

theorem silenced_turn (given : Option Reply)
    (apart : state.agenda.head? ≠ some (.notify caller)) :
    (state.turn service given).silenced caller = (state.silenced caller).turn service given := by
  cases agenda : state.agenda with
  | nil =>
      have nothing : (state.silenced caller).agenda = [] := by simp [silenced, agenda]
      simp only [turn, agenda, nothing]
  | cons due rest =>
      have other : due ≠ .notify caller := by
        rintro rfl
        exact apart (by rw [agenda]; rfl)
      have first : (state.silenced caller).agenda =
          due :: rest.filter (· ≠ .notify caller) := by
        simp [silenced, agenda, other]
      simp only [turn, agenda, first]
      exact silenced_take caller { state with agenda := rest } service given other

/-- A step that does not call the callback is the same without it. -/
theorem silenced_step {action : Action Stage Reply}
    (uncalled : ∀ given, action = .turn given → state.agenda.head? ≠ some (.notify caller))
    (apart : ∀ stage notifies, action = .call stage notifies →
      caller ≠ state.callers.length) :
    (state.step service action).silenced caller =
      (state.silenced caller).step service action := by
  cases action with
  | call stage notifies => exact silenced_call caller state (apart stage notifies rfl)
  | turn given => exact silenced_turn caller state service given (uncalled given rfl)
  | answer fetch reply => exact silenced_answer caller state fetch reply
  | cancel other => exact silenced_cancel caller state other
  | cancelFetch fetch => exact silenced_cancelFetch caller state fetch

end Service

/-- The turn in which the callback is called leaves no trace without it. -/
theorem silenced_notified {rest : List Turn} (agenda : state.agenda = .notify caller :: rest) :
    State.silenced caller { state with agenda := rest, notified := state.notified ++ [caller] } =
      state.silenced caller := by
  simp [silenced, agenda]

/-- Without a callback that is due or was called, a caller that is not there is silent. -/
theorem silenced_of_absent (new : state.callers.length ≤ caller)
    (undue : .notify caller ∉ state.agenda) (uncalled : caller ∉ state.notified) :
    state.silenced caller = state := by
  have callers : state.callers.modify caller (fun found => { found with notifies := false }) =
      state.callers := List.modify_eq_self new
  have agenda : state.agenda.filter (· ≠ .notify caller) = state.agenda := by
    rw [List.filter_eq_self]
    intro due member
    simpa using fun same : due = .notify caller => undue (same ▸ member)
  have notified : state.notified.filter (· ≠ caller) = state.notified := by
    rw [List.filter_eq_self]
    intro other member
    simpa using fun same : other = caller => uncalled (same ▸ member)
  simp only [silenced, callers, agenda, notified]

end FeatureFlags.Flight.State
