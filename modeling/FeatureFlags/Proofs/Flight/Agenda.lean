import FeatureFlags.Flight.Step

/-!
# The order of turns

A turn takes what has been due for longest, and whatever else happens only adds turns behind those
that are due already (`step_adds`, `turn_adds`).
-/

set_option autoImplicit false

namespace FeatureFlags.Flight

variable {World Key Stage Reply Record Output : Type}

/-- All that was due is still due, in the same order, before anything new. -/
def AddsTurns (state after : State World Key Stage Reply Record Output) : Prop :=
  ∃ added, after.agenda = state.agenda ++ added

section AddsTurns

variable {state after : State World Key Stage Reply Record Output}

theorem AddsTurns.of_eq (same : after.agenda = state.agenda) : AddsTurns state after :=
  ⟨[], same.trans (List.append_nil _).symm⟩

theorem AddsTurns.schedule (adds : AddsTurns state after) (turns : List Turn) :
    AddsTurns state (after.schedule turns) := by
  obtain ⟨added, agenda⟩ := adds
  exact ⟨added ++ turns, by rw [State.schedule, agenda, List.append_assoc]⟩

theorem finishFetch_adds (fetch : Nat) (ending : Ending Record) :
    AddsTurns state (state.finishFetch fetch ending) :=
  AddsTurns.schedule (.of_eq rfl) _

theorem runFetch_adds (service : Service World Key Stage Reply Record Output)
    (reply : Option Reply) (fetch : Nat) : AddsTurns state (state.runFetch service reply fetch) := by
  unfold State.runFetch
  split
  · split
    · exact finishFetch_adds fetch _
    · exact .of_eq rfl
  · exact finishFetch_adds fetch _
  · exact finishFetch_adds fetch _
  · exact .of_eq rfl

theorem deliver_adds (fetch caller : Nat) : AddsTurns state (state.deliver fetch caller) := by
  unfold State.deliver
  split
  · split
    · exact AddsTurns.schedule (.of_eq rfl) _
    · exact .of_eq rfl
  · exact .of_eq rfl

theorem finishCaller_adds (caller : Nat) (ending : Ending Output) :
    AddsTurns state (state.finishCaller caller ending) := by
  have ended : AddsTurns state (state.setCaller caller (.finished ending)) := .of_eq rfl
  unfold State.finishCaller
  dsimp only
  split
  · exact ended
  · split
    · exact ended.schedule _
    · exact ended
  · split
    · exact ended.schedule _
    · exact ended

section Service

variable [BEq Key] (service : Service World Key Stage Reply Record Output)

theorem await_adds (key : Key) (stage : Stage) (caller : Nat) :
    AddsTurns state (state.await key stage caller) := by
  unfold State.await
  split
  · exact .of_eq rfl
  · exact AddsTurns.schedule (.of_eq rfl) _

theorem move_adds (caller : Nat) (next : World × Move Key Stage Output) :
    AddsTurns state (state.move caller next) := by
  rcases next with ⟨world, result | ⟨key, stage⟩⟩
  · exact finishCaller_adds caller _
  · exact await_adds key stage caller

theorem runCaller_adds (caller : Nat) : AddsTurns state (state.runCaller service caller) := by
  unfold State.runCaller
  split
  · exact move_adds caller _
  · exact move_adds caller _
  · exact move_adds caller _
  · exact finishCaller_adds caller _
  · exact finishCaller_adds caller _
  · exact finishCaller_adds caller _
  · exact .of_eq rfl

theorem take_adds (reply : Option Reply) (due : Turn) :
    AddsTurns state (state.take service reply due) := by
  cases due with
  | fetch fetch => exact runFetch_adds service reply fetch
  | forget fetch => exact .of_eq rfl
  | deliver fetch caller => exact deliver_adds fetch caller
  | caller caller => exact runCaller_adds service caller
  | notify caller => exact .of_eq rfl

/-- A turn takes the first of what is due, and what it makes due comes last. -/
theorem turn_adds {due : Turn} {rest : List Turn} (agenda : state.agenda = due :: rest)
    (given : Option Reply) :
    ∃ added, (state.step service (.turn given)).agenda = rest ++ added := by
  simp only [State.step, State.turn, agenda]
  exact take_adds service given due

theorem step_adds {action : Action Stage Reply} (noTurn : ∀ given, action ≠ .turn given) :
    AddsTurns state (state.step service action) := by
  cases action with
  | turn given => exact absurd rfl (noTurn given)
  | call stage notifies => exact AddsTurns.schedule (.of_eq rfl) _
  | answer fetch reply =>
      simp only [State.step, State.answer]
      split
      · exact AddsTurns.schedule (.of_eq rfl) _
      · exact .of_eq rfl
  | cancel caller =>
      simp only [State.step, State.cancel]
      split
      · exact .of_eq rfl
      · exact AddsTurns.schedule (.of_eq rfl) _
      · exact .of_eq rfl
      · exact .of_eq rfl
  | cancelFetch fetch =>
      simp only [State.step, State.cancelFetch]
      split
      · exact .of_eq rfl
      · exact .of_eq rfl
      · exact AddsTurns.schedule (.of_eq rfl) _
      · exact .of_eq rfl

end Service

end AddsTurns

end FeatureFlags.Flight
