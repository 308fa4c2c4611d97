import FeatureFlags.Proofs.Flight.Punctual
import FeatureFlags.Proofs.Flight.Sharing

/-!
# A state with one caller set aside

`State.without` is what is left of a state for everyone but one caller: of that caller neither the
phase nor its turns, and of the world what can be seen of it.  What goes on without the caller goes
on in the same way whatever the caller is at (`Discreet.step`), and a caller that ends as cancelled
changes nothing of it (`Discreet.departs`).
-/

set_option autoImplicit false

namespace FeatureFlags.Flight

variable {World Key Stage Reply Record Output : Type}

/-- What a service does does not hang on what the view hides of the world, and leaving changes
nothing else. -/
structure Discreet (service : Service World Key Stage Reply Record Output)
    (view : World → World) : Prop where
  again : ∀ world, view (view world) = view world
  enter : ∀ stage world,
    (service.enter stage (view world)).map view id = (service.enter stage world).map view id
  resume : ∀ stage result world, (service.resume stage result (view world)).map view id =
    (service.resume stage result world).map view id
  leave : ∀ stage world, view (service.leave stage world) = view world
  accept : ∀ key reply world,
    (service.accept key reply (view world)).map view id =
      (service.accept key reply world).map view id

namespace State

def without (view : World → World) (caller : Nat)
    (state : State World Key Stage Reply Record Output) :
    State World Key Stage Reply Record Output :=
  { (state.setCaller caller (.finished .cancelled)) with
    world := view state.world
    agenda := state.agenda.filter (· ≠ .caller caller) }

/-- The step is the caller's own: its turn, or its cancellation. -/
def Concerns (caller : Nat) (state : State World Key Stage Reply Record Output) :
    Action Stage Reply → Prop
  | .cancel other => other = caller
  | .turn _ => state.agenda.head? = some (.caller caller)
  | _ => False

instance (caller : Nat) (state : State World Key Stage Reply Record Output)
    (action : Action Stage Reply) : Decidable (state.Concerns caller action) :=
  match action with
  | .cancel other => inferInstanceAs (Decidable (other = caller))
  | .turn _ => inferInstanceAs (Decidable (state.agenda.head? = some (.caller caller)))
  | .call .. => inferInstanceAs (Decidable False)
  | .answer .. => inferInstanceAs (Decidable False)
  | .cancelFetch _ => inferInstanceAs (Decidable False)

section Without

variable (view : World → World) (caller : Nat)
    (state : State World Key Stage Reply Record Output)

@[simp]
theorem world_without : (state.without view caller).world = view state.world := rfl

@[simp]
theorem fetches_without : (state.without view caller).fetches = state.fetches := rfl

@[simp]
theorem fetch?_without (fetch : Nat) :
    (state.without view caller).fetch? fetch = state.fetch? fetch := rfl

@[simp]
theorem fetchPhase?_without (fetch : Nat) :
    (state.without view caller).fetchPhase? fetch = state.fetchPhase? fetch := rfl

@[simp]
theorem open?_without [BEq Key] (key : Key) :
    (state.without view caller).open? key = state.open? key := rfl

theorem caller?_without_of_ne {other : Nat} (differs : other ≠ caller) :
    (state.without view caller).caller? other = state.caller? other := by
  simp [without, setCaller, caller?, Ne.symm differs]

theorem callerPhase?_without_of_ne {other : Nat} (differs : other ≠ caller) :
    (state.without view caller).callerPhase? other = state.callerPhase? other :=
  callerPhase?_setCaller_of_ne state differs _

/-! ## One change at a time -/

theorem without_setFetch (fetch : Nat) (phase : FetchPhase Reply Record) :
    (state.setFetch fetch phase).without view caller =
      (state.without view caller).setFetch fetch phase := rfl

theorem without_join (fetch other : Nat) :
    (state.join fetch other).without view caller =
      (state.without view caller).join fetch other := rfl

theorem without_forget [BEq Key] (fetch : Nat) :
    (state.forget fetch).without view caller =
      (state.without view caller).forget fetch := rfl

theorem without_schedule {turns : List Turn} (others : .caller caller ∉ turns) :
    (state.schedule turns).without view caller =
      (state.without view caller).schedule turns := by
  have kept : turns.filter (· ≠ .caller caller) = turns := by
    rw [List.filter_eq_self]
    intro due member
    simpa using fun same : due = .caller caller => others (same ▸ member)
  simp only [schedule, without, List.filter_append, kept]
  rfl

theorem without_schedule_self :
    (state.schedule [.caller caller]).without view caller = state.without view caller := by
  simp [schedule, without, setCaller]

theorem without_setCaller_self (phase : CallerPhase Stage Record Output) :
    (state.setCaller caller phase).without view caller = state.without view caller := by
  simp only [without, setCaller, List.modify_modify_eq]
  rfl

theorem without_setCaller_of_ne {other : Nat} (differs : other ≠ caller)
    (phase : CallerPhase Stage Record Output) :
    (state.setCaller other phase).without view caller =
      (state.without view caller).setCaller other phase := by
  simp only [without, setCaller, List.modify_modify_ne _ _ _ differs]

theorem without_launch [BEq Key] (key : Key) (other : Nat) :
    (state.launch key other).without view caller =
      (state.without view caller).launch key other := by
  rw [launch, without_schedule _ _ _ (by simp)]
  rfl

theorem without_await [BEq Key] (key : Key) (stage : Stage) {other : Nat}
    (differs : other ≠ caller) :
    (state.await key stage other).without view caller =
      (state.without view caller).await key stage other := by
  unfold await
  rw [open?_without]
  split
  · rw [without_setCaller_of_ne _ _ _ differs, without_join]
  · rw [without_setCaller_of_ne _ _ _ differs, without_launch]
    rfl

theorem without_finishCaller {other : Nat} (differs : other ≠ caller) (ending : Ending Output) :
    (state.finishCaller other ending).without view caller =
      (state.without view caller).finishCaller other ending := by
  unfold finishCaller
  dsimp only
  rw [caller?_without_of_ne _ _ _ differs]
  split
  · exact without_setCaller_of_ne _ _ _ differs _
  · split
    · rw [without_schedule _ _ _ (by simp), without_setCaller_of_ne _ _ _ differs]
    · exact without_setCaller_of_ne _ _ _ differs _
  · split
    · rw [without_schedule _ _ _ (by simp), without_setCaller_of_ne _ _ _ differs]
    · exact without_setCaller_of_ne _ _ _ differs _

theorem without_finishFetch (fetch : Nat) (ending : Ending Record) :
    (state.finishFetch fetch ending).without view caller =
      (state.without view caller).finishFetch fetch ending := by
  unfold finishFetch
  dsimp only
  rw [without_schedule _ _ _ (by simp), without_setFetch, fetch?_without]

theorem without_call {phase : CallerPhase Stage Record Output}
    (present : state.callerPhase? caller = some phase) (stage : Stage) (notifies : Bool) :
    (state.call stage notifies).without view caller =
      (state.without view caller).call stage notifies := by
  have known : caller < state.callers.length := by
    obtain ⟨found, there, -⟩ := Option.map_eq_some_iff.mp present
    exact (List.getElem?_eq_some_iff.mp there).1
  have apart : caller ≠ state.callers.length := Nat.ne_of_lt known
  unfold call
  rw [without_schedule _ _ _ (by simpa using apart)]
  simp only [without, setCaller, List.length_modify, modify_append_of_ne apart]

theorem without_deliver_self (fetch : Nat) :
    (state.deliver fetch caller).without view caller = state.without view caller := by
  unfold deliver
  split
  · split
    · rw [without_schedule_self, without_setCaller_self]
    · rfl
  · rfl

theorem without_deliver_of_ne (fetch : Nat) {other : Nat} (differs : other ≠ caller) :
    (state.deliver fetch other).without view caller =
      (state.without view caller).deliver fetch other := by
  unfold deliver
  rw [callerPhase?_without_of_ne _ _ _ differs, fetchPhase?_without]
  split
  · split
    · rw [without_schedule _ _ _ (by simpa using differs.symm),
        without_setCaller_of_ne _ _ _ differs]
    · rfl
  · rfl

/-- Cancelling a caller is not seen without it. -/
theorem without_cancel_self :
    (state.cancel caller).without view caller = state.without view caller := by
  unfold cancel
  split
  · rw [without_setCaller_self]
  · rw [without_schedule_self, without_setCaller_self]
  · rw [without_setCaller_self]
  · rfl

theorem without_cancel_of_ne {other : Nat} (differs : other ≠ caller) :
    (state.cancel other).without view caller = (state.without view caller).cancel other := by
  unfold cancel
  rw [callerPhase?_without_of_ne _ _ _ differs]
  split
  · rw [without_setCaller_of_ne _ _ _ differs]
  · rw [without_schedule _ _ _ (by simpa using differs.symm),
      without_setCaller_of_ne _ _ _ differs]
  · rw [without_setCaller_of_ne _ _ _ differs]
  · rfl

theorem without_answer (fetch : Nat) (reply : Reply) :
    (state.answer fetch reply).without view caller =
      (state.without view caller).answer fetch reply := by
  unfold answer
  rw [fetchPhase?_without]
  split
  · rw [without_schedule _ _ _ (by simp), without_setFetch]
  · rfl

theorem without_cancelFetch (fetch : Nat) :
    (state.cancelFetch fetch).without view caller =
      (state.without view caller).cancelFetch fetch := by
  unfold cancelFetch
  rw [fetchPhase?_without]
  split
  · rw [without_setFetch]
  · rw [without_setFetch]
  · rw [without_schedule _ _ _ (by simp), without_setFetch]
  · rfl

theorem without_world (world : World) :
    State.without view caller { state with world := world } =
      { state.without view caller with world := view world } := rfl

theorem without_without (again : ∀ world, view (view world) = view world) :
    (state.without view caller).without view caller = state.without view caller := by
  simp only [without, setCaller, List.modify_modify_eq, again, List.filter_filter, Bool.and_self]
  rfl

end Without

end State

open State

namespace Discreet

variable [BEq Key] {service : Service World Key Stage Reply Record Output} {view : World → World}
    (discreet : Discreet service view) (caller : Nat)
    (state : State World Key Stage Reply Record Output)

include discreet

omit [BEq Key] in
theorem worldAgain (world : World) :
    State.without view caller { state.without view caller with world := world } =
      { state.without view caller with world := view world } := by
  rw [without_world, without_without _ _ _ discreet.again]

omit [BEq Key] in
/-- A change that is made alike with and without the caller. -/
theorem of_commutes {change : State World Key Stage Reply Record Output →
      State World Key Stage Reply Record Output}
    (commutes : ∀ state, (change state).without view caller = change (state.without view caller)) :
    (change state).without view caller =
      (change (state.without view caller)).without view caller := by
  rw [commutes, commutes, without_without _ _ _ discreet.again]

theorem move {other : Nat} (differs : other ≠ caller) {next seen : World × Move Key Stage Output}
    (same : seen.map view id = next.map view id) :
    (state.move other next).without view caller =
      ((state.without view caller).move other seen).without view caller := by
  obtain ⟨world, move⟩ := next
  obtain ⟨seenWorld, seenMove⟩ := seen
  obtain ⟨worlds, rfl⟩ : view seenWorld = view world ∧ seenMove = move := by simpa using same
  cases seenMove with
  | finish result =>
      simp only [State.move]
      rw [without_finishCaller _ _ _ differs, without_finishCaller _ _ _ differs, without_world,
        discreet.worldAgain, worlds]
  | await key stage =>
      simp only [State.move]
      rw [without_await _ _ _ _ _ differs, without_await _ _ _ _ _ differs, without_world,
        discreet.worldAgain, worlds]

omit [BEq Key] in
theorem departure {other : Nat} (differs : other ≠ caller) (stage : Stage) :
    (State.finishCaller other .cancelled
        { state with world := service.leave stage state.world }).without view caller =
      (State.finishCaller other .cancelled
        { state.without view caller with
          world := service.leave stage (view state.world) }).without view caller := by
  rw [without_finishCaller _ _ _ differs, without_finishCaller _ _ _ differs, without_world,
    discreet.worldAgain, discreet.leave, discreet.leave, discreet.again]

theorem runCaller {other : Nat} (differs : other ≠ caller) :
    (state.runCaller service other).without view caller =
      ((state.without view caller).runCaller service other).without view caller := by
  unfold State.runCaller
  rw [callerPhase?_without_of_ne _ _ _ differs]
  split
  · exact discreet.move caller state differs (discreet.enter _ _)
  · exact discreet.move caller state differs (discreet.resume _ _ _)
  · exact discreet.move caller state differs (discreet.resume _ _ _)
  · exact discreet.departure caller state differs _
  · exact discreet.departure caller state differs _
  · exact discreet.of_commutes caller state fun state =>
      without_finishCaller view caller state differs .cancelled
  · rw [without_without _ _ _ discreet.again]

omit [BEq Key] in
theorem complete (fetch : Nat) (key : Key) (reply : Reply) :
    (state.complete service fetch key reply).without view caller =
      ((state.without view caller).complete service fetch key reply).without view caller := by
  have same := discreet.accept key reply state.world
  obtain ⟨worlds, made⟩ := Prod.ext_iff.mp same
  have worlds' : view (service.accept key reply (view state.world)).1 =
      view (service.accept key reply state.world).1 := worlds
  have made' : (service.accept key reply (view state.world)).2 =
      (service.accept key reply state.world).2 := made
  have world : (state.without view caller).world = view state.world := rfl
  unfold State.complete
  dsimp only
  rw [without_finishFetch, without_finishFetch, without_world, discreet.worldAgain, world, worlds',
    made']

omit [BEq Key] in
theorem runFetch (given : Option Reply) (fetch : Nat) :
    (state.runFetch service given fetch).without view caller =
      ((state.without view caller).runFetch service given fetch).without view caller := by
  unfold State.runFetch
  rw [fetch?_without]
  split
  · split
    · exact discreet.complete caller state _ _ _
    · exact discreet.of_commutes caller state fun state =>
        without_setFetch view caller state fetch .waiting
  · exact discreet.complete caller state _ _ _
  · exact discreet.of_commutes caller state fun state =>
      without_finishFetch view caller state fetch .cancelled
  · rw [without_without _ _ _ discreet.again]

theorem take (given : Option Reply) {due : Turn} (apart : due ≠ .caller caller) :
    (state.take service given due).without view caller =
      ((state.without view caller).take service given due).without view caller := by
  cases due with
  | fetch fetch => exact discreet.runFetch caller state given fetch
  | forget fetch =>
      exact discreet.of_commutes caller state fun state => without_forget view caller state fetch
  | deliver fetch other =>
      simp only [State.take]
      by_cases self : other = caller
      · subst self
        rw [without_deliver_self, without_deliver_self, without_without _ _ _ discreet.again]
      · exact discreet.of_commutes caller state fun state =>
          without_deliver_of_ne view caller state fetch self
  | caller other =>
      have differs : other ≠ caller := fun same => apart (congrArg Turn.caller same)
      exact discreet.runCaller caller state differs
  | notify other =>
      have world : view (view state.world) = view state.world := discreet.again state.world
      simp only [State.take, without, setCaller, List.modify_modify_eq, List.filter_filter,
        Bool.and_self, world]
      rfl

theorem turn (given : Option Reply) (apart : state.agenda.head? ≠ some (.caller caller)) :
    (state.turn service given).without view caller =
      ((state.without view caller).turn service given).without view caller := by
  cases agenda : state.agenda with
  | nil =>
      have nothing : (state.without view caller).agenda = [] := by simp [without, agenda]
      simp only [State.turn, agenda, nothing]
      rw [without_without _ _ _ discreet.again]
  | cons due rest =>
      have other : due ≠ .caller caller := by
        rintro rfl
        exact apart (by rw [agenda]; rfl)
      have first : (state.without view caller).agenda =
          due :: rest.filter (· ≠ .caller caller) := by
        simp [without, agenda, other]
      simp only [State.turn, agenda, first]
      exact discreet.take caller { state with agenda := rest } given other

/-- A step that is not the caller's own is the same for everyone else, whatever the caller is at. -/
theorem step {phase : CallerPhase Stage Record Output}
    (present : state.callerPhase? caller = some phase) {action : Action Stage Reply}
    (apart : ¬state.Concerns caller action) :
    (state.step service action).without view caller =
      ((state.without view caller).step service action).without view caller := by
  cases action with
  | call stage notifies =>
      have blank : (state.without view caller).callerPhase? caller = some (.finished .cancelled) :=
        callerPhase?_setCaller_self state present _
      simp only [State.step]
      rw [without_call _ _ _ present, without_call _ _ _ blank,
        without_without _ _ _ discreet.again]
  | turn given => exact discreet.turn caller state given apart
  | answer fetch reply =>
      exact discreet.of_commutes caller state fun state =>
        without_answer view caller state fetch reply
  | cancel other =>
      exact discreet.of_commutes caller state fun state =>
        without_cancel_of_ne view caller state apart
  | cancelFetch fetch =>
      exact discreet.of_commutes caller state fun state =>
        without_cancelFetch view caller state fetch

/-- States that differ only in the caller go on differing only in it. -/
theorem step_alike {state other : State World Key Stage Reply Record Output}
    {phase otherPhase : CallerPhase Stage Record Output}
    (alike : state.without view caller = other.without view caller)
    (present : state.callerPhase? caller = some phase)
    (otherPresent : other.callerPhase? caller = some otherPhase) {action : Action Stage Reply}
    (apart : ¬state.Concerns caller action) (otherApart : ¬other.Concerns caller action) :
    (state.step service action).without view caller =
      (other.step service action).without view caller := by
  rw [discreet.step caller state present apart, alike,
    ← discreet.step caller other otherPresent otherApart]

/-- Nobody else notices the turn in which a cancelled caller ends. -/
theorem departs {state : State World Key Stage Reply Record Output}
    (going : (∃ reached, state.callerPhase? caller = some (.leaving reached)) ∨
      state.callerPhase? caller = some (.finished .cancelled)) {action : Action Stage Reply}
    (own : state.Concerns caller action) :
    (state.step service action).without view caller = state.without view caller := by
  cases action with
  | cancel other =>
      cases own
      exact without_cancel_self view caller state
  | turn given =>
      obtain ⟨rest, agenda⟩ := List.head?_eq_some_iff.mp own
      have popped : ∀ world, view world = view state.world →
          State.without view caller { state with agenda := rest, world := world } =
            state.without view caller := by
        intro world same
        simp [without, agenda, setCaller, same]
      simp only [State.step, State.turn, agenda, State.take]
      rcases going with ⟨reached, leaving⟩ | finished
      · have still : State.callerPhase? { state with agenda := rest } caller =
            some (.leaving reached) := leaving
        unfold State.runCaller
        rw [still]
        cases reached with
        | none =>
            simp only [State.finishCaller]
            rw [without_setCaller_self]
            exact popped state.world rfl
        | some stage =>
            simp only [State.finishCaller]
            rw [without_setCaller_self]
            exact popped _ (discreet.leave stage state.world)
      · have still : State.callerPhase? { state with agenda := rest } caller =
            some (.finished .cancelled) := finished
        unfold State.runCaller
        rw [still]
        exact popped state.world rfl
  | call stage notifies => cases own
  | answer fetch reply => cases own
  | cancelFetch fetch => cases own

end Discreet

section OnHold

variable [DecidableEq Key] {service : Service World Key Stage Reply Record Output}
    {state : State World Key Stage Reply Record Output} {caller fetch : Nat} {stage : Stage}

theorem Orderly.onHold_apart (orderly : Orderly state) (onHold : OnHold state caller stage fetch)
    {action : Action Stage Reply} (apart : ¬state.Concerns caller action) :
    OnHold (state.step service action) caller stage fetch := by
  have keeps : action ≠ .cancel caller := by
    rintro rfl
    exact apart rfl
  rcases orderly.onHold_step service onHold action keeps with
    stays | ⟨given, ending, rfl, handed, -⟩
  · exact stays
  · obtain ⟨rest, agenda, -⟩ := handed
    exact absurd (congrArg List.head? agenda) apart

/-- A caller that takes its turn is no longer on hold. -/
theorem Orderly.released (orderly : Orderly state) {rest : List Turn} {ending : Ending Record}
    (agenda : state.agenda = .caller caller :: rest)
    (woken : state.callerPhase? caller = some (.woken stage fetch ending)) (given : Option Reply) :
    ¬OnHold (state.step service (.turn given)) caller stage fetch := by
  intro onHold
  have next : Next (.still fun _ => True) service state (state.step service (.turn given)) :=
    step_next service state (.turn given) fun _ _ => True.intro
  have finished := next.fetchPhase?_finished
    (orderly.attended.told caller stage fetch ending woken)
  have goesOn : ∀ result : Except Error Record, ending = .ofExcept result → False := by
    rintro result rfl
    have moves : CallerPhase.proceed? service state.world
        (.woken stage fetch (.ofExcept result) : CallerPhase Stage Record Output) =
          some (service.resume stage result state.world) := by
      cases result <;> rfl
    have proceeds := orderly.registered.proceeds service given agenda woken moves
    exact proceeds.reached.not_onHold finished onHold
  cases ending with
  | ok record => exact goesOn (.ok record) rfl
  | failed error => exact goesOn (.error error) rfl
  | cancelled =>
      obtain ⟨rest', agenda', handed⟩ := step_of_woken service agenda woken
      rw [handed given] at onHold
      have present : State.callerPhase? { state with
          agenda := rest', world := service.leave stage state.world } caller =
            some (.woken stage fetch .cancelled) := woken
      cases onHold.held? (finishCaller_reached present .cancelled).2

end OnHold

end FeatureFlags.Flight
