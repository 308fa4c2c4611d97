import FeatureFlags.Flight.Step

/-!
# What can happen to shared fetches

`Next` lists, one rule each, everything that can happen in a single step, with the state that it
leaves; `step_next` says that a step is always one of these.  Nothing after this module opens the
step function again.  A change of the world between two steps counts as something that can happen,
so that the rules also cover services whose world moves by itself.
-/

set_option autoImplicit false

namespace FeatureFlags.Flight

variable {World Key Stage Reply Record Output : Type}

/-- What a caller does in its turn, unless it ends as cancelled. -/
def CallerPhase.proceed? (service : Service World Key Stage Reply Record Output) (world : World) :
    CallerPhase Stage Record Output → Option (World × Move Key Stage Output)
  | .ready stage => some (service.enter stage world)
  | .woken stage _ (.ok record) => some (service.resume stage (.ok record) world)
  | .woken stage _ (.failed error) => some (service.resume stage (.error error) world)
  | _ => none

def CallerPhase.leave? (service : Service World Key Stage Reply Record Output) (world : World) :
    CallerPhase Stage Record Output → Option World
  | .woken stage _ .cancelled | .leaving (some stage) => some (service.leave stage world)
  | .leaving none => some world
  | _ => none

/-- The reply with which a fetch ends in its turn; one that is only starting may be given one. -/
def FetchPhase.reply? (given : Option Reply) : FetchPhase Reply Record → Option Reply
  | .scheduled => given
  | .answered reply => some reply
  | _ => none

namespace State

/-- The turns without which a fetch, a caller or a waiting caller would never go on. -/
def Owes (state : State World Key Stage Reply Record Output) : Turn → Prop
  | .fetch fetch =>
      state.fetchPhase? fetch = some .scheduled ∨ state.fetchPhase? fetch = some .cancelling ∨
        ∃ reply, state.fetchPhase? fetch = some (.answered reply)
  | .deliver fetch caller =>
      ∃ stage ending, state.callerPhase? caller = some (.waiting stage fetch) ∧
        state.fetchPhase? fetch = some (.finished ending)
  | .caller caller =>
      (∃ stage, state.callerPhase? caller = some (.ready stage)) ∨
        (∃ stage fetch ending, state.callerPhase? caller = some (.woken stage fetch ending)) ∨
        ∃ stage, state.callerPhase? caller = some (.leaving stage)
  | .forget _ | .notify _ => False

/-- The turn in which the ending of a caller is announced, if that is wanted. -/
def notices (caller : Nat) (state : State World Key Stage Reply Record Output) : List Turn :=
  if (state.caller? caller).any (·.notifies) then [.notify caller] else []

end State

open State

/-- What comes from outside: which callers may be cancelled, and how the world may move by
itself. -/
structure Outside (World : Type) where
  mayCancel : Nat → Prop
  drift : World → World → Prop

/-- A world that is moved by callers and fetches alone. -/
def Outside.still (mayCancel : Nat → Prop) : Outside World :=
  ⟨mayCancel, fun _ _ => False⟩

inductive Next [BEq Key] (outside : Outside World)
    (service : Service World Key Stage Reply Record Output)
    (state : State World Key Stage Reply Record Output) :
    State World Key Stage Reply Record Output → Prop where
  | nothing : Next outside service state state
  | worldChanged (world : World) (drifts : outside.drift state.world world) :
      Next outside service state { state with world := world }
  | called (stage : Stage) (notifies : Bool) :
      Next outside service state (state.call stage notifies)
  | answered (fetch : Nat) (reply : Reply) (waiting : state.fetchPhase? fetch = some .waiting) :
      Next outside service state ((state.setFetch fetch (.answered reply)).schedule [.fetch fetch])
  | fetchStopped (fetch : Nat) (waiting : state.fetchPhase? fetch = some .waiting) :
      Next outside service state ((state.setFetch fetch .cancelling).schedule [.fetch fetch])
  | fetchDropped (fetch : Nat)
      (due : state.fetchPhase? fetch = some .scheduled ∨
        ∃ reply, state.fetchPhase? fetch = some (.answered reply)) :
      Next outside service state (state.setFetch fetch .cancelling)
  | callerStopped (caller : Nat) (stage : Stage) (fetch : Nat) (may : outside.mayCancel caller)
      (waiting : state.callerPhase? caller = some (.waiting stage fetch)) :
      Next outside service state
        ((state.setCaller caller (.leaving (some stage))).schedule [.caller caller])
  | callerDropped (caller : Nat) (reached : Option Stage) (may : outside.mayCancel caller)
      (due : (reached = none ∧ ∃ stage, state.callerPhase? caller = some (.ready stage)) ∨
        ∃ stage fetch ending, reached = some stage ∧
          state.callerPhase? caller = some (.woken stage fetch ending)) :
      Next outside service state (state.setCaller caller (.leaving reached))
  | passed (due : Turn) (rest : List Turn) (agenda : state.agenda = due :: rest)
      (settled : ¬ state.Owes due) (remembers : ∀ fetch, due ≠ .forget fetch)
      (announces : ∀ caller, due ≠ .notify caller) :
      Next outside service state { state with agenda := rest }
  | began (fetch : Nat) (rest : List Turn) (agenda : state.agenda = .fetch fetch :: rest)
      (scheduled : state.fetchPhase? fetch = some .scheduled) :
      Next outside service state (State.setFetch fetch .waiting { state with agenda := rest })
  | completed (fetch : Nat) (found : Fetch Key Reply Record) (given : Option Reply) (reply : Reply)
      (rest : List Turn) (agenda : state.agenda = .fetch fetch :: rest)
      (present : state.fetch? fetch = some found)
      (replied : found.phase.reply? given = some reply) :
      Next outside service state
        (State.complete service fetch found.key reply { state with agenda := rest })
  | aborted (fetch : Nat) (rest : List Turn) (agenda : state.agenda = .fetch fetch :: rest)
      (cancelling : state.fetchPhase? fetch = some .cancelling) :
      Next outside service state (State.finishFetch fetch .cancelled { state with agenda := rest })
  | forgot (fetch : Nat) (rest : List Turn) (agenda : state.agenda = .forget fetch :: rest) :
      Next outside service state (State.forget fetch { state with agenda := rest })
  | told (fetch caller : Nat) (stage : Stage) (ending : Ending Record) (rest : List Turn)
      (agenda : state.agenda = .deliver fetch caller :: rest)
      (waiting : state.callerPhase? caller = some (.waiting stage fetch))
      (finished : state.fetchPhase? fetch = some (.finished ending)) :
      Next outside service state
        ((State.setCaller caller (.woken stage fetch ending)
          { state with agenda := rest }).schedule [.caller caller])
  | concluded (caller : Nat) (phase : CallerPhase Stage Record Output) (world : World)
      (result : Except Error Output) (rest : List Turn)
      (agenda : state.agenda = .caller caller :: rest)
      (present : state.callerPhase? caller = some phase)
      (moves : phase.proceed? service state.world = some (world, .finish result)) :
      Next outside service state
        ((State.setCaller caller (.finished (.ofExcept result))
          { state with agenda := rest, world := world }).schedule (state.notices caller))
  | joined (caller : Nat) (phase : CallerPhase Stage Record Output) (world : World) (key : Key)
      (stage : Stage) (fetch : Nat) (rest : List Turn)
      (agenda : state.agenda = .caller caller :: rest)
      (present : state.callerPhase? caller = some phase)
      (moves : phase.proceed? service state.world = some (world, .await key stage))
      (shared : state.open? key = some fetch) :
      Next outside service state
        ((State.join fetch caller { state with agenda := rest, world := world }).setCaller caller
          (.waiting stage fetch))
  | launched (caller : Nat) (phase : CallerPhase Stage Record Output) (world : World) (key : Key)
      (stage : Stage) (rest : List Turn) (agenda : state.agenda = .caller caller :: rest)
      (present : state.callerPhase? caller = some phase)
      (moves : phase.proceed? service state.world = some (world, .await key stage))
      (unshared : state.open? key = none) :
      Next outside service state
        ((State.launch key caller { state with agenda := rest, world := world }).setCaller caller
          (.waiting stage state.fetches.length))
  | departed (caller : Nat) (phase : CallerPhase Stage Record Output) (world : World)
      (rest : List Turn) (agenda : state.agenda = .caller caller :: rest)
      (present : state.callerPhase? caller = some phase)
      (leaves : phase.leave? service state.world = some world) :
      Next outside service state
        (State.setCaller caller (.finished .cancelled)
          { state with agenda := rest, world := world })
  | notified (caller : Nat) (rest : List Turn) (agenda : state.agenda = .notify caller :: rest) :
      Next outside service state
        { state with agenda := rest, notified := state.notified ++ [caller] }

variable [BEq Key] {outside : Outside World}
    (service : Service World Key Stage Reply Record Output)
    (state : State World Key Stage Reply Record Output)

theorem answer_next (fetch : Nat) (reply : Reply) :
    Next outside service state (state.answer fetch reply) := by
  unfold State.answer
  split
  · exact .answered fetch reply ‹_›
  · exact .nothing

theorem cancelFetch_next (fetch : Nat) : Next outside service state (state.cancelFetch fetch) := by
  unfold State.cancelFetch
  split
  next found => exact .fetchDropped fetch (.inl found)
  next reply found => exact .fetchDropped fetch (.inr ⟨reply, found⟩)
  next found => exact .fetchStopped fetch found
  next => exact .nothing

theorem cancel_next (caller : Nat) (may : outside.mayCancel caller) :
    Next outside service state (state.cancel caller) := by
  unfold State.cancel
  split
  next stage found => exact .callerDropped caller none may (.inl ⟨rfl, stage, found⟩)
  next stage fetch found => exact .callerStopped caller stage fetch may found
  next stage fetch ending found =>
      exact .callerDropped caller (some stage) may (.inr ⟨stage, fetch, ending, rfl, found⟩)
  next => exact .nothing

section Turn

variable {rest : List Turn}

theorem runFetch_next (given : Option Reply) (fetch : Nat)
    (agenda : state.agenda = .fetch fetch :: rest) :
    Next outside service state
      (State.runFetch service given fetch { state with agenda := rest }) := by
  unfold State.runFetch
  have same : State.fetch? { state with agenda := rest } fetch = state.fetch? fetch := rfl
  rw [same]
  split
  next key waiters found =>
      cases given with
      | some reply => exact .completed fetch _ (some reply) reply rest agenda found rfl
      | none => exact .began fetch rest agenda (by simp [State.fetchPhase?, found])
  next key reply waiters found => exact .completed fetch _ none reply rest agenda found rfl
  next key waiters found => exact .aborted fetch rest agenda (by simp [State.fetchPhase?, found])
  next notScheduled notAnswered notCancelling =>
      refine .passed _ rest agenda ?_ nofun nofun
      simp only [State.Owes, State.fetchPhase?, Option.map_eq_some_iff, not_or, not_exists, not_and]
      refine ⟨?_, ?_, ?_⟩
      · rintro ⟨key, phase, waiters⟩ found rfl
        exact notScheduled key waiters found
      · rintro ⟨key, phase, waiters⟩ found rfl
        exact notCancelling key waiters found
      · rintro reply ⟨key, phase, waiters⟩ found rfl
        exact notAnswered key reply waiters found

theorem deliver_next (fetch caller : Nat) (agenda : state.agenda = .deliver fetch caller :: rest) :
    Next outside service state (State.deliver fetch caller { state with agenda := rest }) := by
  unfold State.deliver
  have sameCaller : State.callerPhase? { state with agenda := rest } caller =
      state.callerPhase? caller := rfl
  have sameFetch : State.fetchPhase? { state with agenda := rest } fetch =
      state.fetchPhase? fetch := rfl
  rw [sameCaller, sameFetch]
  split
  next stage awaited ending waiting finished =>
      split
      next same =>
          subst same
          exact .told awaited caller stage ending rest agenda waiting finished
      next differs =>
          refine .passed _ rest agenda ?_ nofun nofun
          rintro ⟨other, otherEnding, otherWaiting, -⟩
          rw [waiting] at otherWaiting
          cases otherWaiting
          exact differs rfl
  next missing =>
      refine .passed _ rest agenda ?_ nofun nofun
      rintro ⟨stage, ending, waiting, finished⟩
      exact missing stage fetch ending waiting finished

theorem move_next (caller : Nat) (agenda : state.agenda = .caller caller :: rest)
    (phase : CallerPhase Stage Record Output) (present : state.callerPhase? caller = some phase)
    (next : World × Move Key Stage Output)
    (moves : phase.proceed? service state.world = some next) :
    Next outside service state (State.move caller next { state with agenda := rest }) := by
  obtain ⟨world, move⟩ := next
  cases move with
  | finish result =>
      suffices same : State.move caller (world, .finish result) { state with agenda := rest } =
          (State.setCaller caller (.finished (.ofExcept result))
            { state with agenda := rest, world := world }).schedule (state.notices caller) by
        rw [same]
        exact .concluded caller phase world result rest agenda present moves
      have notifies : State.caller? { state with agenda := rest, world := world } caller =
          state.caller? caller := rfl
      cases result <;>
        (simp only [State.move, State.finishCaller, State.notices, Ending.ofExcept, notifies]
         split <;> simp [State.schedule])
  | await key stage =>
      have same : State.open? { state with agenda := rest, world := world } key =
          state.open? key := rfl
      simp only [State.move, State.await, same]
      split
      next fetch shared =>
          exact .joined caller phase world key stage fetch rest agenda present moves shared
      next unshared =>
          exact .launched caller phase world key stage rest agenda present moves unshared

theorem runCaller_next (caller : Nat) (agenda : state.agenda = .caller caller :: rest) :
    Next outside service state (State.runCaller service caller { state with agenda := rest }) := by
  unfold State.runCaller
  have same : State.callerPhase? { state with agenda := rest } caller =
      state.callerPhase? caller := rfl
  rw [same]
  split
  next stage found => exact move_next service state caller agenda _ found _ rfl
  next stage fetch record found => exact move_next service state caller agenda _ found _ rfl
  next stage fetch error found => exact move_next service state caller agenda _ found _ rfl
  next stage fetch found => exact .departed caller _ _ rest agenda found rfl
  next stage found => exact .departed caller _ _ rest agenda found rfl
  next found => exact .departed caller _ _ rest agenda found rfl
  next notReady notBrought notFailed notCancelled notLeaving notDropped =>
      refine .passed _ rest agenda ?_ nofun nofun
      rintro (⟨stage, found⟩ | ⟨stage, fetch, ending, found⟩ | ⟨stage, found⟩)
      · exact notReady stage found
      · cases ending with
        | ok record => exact notBrought stage fetch record found
        | failed error => exact notFailed stage fetch error found
        | cancelled => exact notCancelled stage fetch found
      · cases stage with
        | none => exact notDropped found
        | some stage => exact notLeaving stage found

theorem take_next (given : Option Reply) (due : Turn) (agenda : state.agenda = due :: rest) :
    Next outside service state (State.take service given { state with agenda := rest } due) := by
  cases due with
  | fetch fetch => exact runFetch_next service state given fetch agenda
  | forget fetch => exact .forgot fetch rest agenda
  | deliver fetch caller => exact deliver_next service state fetch caller agenda
  | caller caller => exact runCaller_next service state caller agenda
  | notify caller => exact .notified caller rest agenda

end Turn

/-- Every step is one of the things that can happen. -/
theorem step_next (action : Action Stage Reply)
    (may : ∀ caller, action = .cancel caller → outside.mayCancel caller) :
    Next outside service state (state.step service action) := by
  cases action with
  | call stage notifies => exact .called stage notifies
  | turn given =>
      unfold State.step State.turn
      dsimp only
      split
      · exact .nothing
      next due rest agenda => exact take_next service state given due agenda
  | answer fetch reply => exact answer_next service state fetch reply
  | cancel caller => exact cancel_next service state caller (may caller rfl)
  | cancelFetch fetch => exact cancelFetch_next service state fetch

end FeatureFlags.Flight
