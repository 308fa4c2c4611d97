import FeatureFlags.Proofs.Flight.History

/-!
# Callers that nobody cancels

Turns and replies cancel neither callers nor fetches.  A caller that waits for fetches which nobody
cancels, and is not cancelled itself, never ends as cancelled (`Steadfast.next`); and once nothing
is due and no reply is outstanding it has ended (`Steadfast.finished`).
-/

set_option autoImplicit false

namespace FeatureFlags.Flight

variable {World Key Stage Reply Record Output : Type}

namespace State

variable {state : State World Key Stage Reply Record Output}

/-! ## Turns and replies -/

theorem fetchPhase?_of_setFetch {fetch other : Nat} {phase found : FetchPhase Reply Record}
    (present : (state.setFetch fetch phase).fetchPhase? other = some found) :
    found = phase ∨ state.fetchPhase? other = some found := by
  rw [fetchPhase?_setFetch] at present
  obtain ⟨old, before, same⟩ := Option.map_eq_some_iff.mp present
  by_cases here : fetch = other
  · rw [if_pos here] at same
    exact .inl same.symm
  · rw [if_neg here] at same
    rw [← same]
    exact .inr before

theorem fetches_finishCaller (caller : Nat) (ending : Ending Output) :
    (state.finishCaller caller ending).fetches = state.fetches := by
  unfold finishCaller
  cases ending with
  | cancelled => rfl
  | ok result =>
      dsimp only
      split <;> rfl
  | failed error =>
      dsimp only
      split <;> rfl

theorem fetchPhase?_finishCaller (caller : Nat) (ending : Ending Output) (fetch : Nat) :
    (state.finishCaller caller ending).fetchPhase? fetch = state.fetchPhase? fetch := by
  rw [fetchPhase?, fetch?, fetches_finishCaller]
  rfl

theorem cancelling_of_move [BEq Key] {caller fetch : Nat} {next : World × Move Key Stage Output}
    (cancelling : (state.move caller next).fetchPhase? fetch = some .cancelling) :
    state.fetchPhase? fetch = some .cancelling := by
  obtain ⟨world, move⟩ := next
  cases move with
  | finish result =>
      unfold State.move at cancelling
      rw [fetchPhase?_finishCaller] at cancelling
      exact cancelling
  | await key stage =>
      unfold State.move State.await at cancelling
      dsimp only at cancelling
      split at cancelling
      next shared open' =>
          have joined := fetchPhase?_join { state with world := world } shared caller fetch
          exact joined.symm.trans cancelling
      next unshared =>
          by_cases new : fetch = state.fetches.length
          · have launched := fetch?_launch { state with world := world } key caller fetch
            rw [if_pos new] at launched
            have scheduled := fetchPhase?_of_fetch? _ launched
            cases scheduled.symm.trans cancelling
          · have launched : (State.launch key caller { state with world := world }).fetchPhase?
                fetch = state.fetchPhase? fetch := fetchPhase?_launch_of_ne _ new
            exact launched.symm.trans cancelling

theorem cancelling_of_runCaller [BEq Key]
    {service : Service World Key Stage Reply Record Output} {caller fetch : Nat}
    (cancelling : (state.runCaller service caller).fetchPhase? fetch = some .cancelling) :
    state.fetchPhase? fetch = some .cancelling := by
  unfold State.runCaller at cancelling
  split at cancelling
  · exact cancelling_of_move cancelling
  · exact cancelling_of_move cancelling
  · exact cancelling_of_move cancelling
  · rw [fetchPhase?_finishCaller] at cancelling
    exact cancelling
  · rw [fetchPhase?_finishCaller] at cancelling
    exact cancelling
  · rw [fetchPhase?_finishCaller] at cancelling
    exact cancelling
  · exact cancelling

theorem cancelling_of_finishFetch {ended fetch : Nat} {ending : Ending Record}
    (cancelling : (state.finishFetch ended ending).fetchPhase? fetch = some .cancelling) :
    state.fetchPhase? fetch = some .cancelling :=
  (fetchPhase?_of_setFetch cancelling).resolve_left nofun

theorem cancelling_of_runFetch {service : Service World Key Stage Reply Record Output}
    {given : Option Reply} {run fetch : Nat}
    (cancelling : (state.runFetch service given run).fetchPhase? fetch = some .cancelling) :
    state.fetchPhase? fetch = some .cancelling := by
  unfold State.runFetch at cancelling
  split at cancelling
  · split at cancelling
    · exact cancelling_of_finishFetch cancelling
    · exact (fetchPhase?_of_setFetch cancelling).resolve_left nofun
  · exact cancelling_of_finishFetch cancelling
  · exact cancelling_of_finishFetch cancelling
  · exact cancelling

/-- A turn cancels no fetch. -/
theorem cancelling_of_turn [BEq Key] {service : Service World Key Stage Reply Record Output}
    {given : Option Reply} {fetch : Nat}
    (cancelling : (state.turn service given).fetchPhase? fetch = some .cancelling) :
    state.fetchPhase? fetch = some .cancelling := by
  unfold State.turn at cancelling
  split at cancelling
  · exact cancelling
  next due rest agenda =>
      cases due with
      | fetch run =>
          have taken : (State.runFetch service given run { state with agenda := rest }).fetchPhase?
              fetch = some .cancelling := cancelling
          have before := cancelling_of_runFetch taken
          exact before
      | forget run => exact cancelling
      | deliver run caller =>
          unfold State.take State.deliver at cancelling
          dsimp only at cancelling
          split at cancelling
          · split at cancelling
            · exact cancelling
            · exact cancelling
          · exact cancelling
      | caller caller =>
          have taken : (State.runCaller service caller { state with agenda := rest }).fetchPhase?
              fetch = some .cancelling := cancelling
          have before := cancelling_of_runCaller taken
          exact before
      | notify caller => exact cancelling

/-- A reply cancels no fetch. -/
theorem cancelling_of_answer {answered fetch : Nat} {reply : Reply}
    (cancelling : (state.answer answered reply).fetchPhase? fetch = some .cancelling) :
    state.fetchPhase? fetch = some .cancelling := by
  unfold State.answer at cancelling
  split at cancelling
  · exact (fetchPhase?_of_setFetch cancelling).resolve_left nofun
  · exact cancelling

/-- The turn of a fetch that is still scheduled is the one in which it starts. -/
theorem starting?_of_scheduled {key : Key} {fetch : Nat}
    (turn : state.agenda.head? = some (.fetch fetch)) (unfinished : state.Unfinished key fetch)
    (scheduled : state.fetchPhase? fetch = some .scheduled) :
    state.starting? = some (fetch, key) := by
  obtain ⟨rest, agenda⟩ := List.head?_eq_some_iff.mp turn
  obtain ⟨⟨own, phase, waiters⟩, present, status⟩ := Option.map_eq_some_iff.mp unfinished
  obtain rfl : own = key := congrArg Prod.fst status
  rw [fetchPhase?_of_fetch? state present] at scheduled
  cases scheduled
  simp only [starting?, agenda, present]

/-- The turn in which a fetch starts leaves it waiting or ends it. -/
theorem started_of_turn [BEq Key] {service : Service World Key Stage Reply Record Output}
    {given : Option Reply} {key : Key} {fetch : Nat}
    (starting : state.starting? = some (fetch, key)) :
    (state.turn service given).fetchPhase? fetch ≠ some .scheduled := by
  have scheduled := (scheduled_of_starting? state starting).2
  unfold State.starting? at starting
  split at starting
  next run rest agenda =>
      split at starting
      next waiters present =>
          cases starting
          have turn : state.turn service given =
              State.runFetch service given fetch { state with agenda := rest } :=
            step_fetch_turn state service agenda given
          have here : State.fetch? { state with agenda := rest } fetch =
              some ⟨key, .scheduled, waiters⟩ := present
          rw [turn, State.runFetch, here]
          cases given with
          | none =>
              have began := fetchPhase?_setFetch_self { state with agenda := rest } scheduled
                (.waiting : FetchPhase Reply Record)
              intro still
              cases began.symm.trans still
          | some reply =>
              have ended := fetchPhase?_setFetch_self
                { state with agenda := rest, world := (service.accept key reply state.world).1 }
                scheduled (.finished (.ofExcept (service.accept key reply state.world).2))
              intro still
              cases ended.symm.trans still
      · cases starting
  · cases starting

theorem scheduled_of_answer {answered fetch : Nat} {reply : Reply}
    (scheduled : state.fetchPhase? fetch = some .scheduled) :
    (state.answer answered reply).fetchPhase? fetch = some .scheduled := by
  unfold State.answer
  split
  next waiting =>
      have apart : fetch ≠ answered := by
        rintro rfl
        cases scheduled.symm.trans waiting
      exact (fetchPhase?_setFetch_of_ne state apart _).trans scheduled
  · exact scheduled

end State

open State

/-! ## Callers -/

/-- Nothing that a caller depends on has been cancelled, nor has the caller. -/
structure Steadfast (state : State World Key Stage Reply Record Output) (caller : Nat) : Prop where
  present : ∃ phase, state.callerPhase? caller = some phase
  fetches : ∀ fetch, state.fetchPhase? fetch ≠ some .cancelling
  awaited : ∀ stage fetch, state.callerPhase? caller = some (.waiting stage fetch) →
    state.fetchPhase? fetch ≠ some (.finished .cancelled)
  told : ∀ stage fetch, state.callerPhase? caller ≠ some (.woken stage fetch .cancelled)
  stays : ∀ reached, state.callerPhase? caller ≠ some (.leaving reached)
  ended : state.callerPhase? caller ≠ some (.finished .cancelled)

variable [DecidableEq Key] {service : Service World Key Stage Reply Record Output}
    {state after : State World Key Stage Reply Record Output}

omit [DecidableEq Key] in
theorem Ending.ofExcept_ne_cancelled {Result : Type} (result : Except Error Result) :
    Ending.ofExcept result ≠ .cancelled := by
  cases result <;> nofun

omit [DecidableEq Key] in
/-- A fetch ends as cancelled only when it has been cancelled before. -/
theorem Next.fetchPhase?_cancelled [BEq Key] {outside : Outside World}
    (next : Next outside service state after) {fetch : Nat}
    (cancelled : after.fetchPhase? fetch = some (.finished .cancelled)) :
    state.fetchPhase? fetch = some (.finished .cancelled) ∨
      state.fetchPhase? fetch = some .cancelling := by
  cases next.fetch fetch with
  | kept phase due => exact .inl (phase.symm.trans cancelled)
  | opened caller phase key stage absent proceeds present due =>
      cases (fetchPhase?_of_fetch? after present).symm.trans cancelled
  | began turn scheduled phase => cases phase.symm.trans cancelled
  | answered reply waiting phase due => cases phase.symm.trans cancelled
  | cancelled old present pending phase due => cases phase.symm.trans cancelled
  | completed found given reply turn present replied world phase due =>
      have ending := FetchPhase.finished.inj (Option.some.inj (phase.symm.trans cancelled))
      exact absurd ending (Ending.ofExcept_ne_cancelled _)
  | aborted found turn present cancelling phase due =>
      refine .inr ?_
      rw [fetchPhase?_of_fetch? state present, cancelling]

/-- A fetch that was not there before is still to start. -/
theorem Next.scheduled_of_opened {outside : Outside World} (next : Next outside service state after)
    {key : Key} {fetch : Nat} (closed : ¬ state.Unfinished key fetch)
    (unfinished : after.Unfinished key fetch) : after.fetchPhase? fetch = some .scheduled := by
  have absent : state.fetchPhase? fetch = none := by
    cases found : state.fetchPhase? fetch with
    | none => rfl
    | some phase => exact absurd (next.unfinished_before found unfinished) closed
  cases next.fetch fetch with
  | kept phase due =>
      obtain ⟨found, present, -⟩ := Option.map_eq_some_iff.mp unfinished
      rw [absent, fetchPhase?_of_fetch? after present] at phase
      cases phase
  | opened caller phase newKey stage missing proceeds present due =>
      exact fetchPhase?_of_fetch? after present
  | began turn scheduled phase => cases absent.symm.trans scheduled
  | answered reply waiting phase due => cases absent.symm.trans waiting
  | cancelled old present pending phase due => cases absent.symm.trans present
  | completed found given reply turn present replied world phase due =>
      cases absent.symm.trans (fetchPhase?_of_fetch? state present)
  | aborted found turn present cancelling phase due =>
      cases absent.symm.trans (fetchPhase?_of_fetch? state present)

omit [DecidableEq Key] in
/-- A fetch that has started does not start again. -/
theorem Next.scheduled_before [BEq Key] {outside : Outside World}
    (next : Next outside service state after) {fetch : Nat} {phase : FetchPhase Reply Record}
    (present : state.fetchPhase? fetch = some phase)
    (scheduled : after.fetchPhase? fetch = some .scheduled) :
    state.fetchPhase? fetch = some .scheduled := by
  cases next.fetch fetch with
  | kept same due => exact same.symm.trans scheduled
  | opened caller other key stage absent proceeds opened due =>
      rw [fetchPhase?, absent] at present
      cases present
  | began turn old begun => cases begun.symm.trans scheduled
  | answered reply waiting given due => cases given.symm.trans scheduled
  | cancelled old found pending cancelling due => cases cancelling.symm.trans scheduled
  | completed found given reply turn there replied world ended due =>
      cases ended.symm.trans scheduled
  | aborted found turn there cancelling ended due => cases ended.symm.trans scheduled

/-- A step that cancels nothing leaves a caller steadfast. -/
theorem Steadfast.next {caller : Nat} (steadfast : Steadfast state caller)
    (registered : Registered state)
    (next : Next (.still fun _ => False) service state after)
    (spares : ∀ fetch, after.fetchPhase? fetch = some .cancelling →
      state.fetchPhase? fetch = some .cancelling) : Steadfast after caller := by
  have present := steadfast.present
  have fetches : ∀ fetch, after.fetchPhase? fetch ≠ some .cancelling :=
    fun fetch cancelling => steadfast.fetches fetch (spares fetch cancelling)
  cases next.caller registered caller with
  | kept phase due =>
      rw [← phase] at present
      refine ⟨present, fetches, fun stage fetch waiting cancelled => ?_, ?_, ?_, ?_⟩
      · rw [phase] at waiting
        rcases next.fetchPhase?_cancelled cancelled with before | cancelling
        · exact steadfast.awaited stage fetch waiting before
        · exact steadfast.fetches fetch cancelling
      · rw [phase]
        exact steadfast.told
      · rw [phase]
        exact steadfast.stays
      · rw [phase]
        exact steadfast.ended
  | called stage absent phase due =>
      obtain ⟨old, found⟩ := present
      cases absent.symm.trans found
  | cancelled reached may pending phase due world => exact may.elim
  | told stage fetch ending waiting finished phase due =>
      have kept : ending ≠ .cancelled := by
        rintro rfl
        exact steadfast.awaited stage fetch waiting finished
      refine ⟨⟨_, phase⟩, fetches, ?_, ?_, ?_, ?_⟩ <;> simp [phase, kept]
  | proceeded phase move proceeds =>
      cases move with
      | finish result =>
          have reached : after.callerPhase? caller = some (.finished (.ofExcept result)) :=
            proceeds.reached
          refine ⟨⟨_, reached⟩, fetches, ?_, ?_, ?_, ?_⟩ <;>
            simp [reached, Ending.ofExcept_ne_cancelled]
      | await key stage =>
          obtain ⟨fetch, found, waiting, there, -, unfinished, -⟩ := proceeds.reached
          refine ⟨⟨_, waiting⟩, fetches, fun other awaited waits cancelled => ?_, ?_, ?_, ?_⟩
          · cases waiting.symm.trans waits
            rw [fetchPhase?_of_fetch? after there] at cancelled
            rw [Option.some.inj cancelled] at unfinished
            cases unfinished
          all_goals simp [waiting]
  | departed phase turn found leaves ended =>
      cases phase with
      | woken stage fetch ending =>
          cases ending with
          | cancelled => exact absurd found (steadfast.told stage fetch)
          | ok record => cases leaves
          | failed error => cases leaves
      | leaving reached => exact absurd found (steadfast.stays reached)
      | ready stage => cases leaves
      | waiting stage fetch => cases leaves
      | finished ending => cases leaves

omit [DecidableEq Key] in
/-- A caller that goes on when no fetch is under way is steadfast. -/
theorem Proceeds.steadfast {caller : Nat} {phase : CallerPhase Stage Record Output}
    {move : Move Key Stage Output} (proceeds : Proceeds service state after caller phase move)
    (closed : ∀ key fetch, ¬ state.Unfinished key fetch) : Steadfast state caller := by
  have moves : ∀ other, state.callerPhase? caller = some other →
      other.proceed? service state.world = some (after.world, move) := by
    intro other found
    cases found.symm.trans proceeds.present
    exact proceeds.moves
  refine ⟨⟨phase, proceeds.present⟩, fun fetch cancelling => ?_, fun stage fetch waiting => ?_,
    fun stage fetch woken => ?_, fun reached leaving => ?_, fun ended => ?_⟩
  · obtain ⟨found, present, pending⟩ := Option.map_eq_some_iff.mp cancelling
    refine closed found.key fetch (Option.map_eq_some_iff.mpr ⟨found, present, ?_⟩)
    rw [pending]
    rfl
  · cases moves _ waiting
  · cases moves _ woken
  · cases moves _ leaving
  · cases moves _ ended

omit [DecidableEq Key] in
/-- Once nothing is due and no reply is outstanding, a steadfast caller has ended. -/
theorem Steadfast.finished {caller : Nat} (steadfast : Steadfast state caller)
    (attended : Attended state) (quiet : state.isQuiet = true)
    (replied : ∀ fetch, state.fetchPhase? fetch ≠ some .waiting) :
    ∃ ending, state.callerPhase? caller = some (.finished ending) ∧ ending ≠ .cancelled := by
  have nothing : ∀ due, ¬ state.Owes due := by
    intro due owes
    have member := attended.owed due owes
    rw [List.isEmpty_iff.mp quiet] at member
    cases member
  obtain ⟨phase, present⟩ := steadfast.present
  cases phase with
  | finished ending =>
      refine ⟨ending, present, ?_⟩
      rintro rfl
      exact steadfast.ended present
  | ready stage => exact absurd (.inl ⟨stage, present⟩) (nothing (.caller caller))
  | woken stage fetch ending =>
      exact absurd (.inr (.inl ⟨stage, fetch, ending, present⟩)) (nothing (.caller caller))
  | leaving reached => exact absurd present (steadfast.stays reached)
  | waiting stage fetch =>
      obtain ⟨found, there, -⟩ := attended.waits caller stage fetch present
      have phase := fetchPhase?_of_fetch? state there
      generalize found.phase = reached at phase
      cases reached with
      | scheduled => exact absurd (.inl phase) (nothing (.fetch fetch))
      | waiting => exact absurd phase (replied fetch)
      | answered reply => exact absurd (.inr (.inr ⟨reply, phase⟩)) (nothing (.fetch fetch))
      | cancelling => exact absurd phase (steadfast.fetches fetch)
      | finished ending =>
          exact absurd ⟨stage, ending, present, phase⟩ (nothing (.deliver fetch caller))

end FeatureFlags.Flight
