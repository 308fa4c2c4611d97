import FeatureFlags.Proofs.Flight.History

/-!
# Sharing is safe under every schedule

`Sharing` collects what shared fetches promise in a state and about what follows it, whatever the
callers and fetches do in their turns: one unfinished fetch for each key, found by whoever asks for
that key; its ending, which is what the service makes of the reply, for everyone who waits for it;
and a registry from which a late forgetting takes nothing newer.  `run_sharing` proves it of every
run, for every service.
-/

set_option autoImplicit false

namespace FeatureFlags.Flight

variable {World Key Stage Reply Record Output : Type}

namespace State

def Asks (service : Service World Key Stage Reply Record Output)
    (state : State World Key Stage Reply Record Output) (caller : Nat) (key : Key)
    (stage : Stage) : Prop :=
  ∃ rest phase world, state.agenda = .caller caller :: rest ∧
    state.callerPhase? caller = some phase ∧
      phase.proceed? service state.world = some (world, .await key stage)

/-- What a fetch comes to if it ends in its turn: what the service makes of its reply, or, if it was
asked to end so, cancelled. -/
inductive EndsAs (service : Service World Key Stage Reply Record Output)
    (state : State World Key Stage Reply Record Output) (given : Option Reply) (fetch : Nat) :
    Ending Record → Prop where
  | replied {found : Fetch Key Reply Record} {reply : Reply}
      (present : state.fetch? fetch = some found)
      (replied : found.phase.reply? given = some reply) :
      EndsAs service state given fetch (.ofExcept (service.accept found.key reply state.world).2)
  | cancelled (cancelling : state.fetchPhase? fetch = some .cancelling) :
      EndsAs service state given fetch .cancelled

/-- A caller goes on with the ending of the fetch that it waited for. -/
def handOver [BEq Key] (service : Service World Key Stage Reply Record Output) (caller : Nat)
    (stage : Stage) (ending : Ending Record)
    (state : State World Key Stage Reply Record Output) :
    State World Key Stage Reply Record Output :=
  match ending with
  | .ok record => state.move caller (service.resume stage (.ok record) state.world)
  | .failed error => state.move caller (service.resume stage (.error error) state.world)
  | .cancelled =>
      finishCaller caller .cancelled { state with world := service.leave stage state.world }

def HandsOver [BEq Key] (service : Service World Key Stage Reply Record Output)
    (state : State World Key Stage Reply Record Output) (caller : Nat) (stage : Stage)
    (ending : Ending Record) : Prop :=
  ∃ rest, state.agenda = .caller caller :: rest ∧ ∀ given,
    state.step service (.turn given) =
      State.handOver service caller stage ending { state with agenda := rest }

end State

open State

structure Sharing [BEq Key] (service : Service World Key Stage Reply Record Output)
    (state : State World Key Stage Reply Record Output) : Prop where
  /-- A key has at most one unfinished fetch. -/
  unique : ∀ key fetch other, state.Unfinished key fetch → state.Unfinished key other →
    fetch = other
  inFlight_iff : ∀ key, state.inFlight key = true ↔ ∃ fetch, state.Unfinished key fetch
  /-- Who asks for a key that has an unfinished fetch joins that fetch, and none is started. -/
  joins : ∀ caller key stage fetch given, state.Asks service caller key stage →
    state.Unfinished key fetch →
      let after := state.step service (.turn given)
      after.fetches.length = state.fetches.length ∧
        after.callerPhase? caller = some (.waiting stage fetch) ∧
          ∃ found, after.fetch? fetch = some found ∧ caller ∈ found.waiters
  /-- Who asks for a key that has none starts a fetch of its own and waits for that. -/
  starts : ∀ caller key stage given, state.Asks service caller key stage →
    (∀ fetch, ¬ state.Unfinished key fetch) →
      let after := state.step service (.turn given)
      after.fetches = state.fetches ++ [⟨key, .scheduled, [caller]⟩] ∧
        after.callerPhase? caller = some (.waiting stage state.fetches.length)
  /-- So it does when the registry still holds a fetch of the key that has ended. -/
  restarts : ∀ caller key stage fetch ending given, state.Asks service caller key stage →
    state.registry.lookup key = some fetch →
      state.fetchPhase? fetch = some (.finished ending) →
        let after := state.step service (.turn given)
        after.fetches = state.fetches ++ [⟨key, .scheduled, [caller]⟩] ∧
          after.callerPhase? caller = some (.waiting stage state.fetches.length)
  /-- A fetch ends in its own turn only, and as what the service makes of its reply or cancelled. -/
  ends_iff : ∀ key fetch action ending, state.Unfinished key fetch →
    ((state.step service action).fetchPhase? fetch = some (.finished ending) ↔
      ∃ given, action = .turn given ∧ state.agenda.head? = some (.fetch fetch) ∧
        state.EndsAs service given fetch ending)
  /-- The service takes in the reply in that turn. -/
  accepts : ∀ fetch found given reply, state.agenda.head? = some (.fetch fetch) →
    state.fetch? fetch = some found → found.phase.reply? given = some reply →
      (state.step service (.turn given)).world = (service.accept found.key reply state.world).1
  ending_stays : ∀ fetch ending later, state.fetchPhase? fetch = some (.finished ending) →
    (state.run service later).fetchPhase? fetch = some (.finished ending)
  /-- A caller that waits and is not cancelled goes on waiting until it is handed the ending of the
  fetch that it waits for, and nothing else. -/
  delivers : ∀ caller stage fetch later,
    state.callerPhase? caller = some (.waiting stage fetch) →
      (∀ action ∈ later, action ≠ .cancel caller) →
        let final := state.run service later
        final.callerPhase? caller = some (.waiting stage fetch) ∨
          ∃ ending, final.fetchPhase? fetch = some (.finished ending) ∧
            (final.callerPhase? caller = some (.woken stage fetch ending) ∨
              ∃ before given after, later = before ++ .turn given :: after ∧
                (state.run service before).HandsOver service caller stage ending)
  /-- The delivery of an ending is due for as long as it has not come about. -/
  delivery_due : ∀ caller stage fetch ending,
    state.callerPhase? caller = some (.waiting stage fetch) →
      state.fetchPhase? fetch = some (.finished ending) → .deliver fetch caller ∈ state.agenda
  handing_due : ∀ caller stage fetch ending,
    state.callerPhase? caller = some (.woken stage fetch ending) → .caller caller ∈ state.agenda
  /-- Forgetting a fetch, which has ended, leaves the entries of all others. -/
  forgets_own : ∀ fetch rest given, state.agenda = .forget fetch :: rest →
    (∃ ending, state.fetchPhase? fetch = some (.finished ending)) ∧
      ∀ key other, (key, other) ∈ state.registry → other ≠ fetch →
        (key, other) ∈ (state.step service (.turn given)).registry
  /-- When nothing is left to be forgotten, the registry holds exactly the unfinished fetches. -/
  settled : (∀ fetch, .forget fetch ∉ state.agenda) →
    ∀ key fetch, (key, fetch) ∈ state.registry ↔ state.Unfinished key fetch

section Sharing

variable [DecidableEq Key] (service : Service World Key Stage Reply Record Output)
    {state : State World Key Stage Reply Record Output}

/-! ## Asking for a key -/

theorem step_caller_turn {caller : Nat} {rest : List Turn}
    (agenda : state.agenda = .caller caller :: rest) (given : Option Reply) :
    state.step service (.turn given) =
      State.runCaller service caller { state with agenda := rest } := by
  simp [State.step, State.turn, agenda, State.take]

theorem runCaller_of_proceed {caller : Nat} {phase : CallerPhase Stage Record Output}
    {next : World × Move Key Stage Output} (present : state.callerPhase? caller = some phase)
    (moves : phase.proceed? service state.world = some next) :
    state.runCaller service caller = state.move caller next := by
  unfold State.runCaller
  rw [present]
  cases phase with
  | ready stage => cases moves; rfl
  | woken stage fetch ending => cases ending <;> cases moves <;> rfl
  | waiting stage fetch => cases moves
  | leaving reached => cases moves
  | finished ending => cases moves

theorem step_of_asks {caller : Nat} {key : Key} {stage : Stage}
    (asks : state.Asks service caller key stage) (given : Option Reply) :
    ∃ rest world phase, state.callerPhase? caller = some phase ∧
      state.step service (.turn given) =
        State.await key stage caller { state with agenda := rest, world := world } := by
  obtain ⟨rest, phase, world, agenda, present, moves⟩ := asks
  refine ⟨rest, world, phase, present, ?_⟩
  have moved : State.runCaller service caller { state with agenda := rest } =
      State.move caller (world, .await key stage) { state with agenda := rest } :=
    runCaller_of_proceed service present moves
  rw [step_caller_turn service agenda, moved]
  rfl

theorem await_of_open {key : Key} {stage : Stage} {caller fetch : Nat}
    (shared : state.open? key = some fetch) :
    state.await key stage caller =
      (state.join fetch caller).setCaller caller (.waiting stage fetch) := by
  simp [State.await, shared]

theorem await_of_closed {key : Key} {stage : Stage} {caller : Nat}
    (unshared : state.open? key = none) :
    state.await key stage caller =
      (state.launch key caller).setCaller caller (.waiting stage state.fetches.length) := by
  simp [State.await, unshared]

omit [DecidableEq Key] in
theorem finishCaller_reached {caller : Nat} {phase : CallerPhase Stage Record Output}
    (present : state.callerPhase? caller = some phase) (ending : Ending Output) :
    (state.finishCaller caller ending).world = state.world ∧
      (state.finishCaller caller ending).callerPhase? caller = some (.finished ending) := by
  have ended := callerPhase?_setCaller_self state present (.finished ending)
  unfold State.finishCaller
  dsimp only
  cases ending with
  | cancelled => exact ⟨rfl, ended⟩
  | ok result =>
      dsimp only
      split
      · exact ⟨rfl, ended⟩
      · exact ⟨rfl, ended⟩
  | failed error =>
      dsimp only
      split
      · exact ⟨rfl, ended⟩
      · exact ⟨rfl, ended⟩

/-- A caller whose turn is due goes on in it. -/
theorem Registered.proceeds (registered : Registered state) {caller : Nat} {rest : List Turn}
    {phase : CallerPhase Stage Record Output} {world : World} {move : Move Key Stage Output}
    (given : Option Reply) (agenda : state.agenda = .caller caller :: rest)
    (present : state.callerPhase? caller = some phase)
    (moves : phase.proceed? service state.world = some (world, move)) :
    Proceeds service state (state.step service (.turn given)) caller phase move := by
  have step : state.step service (.turn given) =
      State.move caller (world, move) { state with agenda := rest } := by
    rw [step_caller_turn service agenda]
    exact runCaller_of_proceed service present moves
  rw [step]
  cases move with
  | finish result =>
      have popped : State.callerPhase? { state with agenda := rest, world := world } caller =
          some phase := present
      obtain ⟨sameWorld, ended⟩ := finishCaller_reached popped (.ofExcept result)
      refine ⟨by rw [agenda]; rfl, present, ?_, ended⟩
      exact moves.trans (congrArg (fun after => some (after, Move.finish result)) sameWorld.symm)
  | await key stage =>
      cases shared : state.open? key with
      | some fetch =>
          have joined : State.move caller (world, .await key stage) { state with agenda := rest } =
              (State.join fetch caller { state with agenda := rest, world := world }).setCaller
                caller (.waiting stage fetch) := await_of_open shared
          rw [joined]
          exact ⟨by rw [agenda]; rfl, present, moves,
            joined_reached present ((registered.open?_eq_some_iff key fetch).mp shared)⟩
      | none =>
          have launched : State.move caller (world, .await key stage) { state with agenda := rest } =
              (State.launch key caller { state with agenda := rest, world := world }).setCaller
                caller (.waiting stage state.fetches.length) := await_of_closed shared
          rw [launched]
          exact ⟨by rw [agenda]; rfl, present, moves, launched_reached present⟩

theorem Registered.joins (registered : Registered state) {caller : Nat} {key : Key} {stage : Stage}
    {fetch : Nat} (given : Option Reply) (asks : state.Asks service caller key stage)
    (unfinished : state.Unfinished key fetch) :
    (state.step service (.turn given)).fetches.length = state.fetches.length ∧
      (state.step service (.turn given)).callerPhase? caller = some (.waiting stage fetch) ∧
        ∃ found, (state.step service (.turn given)).fetch? fetch = some found ∧
          caller ∈ found.waiters := by
  obtain ⟨rest, world, phase, present, step⟩ := step_of_asks service asks given
  have shared : state.open? key = some fetch :=
    (registered.open?_eq_some_iff key fetch).mpr unfinished
  have joined : State.await key stage caller { state with agenda := rest, world := world } =
      (State.join fetch caller { state with agenda := rest, world := world }).setCaller caller
        (.waiting stage fetch) :=
    await_of_open shared
  have waits := callerPhase?_setCaller_self
    (State.join fetch caller { state with agenda := rest, world := world }) present
    (.waiting stage fetch)
  have reached : Reached
      ((State.join fetch caller { state with agenda := rest, world := world }).setCaller caller
        (.waiting stage fetch)) caller (.await key stage) :=
    joined_reached present unfinished
  obtain ⟨awaited, found, phase', there, -, -, member⟩ := reached
  have same : fetch = awaited := by
    cases waits.symm.trans phase'
    rfl
  rw [step, joined]
  refine ⟨?_, waits, found, same ▸ there, member⟩
  simp [setCaller, join]

theorem starts_of_closed {caller : Nat} {key : Key} {stage : Stage} (given : Option Reply)
    (asks : state.Asks service caller key stage) (unshared : state.open? key = none) :
    (state.step service (.turn given)).fetches =
        state.fetches ++ [⟨key, .scheduled, [caller]⟩] ∧
      (state.step service (.turn given)).callerPhase? caller =
        some (.waiting stage state.fetches.length) := by
  obtain ⟨rest, world, phase, present, step⟩ := step_of_asks service asks given
  have launched : State.await key stage caller { state with agenda := rest, world := world } =
      (State.launch key caller { state with agenda := rest, world := world }).setCaller caller
        (.waiting stage state.fetches.length) :=
    await_of_closed unshared
  rw [step, launched]
  refine ⟨rfl, ?_⟩
  exact callerPhase?_setCaller_self
    (State.launch key caller { state with agenda := rest, world := world }) present _

omit [DecidableEq Key] in
theorem pending_of_unfinished {key : Key} {fetch : Nat} {ending : Ending Record}
    (unfinished : state.Unfinished key fetch) :
    state.fetchPhase? fetch ≠ some (.finished ending) := by
  intro finished
  obtain ⟨found, present, phase⟩ := Option.map_eq_some_iff.mp finished
  simp [Unfinished, status?, present, phase, FetchPhase.isFinished] at unfinished

theorem Registered.closed_of_finished (registered : Registered state) {key : Key} {fetch : Nat}
    {ending : Ending Record} (listed : state.registry.lookup key = some fetch)
    (finished : state.fetchPhase? fetch = some (.finished ending)) : state.open? key = none := by
  rw [registered.open?_eq_none_iff]
  intro other unfinished
  have found := registered.complete key other unfinished
  rw [listed] at found
  cases found
  exact pending_of_unfinished unfinished finished

/-! ## The ending of a fetch -/

/-- Whatever is not a turn leaves a fetch unfinished. -/
theorem finished_of_step_of_not_turn {fetch : Nat} {ending : Ending Record}
    {action : Action Stage Reply} (waits : ∀ given, action ≠ .turn given)
    (finished : (state.step service action).fetchPhase? fetch = some (.finished ending)) :
    state.fetchPhase? fetch = some (.finished ending) := by
  cases action with
  | call stage notifies => exact finished
  | turn given => exact absurd rfl (waits given)
  | answer other reply =>
      simp only [State.step, State.answer] at finished
      split at finished
      · exact finished_of_setFetch state rfl finished
      · exact finished
  | cancel caller =>
      simp only [State.step, State.cancel] at finished
      split at finished <;> exact finished
  | cancelFetch other =>
      simp only [State.step, State.cancelFetch] at finished
      split at finished
      · exact finished_of_setFetch state rfl finished
      · exact finished_of_setFetch state rfl finished
      · exact finished_of_setFetch state rfl finished
      · exact finished

theorem step_of_endsAs {fetch : Nat} {rest : List Turn} {given : Option Reply}
    {ending : Ending Record} (agenda : state.agenda = .fetch fetch :: rest)
    (ends : state.EndsAs service given fetch ending) :
    (state.step service (.turn given)).fetchPhase? fetch = some (.finished ending) := by
  cases ends with
  | replied present replied =>
      rw [step_of_reply state service agenda present replied]
      exact fetchPhase?_finishFetch _ (fetchPhase?_of_fetch? state present) _
  | cancelled cancelling =>
      rw [step_of_cancelling state service given agenda cancelling]
      exact fetchPhase?_finishFetch { state with agenda := rest } cancelling _

theorem endsAs_of_step {key : Key} {fetch : Nat} {rest : List Turn} {given : Option Reply}
    {ending : Ending Record} (unfinished : state.Unfinished key fetch)
    (agenda : state.agenda = .fetch fetch :: rest)
    (finished : (state.step service (.turn given)).fetchPhase? fetch = some (.finished ending)) :
    state.EndsAs service given fetch ending := by
  -- It is enough that the fetch ends at all, as it ends in one way only.
  have enough {other : Ending Record} (ends : state.EndsAs service given fetch other) :
      state.EndsAs service given fetch ending := by
    cases (step_of_endsAs service agenda ends).symm.trans finished
    exact ends
  have pending : state.fetchPhase? fetch ≠ some (.finished ending) :=
    pending_of_unfinished unfinished
  obtain ⟨⟨key, phase, waiters⟩, present, -⟩ := Option.map_eq_some_iff.mp unfinished
  have there : State.fetch? { state with agenda := rest } fetch = some ⟨key, phase, waiters⟩ :=
    present
  cases phase with
  | answered reply => exact enough (.replied present rfl)
  | cancelling => exact enough (.cancelled (fetchPhase?_of_fetch? state present))
  | scheduled =>
      cases given with
      | some reply => exact enough (.replied present rfl)
      | none =>
          rw [step_fetch_turn state service agenda, runFetch, there] at finished
          exact absurd (finished_of_setFetch { state with agenda := rest } rfl finished) pending
  | waiting =>
      rw [step_fetch_turn state service agenda, runFetch, there] at finished
      exact absurd finished pending
  | finished reached =>
      exact absurd (fetchPhase?_of_fetch? state present) (pending_of_unfinished unfinished)

theorem endsAs_iff {key : Key} {fetch : Nat} {action : Action Stage Reply}
    {ending : Ending Record} (unfinished : state.Unfinished key fetch) :
    (state.step service action).fetchPhase? fetch = some (.finished ending) ↔
      ∃ given, action = .turn given ∧ state.agenda.head? = some (.fetch fetch) ∧
        state.EndsAs service given fetch ending := by
  constructor
  · intro finished
    by_cases turn : ∃ given, action = .turn given
    · obtain ⟨given, rfl⟩ := turn
      have next : Next (.still fun _ => True) service state (state.step service (.turn given)) :=
        step_next service state (.turn given) nofun
      have head : state.agenda.head? = some (.fetch fetch) := by
        cases next.fetch fetch with
        | completed found given reply turn present replied world phase due => exact turn
        | aborted found turn present cancelling phase due => exact turn
        | kept phase due =>
            exact absurd (phase.symm.trans finished) (pending_of_unfinished unfinished)
        | opened caller phase key stage absent proceeds present due =>
            cases (fetchPhase?_of_fetch? _ present).symm.trans finished
        | began turn scheduled phase => exact turn
        | answered reply waiting phase due => cases phase.symm.trans finished
        | cancelled old present pending phase due => cases phase.symm.trans finished
      obtain ⟨rest, agenda⟩ := List.head?_eq_some_iff.mp head
      exact ⟨given, rfl, head, endsAs_of_step service unfinished agenda finished⟩
    · have noTurn : ∀ given, action ≠ .turn given := fun given same => turn ⟨given, same⟩
      exact absurd (finished_of_step_of_not_turn service noTurn finished)
        (pending_of_unfinished unfinished)
  · rintro ⟨given, rfl, head, ends⟩
    obtain ⟨rest, agenda⟩ := List.head?_eq_some_iff.mp head
    exact step_of_endsAs service agenda ends

/-! ## Being handed the ending -/

theorem callerPhase?_step_of_not_turn {caller : Nat} {phase : CallerPhase Stage Record Output}
    (present : state.callerPhase? caller = some phase) (action : Action Stage Reply)
    (waits : ∀ given, action ≠ .turn given) (keeps : action ≠ .cancel caller) :
    (state.step service action).callerPhase? caller = some phase := by
  cases action with
  | call stage notifies =>
      have old : caller ≠ state.callers.length := by
        rintro rfl
        cases state.callerPhase?_length.symm.trans present
      simp [State.step, callerPhase?_call, old, present]
  | turn given => exact absurd rfl (waits given)
  | answer fetch reply =>
      simp only [State.step, State.answer]
      split <;> exact present
  | cancel other =>
      have differs : caller ≠ other := by
        rintro rfl
        exact keeps rfl
      have others : ∀ reached, (state.setCaller other (.leaving reached)).callerPhase? caller =
          some phase := by
        intro reached
        rw [callerPhase?_setCaller_of_ne state differs, present]
      simp only [State.step, State.cancel]
      split
      · exact others _
      · exact others _
      · exact others _
      · exact present
  | cancelFetch fetch =>
      simp only [State.step, State.cancelFetch]
      split <;> exact present

theorem step_of_woken {caller fetch : Nat} {rest : List Turn} {stage : Stage}
    {ending : Ending Record} (agenda : state.agenda = .caller caller :: rest)
    (woken : state.callerPhase? caller = some (.woken stage fetch ending)) :
    state.HandsOver service caller stage ending := by
  refine ⟨rest, agenda, fun given => ?_⟩
  rw [step_caller_turn service agenda]
  have same : State.callerPhase? { state with agenda := rest } caller =
      some (.woken stage fetch ending) := woken
  unfold State.runCaller
  rw [same]
  cases ending <;> rfl

theorem woken_of_delivery {fetch caller : Nat} {rest : List Turn} {stage : Stage}
    {ending : Ending Record} (given : Option Reply)
    (agenda : state.agenda = .deliver fetch caller :: rest)
    (waiting : state.callerPhase? caller = some (.waiting stage fetch))
    (finished : state.fetchPhase? fetch = some (.finished ending)) :
    (state.step service (.turn given)).callerPhase? caller = some (.woken stage fetch ending) := by
  have stillWaiting : State.callerPhase? { state with agenda := rest } caller =
      some (.waiting stage fetch) := waiting
  have stillFinished : State.fetchPhase? { state with agenda := rest } fetch =
      some (.finished ending) := finished
  simp only [State.step, State.turn, agenda, State.take, State.deliver, stillWaiting,
    stillFinished, if_true]
  exact State.callerPhase?_setCaller_self _ stillWaiting _

theorem run_finished (actions : List (Action Stage Reply)) {fetch : Nat} {ending : Ending Record}
    (finished : state.fetchPhase? fetch = some (.finished ending)) :
    (state.run service actions).fetchPhase? fetch = some (.finished ending) := by
  induction actions generalizing state with
  | nil => exact finished
  | cons action rest inductionHypothesis =>
      have next : Next (.still fun _ => True) service state (state.step service action) :=
        step_next service state action fun _ _ => True.intro
      exact inductionHypothesis (next.fetchPhase?_finished finished)

theorem Orderly.onHold_step (orderly : Orderly state) {caller fetch : Nat} {stage : Stage}
    (onHold : OnHold state caller stage fetch) (action : Action Stage Reply)
    (keeps : action ≠ .cancel caller) :
    OnHold (state.step service action) caller stage fetch ∨
      ∃ given ending, action = .turn given ∧ state.HandsOver service caller stage ending ∧
        state.fetchPhase? fetch = some (.finished ending) := by
  by_cases turn : ∃ given, action = .turn given
  · obtain ⟨given, rfl⟩ := turn
    -- No turn cancels a caller, so the step is one in which this caller may not be cancelled.
    have next : Next (.still (· ≠ caller)) service state (state.step service (.turn given)) :=
      step_next service state (.turn given) nofun
    rcases next.onHold orderly.registered onHold with
      stays | ⟨may, -⟩ | ⟨ending, head, woken, -⟩
    · exact .inl stays
    · exact absurd rfl may
    · obtain ⟨rest, agenda⟩ := List.head?_eq_some_iff.mp head
      exact .inr ⟨given, ending, rfl, step_of_woken service agenda woken,
        orderly.attended.told caller stage fetch ending woken⟩
  · have noTurn : ∀ given, action ≠ .turn given := fun given same => turn ⟨given, same⟩
    refine .inl (onHold.imp (fun waiting => ?_) fun ⟨ending, woken⟩ => ⟨ending, ?_⟩)
    · exact callerPhase?_step_of_not_turn service waiting action noTurn keeps
    · exact callerPhase?_step_of_not_turn service woken action noTurn keeps

theorem Orderly.delivers (orderly : Orderly state) {caller fetch : Nat} {stage : Stage}
    (later : List (Action Stage Reply)) (onHold : OnHold state caller stage fetch)
    (keeps : ∀ action ∈ later, action ≠ .cancel caller) :
    (state.run service later).callerPhase? caller = some (.waiting stage fetch) ∨
      ∃ ending, (state.run service later).fetchPhase? fetch = some (.finished ending) ∧
        ((state.run service later).callerPhase? caller = some (.woken stage fetch ending) ∨
          ∃ before given after, later = before ++ .turn given :: after ∧
            (state.run service before).HandsOver service caller stage ending) := by
  induction later generalizing state with
  | nil =>
      rcases onHold with waiting | ⟨ending, woken⟩
      · exact .inl waiting
      · exact .inr ⟨ending, orderly.attended.told caller stage fetch ending woken, .inl woken⟩
  | cons action rest inductionHypothesis =>
      have keepsRest : ∀ action ∈ rest, action ≠ .cancel caller :=
        fun other member => keeps other (List.mem_cons_of_mem _ member)
      have next : Next (.still fun _ => True) service state (state.step service action) :=
        step_next service state action fun _ _ => True.intro
      rcases orderly.onHold_step service onHold action (keeps action List.mem_cons_self) with
        stays | ⟨given, ending, rfl, handed, finished⟩
      · rcases inductionHypothesis (orderly.next next) stays keepsRest with
          waiting | ⟨ending, finished, woken | ⟨before, given, after, split, handed⟩⟩
        · exact .inl waiting
        · exact .inr ⟨ending, finished, .inl woken⟩
        · refine .inr ⟨ending, finished, .inr ⟨action :: before, given, after, ?_, handed⟩⟩
          rw [split, List.cons_append]
      · refine .inr ⟨ending, ?_, .inr ⟨[], given, rest, rfl, handed⟩⟩
        exact run_finished service rest (next.fetchPhase?_finished finished)

/-! ## The promises together -/

theorem Orderly.sharing (orderly : Orderly state) : Sharing service state where
  unique key fetch other left right := orderly.registered.unique left right
  inFlight_iff key := by
    simp only [State.inFlight, Option.isSome_iff_exists, orderly.registered.open?_eq_some_iff]
  joins caller key stage fetch given asks unfinished :=
    orderly.registered.joins service given asks unfinished
  starts caller key stage given asks closed :=
    starts_of_closed service given asks ((orderly.registered.open?_eq_none_iff key).mpr closed)
  restarts caller key stage fetch ending given asks listed finished :=
    starts_of_closed service given asks (orderly.registered.closed_of_finished listed finished)
  ends_iff key fetch action ending unfinished := endsAs_iff service unfinished
  accepts fetch found given reply head present replied := by
    obtain ⟨rest, agenda⟩ := List.head?_eq_some_iff.mp head
    rw [step_of_reply state service agenda present replied]
    rfl
  ending_stays fetch ending later finished := run_finished service later finished
  delivers caller stage fetch later waiting keeps :=
    orderly.delivers service later (.inl waiting) keeps
  delivery_due caller stage fetch ending waiting finished :=
    orderly.attended.owed (.deliver fetch caller) ⟨stage, ending, waiting, finished⟩
  handing_due caller stage fetch ending woken :=
    orderly.attended.owed (.caller caller) (.inr (.inl ⟨stage, fetch, ending, woken⟩))
  forgets_own fetch rest given agenda := by
    constructor
    · obtain ⟨key, status⟩ := orderly.registered.forgets fetch (by simp [agenda])
      obtain ⟨found, present, ended⟩ := Option.map_eq_some_iff.mp status
      obtain ⟨ending, phase⟩ := FetchPhase.exists_of_isFinished (congrArg Prod.snd ended)
      exact ⟨ending, (fetchPhase?_of_fetch? state present).trans (congrArg some phase)⟩
    · intro key other member differs
      simp [State.step, State.turn, agenda, State.take, State.forget, member, differs]
  settled nothingDue key fetch := by
    constructor
    · intro member
      refine (orderly.registered.known key fetch member).resolve_right ?_
      exact fun ended => nothingDue fetch ended.2
    · intro unfinished
      exact Entries.mem_of_lookup (orderly.registered.complete key fetch unfinished)

/-- Whatever is called, answered, cancelled or forgotten, in whatever order, and whatever callers
and fetches do in their turns: the fetches of every key are shared safely. -/
theorem run_sharing (world : World) (actions : List (Action Stage Reply)) :
    Sharing service (State.run service (State.start world) actions) :=
  ((orderly_start world).run actions).sharing service

end Sharing

end FeatureFlags.Flight
