import FeatureFlags.Proofs.Flight.Callers

/-!
# What a step does to one fetch

`Next.fetch` looks at a step from a single fetch: either the step leaves it alone, or the fetch is
opened by a caller that asks for its key, begins, is answered or cancelled, or ends.  The key of a
fetch never changes, and its waiters only grow.
-/

set_option autoImplicit false

namespace FeatureFlags.Flight

variable {World Key Stage Reply Record Output : Type}

theorem FetchPhase.exists_of_isFinished {phase : FetchPhase Reply Record}
    (ended : phase.isFinished = true) : ∃ ending, phase = .finished ending := by
  cases phase with
  | finished ending => exact ⟨ending, rfl⟩
  | _ => cases ended

namespace State

variable (state : State World Key Stage Reply Record Output)

theorem fetchPhase?_setFetch (fetch other : Nat) (phase : FetchPhase Reply Record) :
    (state.setFetch fetch phase).fetchPhase? other =
      (state.fetchPhase? other).map fun old => if fetch = other then phase else old := by
  simp only [fetchPhase?, fetch?_setFetch, Option.map_map]
  congr 1
  funext found
  by_cases same : fetch = other <;> simp [same]

theorem fetchPhase?_setFetch_self {fetch : Nat} {old : FetchPhase Reply Record}
    (present : state.fetchPhase? fetch = some old) (phase : FetchPhase Reply Record) :
    (state.setFetch fetch phase).fetchPhase? fetch = some phase := by
  simp [fetchPhase?_setFetch, present]

theorem fetchPhase?_setFetch_of_ne {fetch other : Nat} (differs : other ≠ fetch)
    (phase : FetchPhase Reply Record) :
    (state.setFetch fetch phase).fetchPhase? other = state.fetchPhase? other := by
  simp [fetchPhase?_setFetch, Ne.symm differs]

theorem fetchPhase?_join (fetch caller other : Nat) :
    (state.join fetch caller).fetchPhase? other = state.fetchPhase? other := by
  simp only [fetchPhase?, fetch?_join, Option.map_map]
  congr 1
  funext found
  by_cases same : fetch = other <;> simp [same]

theorem fetchPhase?_launch_of_ne [BEq Key] {key : Key} {caller other : Nat}
    (differs : other ≠ state.fetches.length) :
    (state.launch key caller).fetchPhase? other = state.fetchPhase? other := by
  simp [fetchPhase?, fetch?_launch, differs]

theorem fetchPhase?_of_fetch? {fetch : Nat} {found : Fetch Key Reply Record}
    (present : state.fetch? fetch = some found) : state.fetchPhase? fetch = some found.phase := by
  simp [fetchPhase?, present]

/-- A fetch that starts is still scheduled, and so it has not ended. -/
theorem scheduled_of_starting? {key : Key} {fetch : Nat}
    (starting : state.starting? = some (fetch, key)) :
    state.Unfinished key fetch ∧ state.fetchPhase? fetch = some .scheduled := by
  unfold starting? at starting
  split at starting
  · split at starting
    next present =>
        cases starting
        exact ⟨congrArg (Option.map _) present, congrArg (Option.map _) present⟩
    · cases starting
  · cases starting

/-- A phase that is set is the end of a fetch only if it is one. -/
theorem finished_of_setFetch {fetch other : Nat} {phase : FetchPhase Reply Record}
    {ending : Ending Record} (pending : phase.isFinished = false)
    (finished : (state.setFetch fetch phase).fetchPhase? other = some (.finished ending)) :
    state.fetchPhase? other = some (.finished ending) := by
  rw [fetchPhase?_setFetch] at finished
  obtain ⟨old, present, set⟩ := Option.map_eq_some_iff.mp finished
  split at set
  · rw [set] at pending
    cases pending
  · rw [present, set]

theorem fetchPhase?_finishFetch {fetch : Nat} {old : FetchPhase Reply Record}
    (present : state.fetchPhase? fetch = some old) (ending : Ending Record) :
    (state.finishFetch fetch ending).fetchPhase? fetch = some (.finished ending) :=
  fetchPhase?_setFetch_self state present (.finished ending)

/-! ### The turn of a fetch -/

variable [BEq Key] (service : Service World Key Stage Reply Record Output)

theorem step_fetch_turn {fetch : Nat} {rest : List Turn}
    (agenda : state.agenda = .fetch fetch :: rest) (given : Option Reply) :
    state.step service (.turn given) =
      State.runFetch service given fetch { state with agenda := rest } := by
  simp [step, turn, agenda, take]

theorem step_of_reply {fetch : Nat} {rest : List Turn} {found : Fetch Key Reply Record}
    {given : Option Reply} {reply : Reply} (agenda : state.agenda = .fetch fetch :: rest)
    (present : state.fetch? fetch = some found) (replied : found.phase.reply? given = some reply) :
    state.step service (.turn given) =
      State.complete service fetch found.key reply { state with agenda := rest } := by
  have same : State.fetch? { state with agenda := rest } fetch = some found := present
  rw [step_fetch_turn state service agenda, runFetch, same]
  obtain ⟨key, phase, waiters⟩ := found
  cases phase with
  | scheduled =>
      cases replied
      rfl
  | answered brought =>
      cases replied
      rfl
  | waiting | cancelling | finished => cases replied

theorem step_of_cancelling {fetch : Nat} {rest : List Turn} (given : Option Reply)
    (agenda : state.agenda = .fetch fetch :: rest)
    (cancelling : state.fetchPhase? fetch = some .cancelling) :
    state.step service (.turn given) =
      State.finishFetch fetch .cancelled { state with agenda := rest } := by
  obtain ⟨⟨key, phase, waiters⟩, present, same⟩ := Option.map_eq_some_iff.mp cancelling
  obtain rfl : phase = .cancelling := same
  have there : State.fetch? { state with agenda := rest } fetch =
      some ⟨key, .cancelling, waiters⟩ := present
  rw [step_fetch_turn state service agenda, runFetch, there]

end State

open State

inductive FetchChange (service : Service World Key Stage Reply Record Output)
    (state after : State World Key Stage Reply Record Output) (fetch : Nat) : Prop where
  | kept (phase : after.fetchPhase? fetch = state.fetchPhase? fetch)
      (due : state.Owes (.fetch fetch) → .fetch fetch ∈ state.agenda →
        .fetch fetch ∈ after.agenda)
  | opened (caller : Nat) (phase : CallerPhase Stage Record Output) (key : Key) (stage : Stage)
      (absent : state.fetch? fetch = none)
      (proceeds : Proceeds service state after caller phase (.await key stage))
      (present : after.fetch? fetch = some ⟨key, .scheduled, [caller]⟩)
      (due : .fetch fetch ∈ after.agenda)
  | began (turn : state.agenda.head? = some (.fetch fetch))
      (scheduled : state.fetchPhase? fetch = some .scheduled)
      (phase : after.fetchPhase? fetch = some .waiting)
  | answered (reply : Reply) (waiting : state.fetchPhase? fetch = some .waiting)
      (phase : after.fetchPhase? fetch = some (.answered reply))
      (due : .fetch fetch ∈ after.agenda)
  | cancelled (old : FetchPhase Reply Record) (present : state.fetchPhase? fetch = some old)
      (pending : old.isFinished = false)
      (phase : after.fetchPhase? fetch = some .cancelling)
      (due : (state.Owes (.fetch fetch) → .fetch fetch ∈ state.agenda) →
        .fetch fetch ∈ after.agenda)
  | completed (found : Fetch Key Reply Record) (given : Option Reply) (reply : Reply)
      (turn : state.agenda.head? = some (.fetch fetch))
      (present : state.fetch? fetch = some found)
      (replied : found.phase.reply? given = some reply)
      (world : after.world = (service.accept found.key reply state.world).1)
      (phase : after.fetchPhase? fetch =
        some (.finished (.ofExcept (service.accept found.key reply state.world).2)))
      (due : ∀ waiter ∈ found.waiters, .deliver fetch waiter ∈ after.agenda)
  | aborted (found : Fetch Key Reply Record) (turn : state.agenda.head? = some (.fetch fetch))
      (present : state.fetch? fetch = some found) (cancelling : found.phase = .cancelling)
      (phase : after.fetchPhase? fetch = some (.finished .cancelled))
      (due : ∀ waiter ∈ found.waiters, .deliver fetch waiter ∈ after.agenda)

section Next

variable [BEq Key] {outside : Outside World}
    {service : Service World Key Stage Reply Record Output}
    {state after : State World Key Stage Reply Record Output}

omit [BEq Key] in
theorem deliver_mem_finishFetch {fetch waiter : Nat} {found : Fetch Key Reply Record}
    (ending : Ending Record) (present : state.fetch? fetch = some found)
    (member : waiter ∈ found.waiters) :
    .deliver fetch waiter ∈ (state.finishFetch fetch ending).agenda := by
  simp [finishFetch, schedule, present, member]

theorem Next.fetch (next : Next outside service state after) (fetch : Nat) :
    FetchChange service state after fetch := by
  cases next with
  | answered other reply waiting =>
      by_cases here : fetch = other
      · subst here
        exact .answered reply waiting (fetchPhase?_setFetch_self state waiting _)
          (by simp [schedule])
      · refine .kept (fetchPhase?_setFetch_of_ne state here _) fun _ due => ?_
        simp [schedule, setFetch, due]
  | fetchStopped other waiting =>
      by_cases here : fetch = other
      · subst here
        exact .cancelled .waiting waiting rfl (fetchPhase?_setFetch_self state waiting _)
          fun _ => by simp [schedule]
      · refine .kept (fetchPhase?_setFetch_of_ne state here _) fun _ due => ?_
        simp [schedule, setFetch, due]
  | fetchDropped other pending =>
      by_cases here : fetch = other
      · subst here
        rcases pending with scheduled | ⟨reply, answered⟩
        · exact .cancelled .scheduled scheduled rfl (fetchPhase?_setFetch_self state scheduled _)
            fun owed => owed (.inl scheduled)
        · exact .cancelled (.answered reply) answered rfl
            (fetchPhase?_setFetch_self state answered _)
            fun owed => owed (.inr (.inr ⟨reply, answered⟩))
      · exact .kept (fetchPhase?_setFetch_of_ne state here _) fun _ due => due
  | passed due rest agenda settled remembers =>
      refine .kept rfl fun owed due => ?_
      rw [agenda] at due
      rcases List.mem_cons.mp due with head | later
      · exact absurd (head ▸ owed) settled
      · exact later
  | began other rest agenda scheduled =>
      by_cases here : fetch = other
      · subst here
        exact .began (by simp [agenda]) scheduled
          (fetchPhase?_setFetch_self { state with agenda := rest } scheduled _)
      · refine .kept (fetchPhase?_setFetch_of_ne _ here _) fun _ due => ?_
        simpa [setFetch, agenda, here] using due
  | completed other found given reply rest agenda present replied =>
      by_cases here : fetch = other
      · subst here
        refine .completed found given reply (by simp [agenda]) present replied rfl ?_ ?_
        · exact fetchPhase?_setFetch_self
            { state with agenda := rest, world := (service.accept found.key reply state.world).1 }
            (fetchPhase?_of_fetch? state present) _
        · intro waiter member
          exact deliver_mem_finishFetch _ present member
      · refine .kept (fetchPhase?_setFetch_of_ne _ here _) fun _ due => ?_
        simpa [complete, finishFetch, schedule, setFetch, agenda, here] using due
  | aborted other rest agenda cancelling =>
      by_cases here : fetch = other
      · subst here
        obtain ⟨found, present, phase⟩ := Option.map_eq_some_iff.mp cancelling
        refine .aborted found (by simp [agenda]) present phase ?_ ?_
        · exact fetchPhase?_setFetch_self { state with agenda := rest } cancelling _
        · intro waiter member
          exact deliver_mem_finishFetch _ present member
      · refine .kept (fetchPhase?_setFetch_of_ne _ here _) fun _ due => ?_
        simpa [finishFetch, schedule, setFetch, agenda, here] using due
  | joined caller phase world key stage other rest agenda present moves shared =>
      have phase :=
        fetchPhase?_join { state with agenda := rest, world := world } other caller fetch
      refine .kept phase fun _ due => ?_
      simpa [setCaller, join, agenda] using due
  | launched caller phase world key stage rest agenda there moves unshared =>
      by_cases here : fetch = state.fetches.length
      · subst here
        have proceeds : Proceeds service state
            ((State.launch key caller { state with agenda := rest, world := world }).setCaller caller
              (.waiting stage state.fetches.length)) caller phase (.await key stage) :=
          ⟨by simp [agenda], there, moves, launched_reached there⟩
        refine .opened caller phase key stage state.fetch?_length proceeds ?_ ?_
        · have launched := fetch?_launch { state with agenda := rest, world := world } key caller
            state.fetches.length
          simpa using launched
        · simp [setCaller, launch, schedule]
      · refine .kept (fetchPhase?_launch_of_ne { state with agenda := rest, world := world } here)
          fun _ due => ?_
        have later : .fetch fetch ∈ rest := by simpa [agenda] using due
        simp [setCaller, launch, schedule, later]
  | nothing => exact .kept rfl fun _ due => due
  | worldChanged world drifts => exact .kept rfl fun _ due => due
  | called stage notifies => exact .kept rfl fun _ due => by simp [call, schedule, due]
  | callerStopped caller stage other may waiting =>
      exact .kept rfl fun _ due => by simp [schedule, setCaller, due]
  | callerDropped caller reached may pending => exact .kept rfl fun _ due => due
  | forgot other rest agenda =>
      exact .kept rfl fun _ due => by simpa [State.forget, agenda] using due
  | told other caller stage ending rest agenda waiting finished =>
      exact .kept rfl fun _ due => by simpa [schedule, setCaller, agenda] using due
  | concluded caller phase world result rest agenda present moves =>
      refine .kept rfl fun _ due => ?_
      have later : .fetch fetch ∈ rest := by simpa [agenda] using due
      simp [schedule, setCaller, later]
  | departed caller phase world rest agenda present leaves =>
      exact .kept rfl fun _ due => by simpa [setCaller, agenda] using due
  | notified caller rest agenda => exact .kept rfl fun _ due => by simpa [agenda] using due

/-- A fetch keeps its key and its waiters. -/
theorem Next.fetch?_grows (next : Next outside service state after) {fetch : Nat}
    {found : Fetch Key Reply Record} (present : state.fetch? fetch = some found) :
    ∃ later, after.fetch? fetch = some later ∧ later.key = found.key ∧
      ∀ waiter ∈ found.waiters, waiter ∈ later.waiters := by
  have changed : ∀ (popped : State World Key Stage Reply Record Output)
      (other : Nat) (phase : FetchPhase Reply Record), popped.fetches = state.fetches →
      ∃ later, (popped.setFetch other phase).fetch? fetch = some later ∧ later.key = found.key ∧
        ∀ waiter ∈ found.waiters, waiter ∈ later.waiters := by
    intro popped other phase fetches
    have same : popped.fetch? fetch = some found := by
      rw [State.fetch?, fetches]
      exact present
    rw [fetch?_setFetch, same]
    refine ⟨_, rfl, ?_, ?_⟩ <;> split <;> simp
  cases next with
  | answered other reply waiting => exact changed state other _ rfl
  | fetchStopped other waiting => exact changed state other _ rfl
  | fetchDropped other pending => exact changed state other _ rfl
  | began other rest agenda scheduled => exact changed { state with agenda := rest } other _ rfl
  | completed other stored given reply rest agenda there replied =>
      exact changed
        { state with agenda := rest, world := (service.accept stored.key reply state.world).1 }
        other _ rfl
  | aborted other rest agenda cancelling => exact changed { state with agenda := rest } other _ rfl
  | joined caller phase world key stage other rest agenda there moves shared =>
      have joined := fetch?_join { state with agenda := rest, world := world } other caller fetch
      have same : State.fetch? { state with agenda := rest, world := world } fetch = some found :=
        present
      rw [same] at joined
      refine ⟨_, joined, ?_, ?_⟩ <;> split <;> simp +contextual
  | launched caller phase world key stage rest agenda there moves unshared =>
      have launched := fetch?_launch { state with agenda := rest, world := world } key caller fetch
      have old : fetch ≠ state.fetches.length := by
        rintro rfl
        simp [state.fetch?_length] at present
      rw [if_neg old] at launched
      exact ⟨found, launched.trans present, rfl, fun _ member => member⟩
  | _ => exact ⟨found, present, rfl, fun _ member => member⟩

theorem Next.fetchPhase?_finished (next : Next outside service state after) {fetch : Nat}
    {ending : Ending Record} (finished : state.fetchPhase? fetch = some (.finished ending)) :
    after.fetchPhase? fetch = some (.finished ending) := by
  cases next.fetch fetch with
  | kept phase due => exact phase.trans finished
  | opened caller phase key stage absent proceeds present due =>
      simp [fetchPhase?, absent] at finished
  | began turn scheduled phase => cases finished.symm.trans scheduled
  | answered reply waiting phase due => cases finished.symm.trans waiting
  | cancelled old present pending phase due =>
      cases finished.symm.trans present
      cases pending
  | completed found given reply turn present replied world phase due =>
      rw [fetchPhase?_of_fetch? state present] at finished
      rw [Option.some.inj finished] at replied
      cases replied
  | aborted found turn present cancelling phase due =>
      rw [fetchPhase?_of_fetch? state present, cancelling] at finished
      cases finished

/-- A caller that ends in its turn opens no fetch. -/
theorem Next.fetches_of_finish (next : Next outside service state after) {caller : Nat}
    {phase : CallerPhase Stage Record Output} {result : Except Error Output}
    (proceeds : Proceeds service state after caller phase (.finish result)) :
    after.fetches.length = state.fetches.length := by
  have absent : state.fetchPhase? state.fetches.length = none := by
    rw [State.fetchPhase?, state.fetch?_length]
    rfl
  have shorter : after.fetch? state.fetches.length = none := by
    cases next.fetch state.fetches.length with
    | kept phase due => exact Option.map_eq_none_iff.mp (phase.trans absent)
    | opened other otherPhase key stage missing asks present due =>
        -- The turn is that of one caller, which cannot both end and ask.
        cases Option.some.inj (asks.turn.symm.trans proceeds.turn)
        cases asks.present.symm.trans proceeds.present
        cases asks.moves.symm.trans proceeds.moves
    | began turn scheduled phase => cases absent.symm.trans scheduled
    | answered reply waiting phase due => cases absent.symm.trans waiting
    | cancelled old present pending phase due => cases absent.symm.trans present
    | completed found given reply turn present replied world phase due =>
        cases absent.symm.trans (fetchPhase?_of_fetch? state present)
    | aborted found turn present cancelling phase due =>
        cases absent.symm.trans (fetchPhase?_of_fetch? state present)
  have atMost : after.fetches.length ≤ state.fetches.length := List.getElem?_eq_none_iff.mp shorter
  refine Nat.le_antisymm atMost (Nat.le_of_not_lt fun fewer => ?_)
  have present : state.fetch? after.fetches.length = some state.fetches[after.fetches.length] :=
    List.getElem?_eq_getElem fewer
  obtain ⟨later, there, -⟩ := next.fetch?_grows present
  cases there.symm.trans after.fetch?_length

end Next

end FeatureFlags.Flight
