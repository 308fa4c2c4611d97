import FeatureFlags.Proofs.Flight.Registry

/-!
# What a step does to one caller

`Next.caller` looks at a step from a single caller: either the step leaves it alone, or it is
called, cancelled or told, or it takes its turn, in which it finishes or goes to wait for an
unfinished fetch of the key that it asked for.
-/

set_option autoImplicit false

namespace FeatureFlags.Flight

variable {World Key Stage Reply Record Output : Type}

namespace State

theorem ending?_eq_some_iff {state : State World Key Stage Reply Record Output} {caller : Nat}
    {ending : Ending Output} :
    state.ending? caller = some ending ↔
      state.callerPhase? caller = some (.finished ending) := by
  unfold ending?
  cases state.callerPhase? caller with
  | none => exact ⟨nofun, nofun⟩
  | some phase => cases phase <;> simp [CallerPhase.ending?]

variable (state : State World Key Stage Reply Record Output)

theorem callerPhase?_setCaller (caller other : Nat) (phase : CallerPhase Stage Record Output) :
    (state.setCaller caller phase).callerPhase? other =
      (state.callerPhase? other).map fun old => if caller = other then phase else old := by
  simp only [callerPhase?, caller?, setCaller, List.getElem?_modify, Option.map_eq_map,
    Option.map_map]
  congr 1
  funext found
  by_cases same : caller = other <;> simp [same]

theorem callerPhase?_setCaller_self {caller : Nat} {old : CallerPhase Stage Record Output}
    (present : state.callerPhase? caller = some old) (phase : CallerPhase Stage Record Output) :
    (state.setCaller caller phase).callerPhase? caller = some phase := by
  simp [callerPhase?_setCaller, present]

theorem callerPhase?_setCaller_of_ne {caller other : Nat} (differs : other ≠ caller)
    (phase : CallerPhase Stage Record Output) :
    (state.setCaller caller phase).callerPhase? other = state.callerPhase? other := by
  simp [callerPhase?_setCaller, Ne.symm differs]

omit state in
/-- A change at another place than the next one passes over an entry that comes last. -/
theorem modify_append_of_ne {Item : Type} {place : Nat} {items : List Item}
    (apart : place ≠ items.length) (change : Item → Item) (last : Item) :
    (items ++ [last]).modify place change = items.modify place change ++ [last] := by
  apply List.ext_getElem?
  intro other
  simp only [List.getElem?_modify, List.getElem?_append, List.length_modify]
  by_cases here : place = other
  · subst here
    by_cases inside : place < items.length
    · simp [inside]
    · have beyond : place - items.length ≠ 0 := by omega
      simp [inside, beyond]
  · simp [here]

theorem callerPhase?_length : state.callerPhase? state.callers.length = none := by
  simp [callerPhase?, caller?]

theorem caller?_call (stage : Stage) (notifies : Bool) (other : Nat) :
    (state.call stage notifies).caller? other =
      if other = state.callers.length then some ⟨.ready stage, notifies⟩
      else state.caller? other := by
  rcases Nat.lt_trichotomy other state.callers.length with less | same | more
  · simp [call, schedule, caller?, List.getElem?_append_left less, Nat.ne_of_lt less]
  · simp [call, schedule, caller?, same]
  · have beyond : (state.callers ++ [⟨.ready stage, notifies⟩])[other]? = none :=
      List.getElem?_eq_none (by rw [List.length_append]; exact more)
    have absent : state.callers[other]? = none := List.getElem?_eq_none (Nat.le_of_lt more)
    simp only [call, schedule, caller?, beyond, absent, Nat.ne_of_gt more, if_false]

theorem callerPhase?_call (stage : Stage) (notifies : Bool) (other : Nat) :
    (state.call stage notifies).callerPhase? other =
      if other = state.callers.length then some (.ready stage) else state.callerPhase? other := by
  unfold callerPhase?
  rw [caller?_call]
  split <;> rfl

end State

open State

/-- Where a caller stands after a move of its own. -/
def Reached (after : State World Key Stage Reply Record Output) (caller : Nat) :
    Move Key Stage Output → Prop
  | .finish result => after.callerPhase? caller = some (.finished (.ofExcept result))
  | .await key stage => ∃ fetch found, after.callerPhase? caller = some (.waiting stage fetch) ∧
      after.fetch? fetch = some found ∧ found.key = key ∧ found.phase.isFinished = false ∧
        caller ∈ found.waiters

structure Proceeds (service : Service World Key Stage Reply Record Output)
    (state after : State World Key Stage Reply Record Output) (caller : Nat)
    (phase : CallerPhase Stage Record Output) (move : Move Key Stage Output) : Prop where
  turn : state.agenda.head? = some (.caller caller)
  present : state.callerPhase? caller = some phase
  moves : phase.proceed? service state.world = some (after.world, move)
  reached : Reached after caller move

inductive CallerChange (outside : Outside World)
    (service : Service World Key Stage Reply Record Output)
    (state after : State World Key Stage Reply Record Output) (caller : Nat) : Prop where
  | kept (phase : after.callerPhase? caller = state.callerPhase? caller)
      (due : state.Owes (.caller caller) → .caller caller ∈ state.agenda →
        .caller caller ∈ after.agenda)
  | called (stage : Stage) (absent : state.callerPhase? caller = none)
      (phase : after.callerPhase? caller = some (.ready stage))
      (due : .caller caller ∈ after.agenda)
  | cancelled (reached : Option Stage) (may : outside.mayCancel caller)
      (pending : (reached = none ∧ ∃ stage, state.callerPhase? caller = some (.ready stage)) ∨
        ∃ stage fetch, reached = some stage ∧
          (state.callerPhase? caller = some (.waiting stage fetch) ∨
            ∃ ending, state.callerPhase? caller = some (.woken stage fetch ending)))
      (phase : after.callerPhase? caller = some (.leaving reached))
      (due : (state.Owes (.caller caller) → .caller caller ∈ state.agenda) →
        .caller caller ∈ after.agenda)
      (world : after.world = state.world)
  | told (stage : Stage) (fetch : Nat) (ending : Ending Record)
      (waiting : state.callerPhase? caller = some (.waiting stage fetch))
      (finished : state.fetchPhase? fetch = some (.finished ending))
      (phase : after.callerPhase? caller = some (.woken stage fetch ending))
      (due : .caller caller ∈ after.agenda)
  | proceeded (phase : CallerPhase Stage Record Output) (move : Move Key Stage Output)
      (proceeds : Proceeds service state after caller phase move)
  | departed (phase : CallerPhase Stage Record Output)
      (turn : state.agenda.head? = some (.caller caller))
      (present : state.callerPhase? caller = some phase)
      (leaves : phase.leave? service state.world = some after.world)
      (ended : after.callerPhase? caller = some (.finished .cancelled))

section Next

variable [DecidableEq Key] {outside : Outside World}
    {service : Service World Key Stage Reply Record Output}
    {state after : State World Key Stage Reply Record Output}

omit [DecidableEq Key] in
theorem Reached.phase {caller : Nat} {move : Move Key Stage Output}
    (reached : Reached after caller move) :
    (∃ ending, after.callerPhase? caller = some (.finished ending)) ∨
      ∃ key stage fetch found, move = .await key stage ∧
        after.callerPhase? caller = some (.waiting stage fetch) ∧
          after.fetch? fetch = some found ∧ found.phase.isFinished = false ∧
            caller ∈ found.waiters := by
  cases move with
  | finish result => exact .inl ⟨_, reached⟩
  | await key stage =>
      obtain ⟨fetch, found, waits, there, -, unfinished, member⟩ := reached
      exact .inr ⟨key, stage, fetch, found, rfl, waits, there, unfinished, member⟩

omit [DecidableEq Key] in
theorem joined_reached {key : Key} {stage : Stage} {fetch caller : Nat} {world : World}
    {rest : List Turn} {phase : CallerPhase Stage Record Output}
    (present : state.callerPhase? caller = some phase) (unfinished : state.Unfinished key fetch) :
    Reached
      ((State.join fetch caller { state with agenda := rest, world := world }).setCaller caller
        (.waiting stage fetch)) caller (.await key stage) := by
  obtain ⟨found, here, status⟩ := Option.map_eq_some_iff.mp unfinished
  refine ⟨fetch, { found with waiters := found.waiters ++ [caller] }, ?_, ?_, ?_, ?_, ?_⟩
  · exact callerPhase?_setCaller_self _ present _
  · have joined := fetch?_join { state with agenda := rest, world := world } fetch caller fetch
    have same : State.fetch? { state with agenda := rest, world := world } fetch = some found :=
      here
    rw [same] at joined
    simpa using joined
  · exact congrArg Prod.fst status
  · exact congrArg Prod.snd status
  · simp

omit [DecidableEq Key] in
theorem launched_reached [BEq Key] {key : Key} {stage : Stage} {caller : Nat} {world : World}
    {rest : List Turn} {phase : CallerPhase Stage Record Output}
    (present : state.callerPhase? caller = some phase) :
    Reached
      ((State.launch key caller { state with agenda := rest, world := world }).setCaller caller
        (.waiting stage state.fetches.length)) caller (.await key stage) := by
  refine ⟨state.fetches.length, ⟨key, .scheduled, [caller]⟩, ?_, ?_, rfl, rfl, ?_⟩
  · exact callerPhase?_setCaller_self _ present _
  · have launched := fetch?_launch { state with agenda := rest, world := world } key caller
      state.fetches.length
    simpa using launched
  · simp

theorem Next.caller (registered : Registered state) (next : Next outside service state after)
    (caller : Nat) : CallerChange outside service state after caller := by
  cases next with
  | called stage notifies =>
      by_cases new : caller = state.callers.length
      · subst new
        refine .called stage state.callerPhase?_length ?_ ?_
        · simp [callerPhase?_call]
        · simp [call, schedule]
      · refine .kept (by simp [callerPhase?_call, new]) fun _ due => ?_
        simp [call, schedule, due]
  | callerStopped other stage fetch may waiting =>
      by_cases here : caller = other
      · subst here
        refine .cancelled (some stage) may (.inr ⟨stage, fetch, rfl, .inl waiting⟩) ?_ ?_ rfl
        · exact callerPhase?_setCaller_self state waiting _
        · simp [schedule]
      · refine .kept (callerPhase?_setCaller_of_ne state here _) fun _ due => ?_
        simp [schedule, setCaller, due]
  | callerDropped other reached may pending =>
      by_cases here : caller = other
      · subst here
        rcases pending with ⟨rfl, stage, ready⟩ | ⟨stage, fetch, ending, rfl, woken⟩
        · exact .cancelled none may (.inl ⟨rfl, stage, ready⟩)
            (callerPhase?_setCaller_self state ready _) (fun owed => owed (.inl ⟨stage, ready⟩)) rfl
        · exact .cancelled (some stage) may (.inr ⟨stage, fetch, rfl, .inr ⟨ending, woken⟩⟩)
            (callerPhase?_setCaller_self state woken _)
            (fun owed => owed (.inr (.inl ⟨stage, fetch, ending, woken⟩))) rfl
      · exact .kept (callerPhase?_setCaller_of_ne state here _) fun _ due => due
  | passed due rest agenda settled remembers =>
      refine .kept rfl fun owed due => ?_
      rw [agenda] at due
      rcases List.mem_cons.mp due with head | later
      · exact absurd (head ▸ owed) settled
      · exact later
  | told fetch other stage ending rest agenda waiting finished =>
      by_cases here : caller = other
      · subst here
        refine .told stage fetch ending waiting finished ?_ ?_
        · exact callerPhase?_setCaller_self { state with agenda := rest } waiting _
        · simp [schedule]
      · refine .kept (callerPhase?_setCaller_of_ne _ here _) fun _ due => ?_
        simpa [schedule, setCaller, agenda, here] using due
  | concluded other phase world result rest agenda present moves =>
      by_cases here : caller = other
      · subst here
        refine .proceeded phase (.finish result) ⟨by simp [agenda], present, moves, ?_⟩
        exact callerPhase?_setCaller_self { state with agenda := rest, world := world } present _
      · refine .kept (callerPhase?_setCaller_of_ne _ here _) fun _ due => ?_
        have later : .caller caller ∈ rest := by simpa [agenda, here] using due
        simp [schedule, setCaller, later]
  | joined other phase world key stage fetch rest agenda present moves shared =>
      by_cases here : caller = other
      · subst here
        refine .proceeded phase (.await key stage) ⟨by simp [agenda], present, moves, ?_⟩
        exact joined_reached present ((registered.open?_eq_some_iff key fetch).mp shared)
      · refine .kept (callerPhase?_setCaller_of_ne _ here _) fun _ due => ?_
        simpa [setCaller, join, agenda, here] using due
  | launched other phase world key stage rest agenda present moves unshared =>
      by_cases here : caller = other
      · subst here
        refine .proceeded phase (.await key stage) ⟨by simp [agenda], present, moves, ?_⟩
        exact launched_reached present
      · refine .kept (callerPhase?_setCaller_of_ne _ here _) fun _ due => ?_
        simpa [setCaller, launch, schedule, agenda, here] using due
  | departed other phase world rest agenda present leaves =>
      by_cases here : caller = other
      · subst here
        refine .departed phase (by simp [agenda]) present leaves ?_
        exact callerPhase?_setCaller_self { state with agenda := rest, world := world } present _
      · refine .kept (callerPhase?_setCaller_of_ne _ here _) fun _ due => ?_
        simpa [setCaller, agenda, here] using due
  | nothing => exact .kept rfl fun _ due => due
  | worldChanged world drifts => exact .kept rfl fun _ due => due
  | answered fetch reply waiting => exact .kept rfl fun _ due => by simp [schedule, setFetch, due]
  | fetchStopped fetch waiting => exact .kept rfl fun _ due => by simp [schedule, setFetch, due]
  | fetchDropped fetch pending => exact .kept rfl fun _ due => due
  | began fetch rest agenda scheduled =>
      exact .kept rfl fun _ due => by simpa [setFetch, agenda] using due
  | completed fetch found given reply rest agenda present replied =>
      refine .kept rfl fun _ due => ?_
      simpa [complete, finishFetch, schedule, setFetch, agenda] using due
  | aborted fetch rest agenda cancelling =>
      refine .kept rfl fun _ due => ?_
      simpa [finishFetch, schedule, setFetch, agenda] using due
  | forgot fetch rest agenda =>
      exact .kept rfl fun _ due => by simpa [State.forget, agenda] using due
  | notified other rest agenda => exact .kept rfl fun _ due => by simpa [agenda] using due

end Next

end FeatureFlags.Flight
