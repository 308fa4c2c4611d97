import FeatureFlags.Proofs.Flight.History

/-!
# Turns are due once and in order

`Next.agenda` says what a step does to the agenda: it adds turns at the end, and a turn takes the
first one away.  Hence in a reachable state a caller has a turn exactly when it owes one, and then
only one; the turn of a caller that has been told of an ending is behind all that are still to be
told of it; and a callback is due, or has been called, only for a caller that has ended other than
cancelled (`Punctual`).
-/

set_option autoImplicit false

namespace FeatureFlags.Flight

variable {World Key Stage Reply Record Output : Type}

open State

inductive Added (state after : State World Key Stage Reply Record Output) : List Turn → Prop where
  | nothing : Added state after []
  | fetch (fetch : Nat) : Added state after [.fetch fetch]
  | caller (caller : Nat) (idle : ¬state.Owes (.caller caller))
      (owes : after.Owes (.caller caller)) : Added state after [.caller caller]
  | ended (fetch : Nat) (waiters : List Nat)
      (open' : ∀ ending, state.fetchPhase? fetch ≠ some (.finished ending)) :
      Added state after (.forget fetch :: waiters.map (.deliver fetch ·))
  | notice (caller : Nat) (result : Except Error Output)
      (finished : after.callerPhase? caller = some (.finished (.ofExcept result))) :
      Added state after [.notify caller]

/-- What a step does to the agenda: a turn takes away the first entry, and all else comes last. -/
inductive AgendaChange (state after : State World Key Stage Reply Record Output) : Prop where
  | of (popped : Option Turn) (old added : List Turn) (before : state.agenda = popped.toList ++ old)
      (adds : Added state after added) (agenda : after.agenda = old ++ added)
      (notified : after.notified = state.notified ∨
        ∃ caller, popped = some (.notify caller) ∧ after.notified = state.notified ++ [caller])
      (keeps : ∀ caller, popped ≠ some (.caller caller) → state.Owes (.caller caller) →
        after.Owes (.caller caller))

section AgendaChange

variable {state after : State World Key Stage Reply Record Output}

theorem AgendaChange.grew (added : List Turn) (adds : Added state after added)
    (agenda : after.agenda = state.agenda ++ added) (notified : after.notified = state.notified)
    (keeps : ∀ caller, state.Owes (.caller caller) → after.Owes (.caller caller)) :
    AgendaChange state after :=
  .of none state.agenda added rfl adds agenda (.inl notified) fun caller _ => keeps caller

theorem AgendaChange.took (due : Turn) (rest added : List Turn)
    (before : state.agenda = due :: rest) (adds : Added state after added)
    (agenda : after.agenda = rest ++ added)
    (notified : after.notified = state.notified ∨
      ∃ caller, due = .notify caller ∧ after.notified = state.notified ++ [caller])
    (keeps : ∀ caller, due ≠ .caller caller → state.Owes (.caller caller) →
      after.Owes (.caller caller)) : AgendaChange state after := by
  refine .of (some due) rest added before adds agenda (notified.imp_right ?_) fun caller other =>
    keeps caller fun same => other (congrArg some same)
  rintro ⟨caller, rfl, called⟩
  exact ⟨caller, rfl, called⟩

theorem Added.caller_mem {added : List Turn} (adds : Added state after added) {caller : Nat}
    (member : .caller caller ∈ added) :
    ¬state.Owes (.caller caller) ∧ after.Owes (.caller caller) := by
  cases adds with
  | nothing => cases member
  | fetch fetch => simp at member
  | caller other idle owes =>
      obtain rfl : caller = other := by simpa using member
      exact ⟨idle, owes⟩
  | ended fetch waiters open' => simp at member
  | notice other result finished => simp at member

theorem Added.count_caller {added : List Turn} (adds : Added state after added) (caller : Nat) :
    added.count (.caller caller) ≤ 1 := by
  cases adds with
  | nothing => simp
  | fetch fetch => simp
  | caller other idle owes => exact List.count_le_length
  | ended fetch waiters open' =>
      have absent : Turn.caller caller ∉ Turn.forget fetch :: waiters.map (.deliver fetch ·) := by
        simp
      rw [List.count_eq_zero_of_not_mem absent]
      exact Nat.zero_le 1
  | notice other result finished => simp

theorem Added.deliver_mem {added : List Turn} (adds : Added state after added) {fetch waiter : Nat}
    (member : .deliver fetch waiter ∈ added) (ending : Ending Record) :
    state.fetchPhase? fetch ≠ some (.finished ending) := by
  cases adds with
  | nothing => cases member
  | fetch other => simp at member
  | caller other idle owes => simp at member
  | ended other waiters open' =>
      obtain ⟨-, rfl⟩ : waiter ∈ waiters ∧ other = fetch := by simpa using member
      exact open' ending
  | notice other result finished => simp at member

theorem Added.notify_mem {added : List Turn} (adds : Added state after added) {caller : Nat}
    (member : .notify caller ∈ added) :
    ∃ result, after.callerPhase? caller = some (.finished (.ofExcept result)) := by
  cases adds with
  | nothing => cases member
  | fetch fetch => simp at member
  | caller other idle owes => simp at member
  | ended fetch waiters open' => simp at member
  | notice other result finished =>
      obtain rfl : caller = other := by simpa using member
      exact ⟨result, finished⟩

end AgendaChange

section Next

variable {state after : State World Key Stage Reply Record Output}

theorem owes_caller_of_phase {caller : Nat}
    (phase : after.callerPhase? caller = state.callerPhase? caller)
    (owes : state.Owes (.caller caller)) : after.Owes (.caller caller) := by
  simpa only [Owes, phase] using owes

theorem not_owes_of_waiting {caller fetch : Nat} {stage : Stage}
    (waiting : state.callerPhase? caller = some (.waiting stage fetch)) :
    ¬state.Owes (.caller caller) := by
  simp [Owes, waiting]

theorem not_finished_of_reply {given : Option Reply} {reply : Reply} {fetch : Nat}
    {found : Fetch Key Reply Record} (present : state.fetch? fetch = some found)
    (replied : found.phase.reply? given = some reply) (ending : Ending Record) :
    state.fetchPhase? fetch ≠ some (.finished ending) := by
  intro finished
  rw [fetchPhase?_of_fetch? state present] at finished
  rw [Option.some.inj finished] at replied
  cases replied

variable [BEq Key] {outside : Outside World}
    {service : Service World Key Stage Reply Record Output}

theorem Next.agenda (next : Next outside service state after) : AgendaChange state after := by
  cases next with
  | nothing => exact .grew [] .nothing (List.append_nil _).symm rfl fun _ owes => owes
  | worldChanged world drifts =>
      exact .grew [] .nothing (List.append_nil _).symm rfl fun _ owes => owes
  | called stage notifies =>
      refine .grew _ (.caller state.callers.length ?_ (.inl ⟨stage, ?_⟩)) rfl rfl
        fun other owes => ?_
      · simp [Owes, callerPhase?_length]
      · simp [callerPhase?_call]
      · refine owes_caller_of_phase ?_ owes
        have old : other ≠ state.callers.length := by
          rintro rfl
          simp [Owes, callerPhase?_length] at owes
        simp [callerPhase?_call, old]
  | answered fetch reply waiting => exact .grew _ (.fetch fetch) rfl rfl fun _ owes => owes
  | fetchStopped fetch waiting => exact .grew _ (.fetch fetch) rfl rfl fun _ owes => owes
  | fetchDropped fetch pending =>
      exact .grew [] .nothing (List.append_nil _).symm rfl fun _ owes => owes
  | callerStopped caller stage fetch may waiting =>
      have leaving := callerPhase?_setCaller_self state waiting (.leaving (some stage))
      refine .grew _ (.caller caller (not_owes_of_waiting waiting) (.inr (.inr ⟨_, leaving⟩)))
        rfl rfl fun other owes => ?_
      by_cases here : other = caller
      · subst here
        exact .inr (.inr ⟨_, leaving⟩)
      · exact owes_caller_of_phase (callerPhase?_setCaller_of_ne state here _) owes
  | callerDropped caller reached may pending =>
      refine .grew [] .nothing (List.append_nil _).symm rfl fun other owes => ?_
      by_cases here : other = caller
      · subst here
        rcases pending with ⟨-, stage, ready⟩ | ⟨stage, fetch, ending, -, woken⟩
        · exact .inr (.inr ⟨_, callerPhase?_setCaller_self state ready _⟩)
        · exact .inr (.inr ⟨_, callerPhase?_setCaller_self state woken _⟩)
      · exact owes_caller_of_phase (callerPhase?_setCaller_of_ne state here _) owes
  | passed due rest agenda settled remembers =>
      exact .took due rest [] agenda .nothing (List.append_nil _).symm (.inl rfl)
        fun _ _ owes => owes
  | began fetch rest agenda scheduled =>
      exact .took _ rest [] agenda .nothing (List.append_nil _).symm (.inl rfl)
        fun _ _ owes => owes
  | completed fetch found given reply rest agenda present replied =>
      exact .took _ rest _ agenda (.ended fetch _ (not_finished_of_reply present replied)) rfl
        (.inl rfl) fun _ _ owes => owes
  | aborted fetch rest agenda cancelling =>
      refine .took _ rest _ agenda (.ended fetch _ fun ending finished => ?_) rfl (.inl rfl)
        fun _ _ owes => owes
      cases cancelling.symm.trans finished
  | forgot fetch rest agenda =>
      exact .took _ rest [] agenda .nothing (List.append_nil _).symm (.inl rfl)
        fun _ _ owes => owes
  | told fetch caller stage ending rest agenda waiting finished =>
      have woken := callerPhase?_setCaller_self { state with agenda := rest } waiting
        (.woken stage fetch ending)
      refine .took _ rest _ agenda
        (.caller caller (not_owes_of_waiting waiting) (.inr (.inl ⟨_, _, _, woken⟩))) rfl (.inl rfl)
        fun other _ owes => ?_
      by_cases here : other = caller
      · subst here
        exact .inr (.inl ⟨_, _, _, woken⟩)
      · exact owes_caller_of_phase (callerPhase?_setCaller_of_ne _ here _) owes
  | concluded caller phase world result rest agenda present moves =>
      have ended := callerPhase?_setCaller_self { state with agenda := rest, world := world }
        present (.finished (.ofExcept result))
      have keeps : ∀ other, Turn.caller caller ≠ .caller other → state.Owes (.caller other) →
          ((State.setCaller caller (.finished (.ofExcept result))
            { state with agenda := rest, world := world }).schedule
              (state.notices caller)).Owes (.caller other) := by
        intro other differs owes
        have apart : other ≠ caller := fun same => differs (congrArg Turn.caller same.symm)
        exact owes_caller_of_phase (callerPhase?_setCaller_of_ne _ apart _) owes
      refine .took _ rest (state.notices caller) agenda ?_ rfl (.inl rfl) keeps
      unfold notices
      split
      · exact .notice caller result ended
      · exact .nothing
  | joined caller phase world key stage fetch rest agenda present moves shared =>
      refine .took _ rest [] agenda .nothing (List.append_nil _).symm (.inl rfl)
        fun other differs owes => ?_
      have apart : other ≠ caller := fun same => differs (congrArg Turn.caller same.symm)
      exact owes_caller_of_phase (callerPhase?_setCaller_of_ne _ apart _) owes
  | launched caller phase world key stage rest agenda present moves unshared =>
      refine .took _ rest _ agenda (.fetch state.fetches.length) rfl (.inl rfl)
        fun other differs owes => ?_
      have apart : other ≠ caller := fun same => differs (congrArg Turn.caller same.symm)
      exact owes_caller_of_phase (callerPhase?_setCaller_of_ne _ apart _) owes
  | departed caller phase world rest agenda present leaves =>
      refine .took _ rest [] agenda .nothing (List.append_nil _).symm (.inl rfl)
        fun other differs owes => ?_
      have apart : other ≠ caller := fun same => differs (congrArg Turn.caller same.symm)
      exact owes_caller_of_phase (callerPhase?_setCaller_of_ne _ apart _) owes
  | notified caller rest agenda =>
      exact .took _ rest [] agenda .nothing (List.append_nil _).symm (.inr ⟨caller, rfl, rfl⟩)
        fun _ _ owes => owes

end Next

/-! ## Reachable states -/

structure Punctual (state : State World Key Stage Reply Record Output) : Prop where
  once : ∀ caller, state.agenda.count (.caller caller) ≤ 1
  owed : ∀ caller, .caller caller ∈ state.agenda → state.Owes (.caller caller)
  behind : ∀ caller stage fetch ending,
    state.callerPhase? caller = some (.woken stage fetch ending) →
      ∃ before after, state.agenda = before ++ .caller caller :: after ∧
        ∀ waiter, .deliver fetch waiter ∉ after
  announced : ∀ caller, .notify caller ∈ state.agenda ∨ caller ∈ state.notified →
    ∃ result, state.callerPhase? caller = some (.finished (.ofExcept result))

theorem punctual_start (world : World) :
    Punctual (State.start world : State World Key Stage Reply Record Output) where
  once caller := Nat.zero_le 1
  owed caller member := by cases member
  behind caller stage fetch ending woken := by cases woken
  announced caller due := by rcases due with due | due <;> cases due

section Punctual

variable [DecidableEq Key] {outside : Outside World}
    {service : Service World Key Stage Reply Record Output}
    {state after : State World Key Stage Reply Record Output}

theorem Punctual.once_next (punctual : Punctual state) (next : Next outside service state after)
    (caller : Nat) : after.agenda.count (.caller caller) ≤ 1 := by
  obtain ⟨popped, old, added, before, adds, agenda, -, -⟩ := next.agenda
  rw [agenda, List.count_append]
  by_cases member : .caller caller ∈ added
  · have idle := (adds.caller_mem member).1
    have absent : .caller caller ∉ old := fun due =>
      idle (punctual.owed caller (before ▸ List.mem_append_right _ due))
    have nothing := List.count_eq_zero_of_not_mem absent
    have few := adds.count_caller caller
    omega
  · have nothing := List.count_eq_zero_of_not_mem member
    have few := punctual.once caller
    rw [before, List.count_append] at few
    omega

omit [DecidableEq Key] in
/-- Who takes its turn has no other turn left. -/
theorem Punctual.not_mem_rest (punctual : Punctual state) {caller : Nat} {rest : List Turn}
    (agenda : state.agenda = .caller caller :: rest) : .caller caller ∉ rest := by
  intro member
  have few := punctual.once caller
  rw [agenda, List.count_cons_self] at few
  have another := List.count_pos_iff.mpr member
  omega

theorem Punctual.owed_next (punctual : Punctual state) (next : Next outside service state after)
    {caller : Nat} (due : .caller caller ∈ after.agenda) : after.Owes (.caller caller) := by
  obtain ⟨popped, old, added, before, adds, agenda, -, keeps⟩ := next.agenda
  rw [agenda] at due
  rcases List.mem_append.mp due with member | member
  · refine keeps caller ?_ (punctual.owed caller (before ▸ List.mem_append_right _ member))
    rintro rfl
    exact punctual.not_mem_rest before member
  · exact (adds.caller_mem member).2

theorem Punctual.behind_kept (punctual : Punctual state) (attended : Attended state)
    (next : Next outside service state after) {caller fetch : Nat} {stage : Stage}
    {ending : Ending Record}
    (woken : state.callerPhase? caller = some (.woken stage fetch ending))
    (still : .caller caller ∈ after.agenda) :
    ∃ before after', after.agenda = before ++ .caller caller :: after' ∧
      ∀ waiter, .deliver fetch waiter ∉ after' := by
  obtain ⟨earlier, later, due, clear⟩ := punctual.behind caller stage fetch ending woken
  obtain ⟨popped, old, added, before, adds, agenda, -, -⟩ := next.agenda
  have clearAdded : ∀ waiter, .deliver fetch waiter ∉ later ++ added := by
    intro waiter member
    rcases List.mem_append.mp member with member | member
    · exact clear waiter member
    · exact adds.deliver_mem member ending (attended.told caller stage fetch ending woken)
  rw [before] at due
  cases popped with
  | none =>
      have rest : old = earlier ++ .caller caller :: later := due
      refine ⟨earlier, later ++ added, ?_, clearAdded⟩
      rw [agenda, rest, List.append_assoc]
      rfl
  | some first =>
      cases earlier with
      | nil =>
          -- The caller takes its turn, and gets no new one in the same step.
          obtain ⟨rfl, -⟩ : first = .caller caller ∧ old = later := by simpa using due
          rw [agenda] at still
          rcases List.mem_append.mp still with member | member
          · exact absurd member (punctual.not_mem_rest before)
          · exact absurd (.inr (.inl ⟨stage, fetch, ending, woken⟩)) (adds.caller_mem member).1
      | cons head earlier =>
          obtain ⟨-, rest⟩ : first = head ∧ old = earlier ++ .caller caller :: later := by
            simpa using due
          refine ⟨earlier, later ++ added, ?_, clearAdded⟩
          rw [agenda, rest, List.append_assoc]
          rfl

theorem Punctual.behind_told (punctual : Punctual state)
    (next : Next outside service state after) {caller fetch : Nat} {stage : Stage}
    (waiting : state.callerPhase? caller = some (.waiting stage fetch))
    (due : .caller caller ∈ after.agenda) :
    ∃ before, after.agenda = before ++ [.caller caller] := by
  obtain ⟨popped, old, added, before, adds, agenda, -, -⟩ := next.agenda
  rw [agenda] at due ⊢
  rcases List.mem_append.mp due with member | member
  · have owes := punctual.owed caller (before ▸ List.mem_append_right _ member)
    exact absurd owes (not_owes_of_waiting waiting)
  · cases adds with
    | caller other idle owes =>
        obtain rfl : caller = other := by simpa using member
        exact ⟨old, rfl⟩
    | nothing => cases member
    | fetch other => simp at member
    | ended other waiters open' => simp at member
    | notice other result finished => simp at member

theorem Punctual.behind_next (punctual : Punctual state) (registered : Registered state)
    (attended : Attended state) (next : Next outside service state after) {caller fetch : Nat}
    {stage : Stage} {ending : Ending Record}
    (woken : after.callerPhase? caller = some (.woken stage fetch ending)) :
    ∃ before after', after.agenda = before ++ .caller caller :: after' ∧
      ∀ waiter, .deliver fetch waiter ∉ after' := by
  cases next.caller registered caller with
  | kept phase due =>
      have before := phase.symm.trans woken
      have owes : state.Owes (.caller caller) := .inr (.inl ⟨stage, fetch, ending, before⟩)
      exact punctual.behind_kept attended next before (due owes (attended.owed _ owes))
  | called newStage absent phase due => cases woken.symm.trans phase
  | cancelled reached may pending phase due world => cases woken.symm.trans phase
  | told oldStage other oldEnding waiting finished phase due =>
      obtain ⟨before, agenda⟩ := punctual.behind_told next waiting due
      exact ⟨before, [], agenda, fun waiter => by simp⟩
  | proceeded phase move proceeds =>
      rcases proceeds.reached.phase with
        ⟨ended, finished⟩ | ⟨-, newStage, other, found, -, waits, -⟩
      · cases woken.symm.trans finished
      · cases woken.symm.trans waits
  | departed phase turn present leaves ended => cases woken.symm.trans ended

theorem Punctual.announced_next (punctual : Punctual state) (registered : Registered state)
    (next : Next outside service state after) {caller : Nat}
    (due : .notify caller ∈ after.agenda ∨ caller ∈ after.notified) :
    ∃ result, after.callerPhase? caller = some (.finished (.ofExcept result)) := by
  have kept : .notify caller ∈ state.agenda ∨ caller ∈ state.notified →
      ∃ result, after.callerPhase? caller = some (.finished (.ofExcept result)) := by
    intro before
    obtain ⟨result, finished⟩ := punctual.announced caller before
    exact ⟨result, next.callerPhase?_finished registered finished⟩
  obtain ⟨popped, old, added, before, adds, agenda, notified, -⟩ := next.agenda
  rcases due with due | called
  · rw [agenda] at due
    rcases List.mem_append.mp due with member | member
    · exact kept (.inl (before ▸ List.mem_append_right _ member))
    · exact adds.notify_mem member
  · rcases notified with same | ⟨other, rfl, same⟩
    · exact kept (.inr (same ▸ called))
    · rw [same] at called
      rcases List.mem_append.mp called with already | new
      · exact kept (.inr already)
      · rw [List.mem_singleton.mp new] at kept ⊢
        exact kept (.inl (before ▸ List.mem_cons_self))

theorem Punctual.next (punctual : Punctual state) (orderly : Orderly state)
    (next : Next outside service state after) : Punctual after where
  once := punctual.once_next next
  owed _ due := punctual.owed_next next due
  behind _ _ _ _ woken := punctual.behind_next orderly.registered orderly.attended next woken
  announced _ due := punctual.announced_next orderly.registered next due

omit [DecidableEq Key] in
theorem Punctual.not_due_of_waiting (punctual : Punctual state) {caller fetch : Nat}
    {stage : Stage} (waiting : state.callerPhase? caller = some (.waiting stage fetch)) :
    .caller caller ∉ state.agenda := fun due =>
  not_owes_of_waiting waiting (punctual.owed caller due)

omit [DecidableEq Key] in
/-- When a caller goes on with the ending of a fetch, everyone who waited for it has been told. -/
theorem Punctual.told_all (punctual : Punctual state) (attended : Attended state)
    {caller fetch : Nat} {stage : Stage} {ending : Ending Record}
    (turn : state.agenda.head? = some (.caller caller))
    (woken : state.callerPhase? caller = some (.woken stage fetch ending)) (other : Nat)
    (otherStage : Stage) : state.callerPhase? other ≠ some (.waiting otherStage fetch) := by
  intro waiting
  have finished := attended.told caller stage fetch ending woken
  have due := attended.owed (.deliver fetch other) ⟨otherStage, ending, waiting, finished⟩
  obtain ⟨rest, agenda⟩ := List.head?_eq_some_iff.mp turn
  obtain ⟨before, after, split, clear⟩ := punctual.behind caller stage fetch ending woken
  have onlyTurn := punctual.not_mem_rest agenda
  rw [agenda] at split due
  cases before with
  | nil =>
      obtain rfl : rest = after := by simpa using split
      rcases List.mem_cons.mp due with head | later
      · cases head
      · exact clear other later
  | cons head before =>
      obtain ⟨-, rfl⟩ : Turn.caller caller = head ∧ rest = before ++ .caller caller :: after := by
        simpa using split
      exact onlyTurn (List.mem_append_right _ List.mem_cons_self)

structure ToldAll (state : State World Key Stage Reply Record Output) (fetch : Nat)
    (ending : Ending Record) : Prop where
  ended : state.fetchPhase? fetch = some (.finished ending)
  nobody : ∀ caller stage, state.callerPhase? caller ≠ some (.waiting stage fetch)

omit [DecidableEq Key] in
theorem not_finished_of_open {fetch : Nat} {found : Fetch Key Reply Record}
    (there : state.fetch? fetch = some found) (open' : found.phase.isFinished = false)
    (ending : Ending Record) : state.fetchPhase? fetch ≠ some (.finished ending) := by
  intro finished
  rw [fetchPhase?_of_fetch? state there] at finished
  rw [Option.some.inj finished] at open'
  cases open'

omit [DecidableEq Key] in
/-- Who has just moved does not wait for a fetch that has ended. -/
theorem Reached.not_onHold {caller fetch : Nat} {move : Move Key Stage Output} {stage : Stage}
    {ending : Ending Record} (reached : Reached after caller move)
    (ended : after.fetchPhase? fetch = some (.finished ending)) :
    ¬OnHold after caller stage fetch := by
  intro onHold
  rcases reached.phase with
    ⟨other, finished⟩ | ⟨key, newStage, awaited, found, -, waits, there, open', -⟩
  · cases onHold.held? finished
  · cases onHold.held? waits
    exact not_finished_of_open there open' ending ended

theorem ToldAll.next {fetch : Nat} {ending : Ending Record} (told : ToldAll state fetch ending)
    (registered : Registered state) (next : Next outside service state after) :
    ToldAll after fetch ending where
  ended := next.fetchPhase?_finished told.ended
  nobody caller stage waiting := by
    rcases next.waiting registered waiting with before | ⟨found, there, unfinished, -⟩
    · exact told.nobody caller stage before
    · exact not_finished_of_open there unfinished ending (next.fetchPhase?_finished told.ended)

/-- Nobody goes to wait for a fetch that has ended. -/
theorem Next.not_onHold (next : Next outside service state after) (registered : Registered state)
    {caller fetch : Nat} {stage : Stage} {ending : Ending Record}
    (ended : state.fetchPhase? fetch = some (.finished ending))
    (free : ¬OnHold state caller stage fetch) : ¬OnHold after caller stage fetch := by
  intro onHold
  rcases next.onHold_before registered onHold with before | ⟨phase, key, proceeds⟩
  · exact free before
  · exact proceeds.reached.not_onHold (next.fetchPhase?_finished ended) onHold

end Punctual

namespace History

variable [DecidableEq Key] {outside : Outside World}
    {service : Service World Key Stage Reply Record Output}

theorem punctual (history : History outside service) (moment : Nat) :
    Punctual (history.state moment) := by
  induction moment with
  | zero =>
      obtain ⟨world, start⟩ := history.starts
      rw [start]
      exact punctual_start world
  | succ moment inductionHypothesis =>
      exact inductionHypothesis.next (history.orderly moment) (history.next moment)

end History

end FeatureFlags.Flight
