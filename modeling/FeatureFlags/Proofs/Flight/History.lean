import FeatureFlags.Proofs.Flight.Waiting

/-!
# Histories of shared fetches

A history is a sequence of states, each of which comes from the one before it by something that can
happen.  What has ended stays ended, a caller that was cancelled ends as cancelled, and between the
moment at which a caller goes to wait and the moment at which it goes on it waits for one and the
same fetch (`Awaits`); when it is handed a record, that fetch was accepted in between
(`History.accepts_of_awaits`).
-/

set_option autoImplicit false

namespace FeatureFlags.Flight

variable {World Key Stage Reply Record Output : Type}

open State

/-- The caller waits for the fetch, or it has been told of its ending and is still to go on. -/
def OnHold (state : State World Key Stage Reply Record Output) (caller : Nat) (stage : Stage)
    (fetch : Nat) : Prop :=
  state.callerPhase? caller = some (.waiting stage fetch) ∨
    ∃ ending, state.callerPhase? caller = some (.woken stage fetch ending)

def CallerPhase.held? : CallerPhase Stage Record Output → Option (Stage × Nat)
  | .waiting stage fetch => some (stage, fetch)
  | .woken stage fetch _ => some (stage, fetch)
  | _ => none

theorem OnHold.held? {state : State World Key Stage Reply Record Output} {caller fetch : Nat}
    {stage : Stage} (onHold : OnHold state caller stage fetch)
    {phase : CallerPhase Stage Record Output} (present : state.callerPhase? caller = some phase) :
    phase.held? = some (stage, fetch) := by
  rcases onHold with waiting | ⟨ending, woken⟩
  · cases present.symm.trans waiting
    rfl
  · cases present.symm.trans woken
    rfl

theorem onHold_of_held? {state : State World Key Stage Reply Record Output} {caller fetch : Nat}
    {stage : Stage}
    (held : (state.callerPhase? caller).bind CallerPhase.held? = some (stage, fetch)) :
    OnHold state caller stage fetch := by
  obtain ⟨phase, present, holds⟩ := Option.bind_eq_some_iff.mp held
  cases phase with
  | waiting other awaited =>
      cases holds
      exact .inl present
  | woken other awaited ending =>
      cases holds
      exact .inr ⟨ending, present⟩
  | ready other => cases holds
  | leaving reached => cases holds
  | finished ending => cases holds

/-- A fetch of a key ends in its turn: the service makes a record of its reply. -/
structure Accepts (service : Service World Key Stage Reply Record Output)
    (state after : State World Key Stage Reply Record Output) (key : Key) (fetch : Nat)
    (reply : Reply) (record : Record) : Prop where
  unfinished : state.Unfinished key fetch
  accepted : service.accept key reply state.world = (after.world, .ok record)
  finished : after.fetchPhase? fetch = some (.finished (.ok record))

/-- Between two moments a caller waits for a fetch of a key: it asks for the key in its turn at the
first one, and it goes on with the ending of the fetch in its turn at the second. -/
structure Awaits (service : Service World Key Stage Reply Record Output)
    (state : Nat → State World Key Stage Reply Record Output) (caller : Nat) (key : Key)
    (stage : Stage) (fetch asked : Nat) (ending : Ending Record) (returned : Nat) : Prop where
  order : asked < returned
  asks : ∃ phase, Proceeds service (state asked) (state (asked + 1)) caller phase (.await key stage)
  onHold : ∀ moment, asked < moment → moment ≤ returned → OnHold (state moment) caller stage fetch
  goesOn : ∃ move, Proceeds service (state returned) (state (returned + 1)) caller
    (.woken stage fetch ending) move

/-! ## Steps -/

section Next

variable [DecidableEq Key] {outside : Outside World}
    {service : Service World Key Stage Reply Record Output}
    {state after : State World Key Stage Reply Record Output}

theorem Next.callerPhase?_finished (next : Next outside service state after)
    (registered : Registered state) {caller : Nat} {ending : Ending Output}
    (finished : state.callerPhase? caller = some (.finished ending)) :
    after.callerPhase? caller = some (.finished ending) := by
  cases next.caller registered caller with
  | kept phase due => exact phase.trans finished
  | called stage absent phase due => cases absent.symm.trans finished
  | cancelled reached may pending phase due world =>
      rcases pending with ⟨-, stage, ready⟩ | ⟨stage, fetch, -, waiting | ⟨ending, woken⟩⟩
      · cases ready.symm.trans finished
      · cases waiting.symm.trans finished
      · cases woken.symm.trans finished
  | told stage fetch ending waiting ended phase due => cases waiting.symm.trans finished
  | proceeded phase move proceeds =>
      cases proceeds.present.symm.trans finished
      cases proceeds.moves
  | departed phase turn present leaves ended =>
      cases present.symm.trans finished
      cases leaves

/-- A caller that is leaving goes on leaving until it ends as cancelled. -/
theorem Next.callerPhase?_leaving (next : Next outside service state after)
    (registered : Registered state) {caller : Nat} {reached : Option Stage}
    (leaving : state.callerPhase? caller = some (.leaving reached)) :
    after.callerPhase? caller = some (.leaving reached) ∨
      after.callerPhase? caller = some (.finished .cancelled) := by
  cases next.caller registered caller with
  | kept phase due => exact .inl (phase.trans leaving)
  | called stage absent phase due => cases absent.symm.trans leaving
  | cancelled reached may pending phase due world =>
      rcases pending with ⟨-, stage, ready⟩ | ⟨stage, fetch, -, waiting | ⟨ending, woken⟩⟩
      · cases ready.symm.trans leaving
      · cases waiting.symm.trans leaving
      · cases woken.symm.trans leaving
  | told stage fetch ending waiting ended phase due => cases waiting.symm.trans leaving
  | proceeded phase move proceeds =>
      cases proceeds.present.symm.trans leaving
      cases proceeds.moves
  | departed phase turn present leaves ended => exact .inr ended

/-- A caller on hold stays so, unless it is cancelled or takes its turn. -/
theorem Next.onHold (next : Next outside service state after) (registered : Registered state)
    {caller fetch : Nat} {stage : Stage} (onHold : OnHold state caller stage fetch) :
    OnHold after caller stage fetch ∨
      (outside.mayCancel caller ∧ ∃ reached, after.callerPhase? caller = some (.leaving reached)) ∨
        ∃ ending, state.agenda.head? = some (.caller caller) ∧
          state.callerPhase? caller = some (.woken stage fetch ending) ∧
            ((ending = .cancelled ∧ after.callerPhase? caller = some (.finished .cancelled)) ∨
              ∃ move, Proceeds service state after caller (.woken stage fetch ending) move) := by
  cases next.caller registered caller with
  | kept phase due =>
      rw [OnHold, phase]
      exact .inl onHold
  | called newStage absent phase due =>
      rcases onHold with waiting | ⟨ending, woken⟩
      · cases absent.symm.trans waiting
      · cases absent.symm.trans woken
  | cancelled reached may pending phase due world => exact .inr (.inl ⟨may, reached, phase⟩)
  | told oldStage other ending waiting finished phase due =>
      cases onHold.held? waiting
      exact .inl (.inr ⟨ending, phase⟩)
  | proceeded phase move proceeds =>
      rcases onHold with waiting | ⟨ending, woken⟩
      · cases proceeds.present.symm.trans waiting
        cases proceeds.moves
      · cases proceeds.present.symm.trans woken
        exact .inr (.inr ⟨ending, proceeds.turn, woken, .inr ⟨move, proceeds⟩⟩)
  | departed phase turn present leaves ended =>
      rcases onHold with waiting | ⟨ending, woken⟩
      · cases present.symm.trans waiting
        cases leaves
      · have cancelled : ending = .cancelled := by
          cases present.symm.trans woken
          cases ending with
          | cancelled => rfl
          | ok record => cases leaves
          | failed error => cases leaves
        exact .inr (.inr ⟨ending, turn, woken, .inl ⟨cancelled, ended⟩⟩)

theorem Next.onHold_before (next : Next outside service state after)
    (registered : Registered state) {caller fetch : Nat} {stage : Stage}
    (onHold : OnHold after caller stage fetch) :
    OnHold state caller stage fetch ∨
      ∃ phase key, Proceeds service state after caller phase (.await key stage) := by
  cases next.caller registered caller with
  | kept phase due =>
      rw [OnHold, phase] at onHold
      exact .inl onHold
  | called newStage absent phase due => cases onHold.held? phase
  | cancelled reached may pending phase due world => cases onHold.held? phase
  | told oldStage other ending waiting finished phase due =>
      cases onHold.held? phase
      exact .inl (.inl waiting)
  | proceeded phase move proceeds =>
      rcases proceeds.reached.phase with
        ⟨ending, ended⟩ | ⟨key, newStage, other, found, rfl, waits, -⟩
      · cases onHold.held? ended
      · cases onHold.held? waits
        exact .inr ⟨phase, key, proceeds⟩
  | departed phase turn present leaves ended => cases onHold.held? ended

theorem Next.unfinished (next : Next outside service state after) {key : Key} {fetch : Nat}
    (unfinished : state.Unfinished key fetch) :
    after.Unfinished key fetch ∨ ∃ ending, after.fetchPhase? fetch = some (.finished ending) := by
  obtain ⟨found, present, status⟩ := Option.map_eq_some_iff.mp unfinished
  obtain ⟨later, there, sameKey, -⟩ := next.fetch?_grows present
  cases ended : later.phase.isFinished with
  | false =>
      refine .inl (Option.map_eq_some_iff.mpr ⟨later, there, ?_⟩)
      rw [ended, sameKey]
      exact congrArg (·.1, false) status
  | true =>
      obtain ⟨ending, phase⟩ := FetchPhase.exists_of_isFinished ended
      exact .inr ⟨ending, (fetchPhase?_of_fetch? after there).trans (congrArg some phase)⟩

omit [DecidableEq Key] in
theorem not_finished_of_unfinished {key : Key} {fetch : Nat} {ending : Ending Record}
    (unfinished : state.Unfinished key fetch)
    (finished : state.fetchPhase? fetch = some (.finished ending)) : False := by
  obtain ⟨found, present, phase⟩ := Option.map_eq_some_iff.mp finished
  simp [Unfinished, status?, present, phase, FetchPhase.isFinished] at unfinished

theorem Next.unfinished_before (next : Next outside service state after) {key : Key} {fetch : Nat}
    {phase : FetchPhase Reply Record} (present : state.fetchPhase? fetch = some phase)
    (unfinished : after.Unfinished key fetch) : state.Unfinished key fetch := by
  obtain ⟨found, there, rfl⟩ := Option.map_eq_some_iff.mp present
  obtain ⟨later, after', sameKey, -⟩ := next.fetch?_grows there
  obtain ⟨stored, stored', status⟩ := Option.map_eq_some_iff.mp unfinished
  cases after'.symm.trans stored'
  cases ended : found.phase.isFinished with
  | false =>
      refine Option.map_eq_some_iff.mpr ⟨found, there, ?_⟩
      rw [ended, ← sameKey]
      exact congrArg (·.1, false) status
  | true =>
      obtain ⟨ending, finished⟩ := FetchPhase.exists_of_isFinished ended
      exact (not_finished_of_unfinished unfinished
        (next.fetchPhase?_finished (present.trans (congrArg some finished)))).elim

/-- A fetch that ends has been cancelled, or its ending is what the service makes of its reply. -/
theorem Next.ends (next : Next outside service state after) {key : Key} {fetch : Nat}
    {ending : Ending Record} (unfinished : state.Unfinished key fetch)
    (finished : after.fetchPhase? fetch = some (.finished ending)) :
    ending = .cancelled ∨
      ∃ reply, after.world = (service.accept key reply state.world).1 ∧
        ending = .ofExcept (service.accept key reply state.world).2 := by
  cases next.fetch fetch with
  | kept phase due => exact (not_finished_of_unfinished unfinished (phase ▸ finished)).elim
  | opened caller phase newKey stage absent proceeds present due =>
      simp [Unfinished, status?, absent] at unfinished
  | began turn scheduled phase => cases phase.symm.trans finished
  | answered reply waiting phase due => cases phase.symm.trans finished
  | cancelled old present pending phase due => cases phase.symm.trans finished
  | completed found given reply turn present replied world phase due =>
      obtain ⟨stored, there, status⟩ := Option.map_eq_some_iff.mp unfinished
      cases there.symm.trans present
      have sameKey : found.key = key := congrArg Prod.fst status
      rw [sameKey] at world phase
      cases Option.some.inj (phase.symm.trans finished)
      exact .inr ⟨reply, world, rfl⟩
  | aborted found turn present cancelling phase due =>
      cases phase.symm.trans finished
      exact .inl rfl

/-- A fetch ends with a record only when the service makes one of its reply. -/
theorem Next.accepts (next : Next outside service state after) {key : Key} {fetch : Nat}
    {record : Record} (unfinished : state.Unfinished key fetch)
    (finished : after.fetchPhase? fetch = some (.finished (.ok record))) :
    ∃ reply, Accepts service state after key fetch reply record := by
  rcases next.ends unfinished finished with cancelled | ⟨reply, world, ending⟩
  · cases cancelled
  · refine ⟨reply, unfinished, ?_, finished⟩
    cases result : (service.accept key reply state.world).2 with
    | ok made =>
        rw [result] at ending
        cases ending
        rw [world, ← result]
    | error error =>
        rw [result] at ending
        cases ending

/-- A fetch that was not there before has been opened by a caller that asks for its key. -/
theorem Next.asks_of_unfinished (next : Next outside service state after) {key : Key} {fetch : Nat}
    (closed : ¬ state.Unfinished key fetch) (unfinished : after.Unfinished key fetch) :
    ∃ caller phase stage, Proceeds service state after caller phase (.await key stage) := by
  have absent : state.fetchPhase? fetch = none := by
    cases found : state.fetchPhase? fetch with
    | none => rfl
    | some phase => exact absurd (next.unfinished_before found unfinished) closed
  cases next.fetch fetch with
  | kept phase due =>
      obtain ⟨found, present, -⟩ := Option.map_eq_some_iff.mp unfinished
      rw [absent, fetchPhase?_of_fetch? after present] at phase
      cases phase
  | opened caller phase newKey stage missing proceeds present due =>
      obtain ⟨found, there, status⟩ := Option.map_eq_some_iff.mp unfinished
      cases present.symm.trans there
      cases status
      exact ⟨caller, phase, stage, proceeds⟩
  | began turn scheduled phase => cases absent.symm.trans scheduled
  | answered reply waiting phase due => cases absent.symm.trans waiting
  | cancelled old present pending phase due => cases absent.symm.trans present
  | completed found given reply turn present replied world phase due =>
      cases absent.symm.trans (fetchPhase?_of_fetch? state present)
  | aborted found turn present cancelling phase due =>
      cases absent.symm.trans (fetchPhase?_of_fetch? state present)

/-- When a fetch of a key ends, no fetch of that key is left unfinished. -/
theorem Next.closed (next : Next outside service state after) (registered : Registered state)
    {key : Key} {fetch : Nat} {ending : Ending Record} (unfinished : state.Unfinished key fetch)
    (finished : after.fetchPhase? fetch = some (.finished ending)) (other : Nat) :
    ¬ after.Unfinished key other := by
  have changes : after.status? fetch ≠ state.status? fetch := by
    intro same
    exact not_finished_of_unfinished (same.trans unfinished) finished
  intro still
  cases next.progress with
  | kept registry statuses forgets => exact changes (statuses fetch)
  | dropped forgotten due registry statuses forgets earlier => exact changes (statuses fetch)
  | opened newKey unshared registry statuses forgets =>
      have old : fetch ≠ state.fetches.length := by
        rintro rfl
        simp [Unfinished, status?, state.fetch?_length] at unfinished
      exact changes (by rw [statuses, if_neg old])
  | ended endedKey ended endedOpen registry statuses forgets =>
      have here : fetch = ended :=
        Decidable.byContradiction fun apart => changes (by rw [statuses, if_neg apart])
      subst here
      by_cases same : other = fetch
      · rw [Unfinished, statuses, if_pos same] at still
        cases still
      · rw [Unfinished, statuses, if_neg same] at still
        exact same (registered.unique still unfinished)

end Next

/-! ## Histories -/

/-- What holds at one moment and not at a later one holds until it stops at a moment in between. -/
theorem exists_stop (holds : Nat → Prop) {earlier later : Nat} (order : earlier ≤ later)
    (first : holds earlier) (last : ¬ holds later) :
    ∃ moment, earlier ≤ moment ∧ moment < later ∧
      (∀ between, earlier ≤ between → between ≤ moment → holds between) ∧
        ¬ holds (moment + 1) := by
  -- The induction moves the earlier moment up to the later one, which stays.
  obtain ⟨distance, rfl⟩ := Nat.exists_eq_add_of_le order
  clear order
  induction distance generalizing earlier with
  | zero => exact absurd first last
  | succ distance inductionHypothesis =>
      by_cases next : holds (earlier + 1)
      · rw [Nat.add_comm distance 1, ← Nat.add_assoc] at last
        obtain ⟨moment, after, before, kept, stopped⟩ := inductionHypothesis next last
        refine ⟨moment, by omega, by omega, fun between low high => ?_, stopped⟩
        rcases Nat.eq_or_lt_of_le low with rfl | later
        · exact first
        · exact kept between later high
      · refine ⟨earlier, Nat.le_refl _, by omega, fun between low high => ?_, next⟩
        exact Nat.le_antisymm low high ▸ first

/-- States each of which comes from the one before it by something that can happen. -/
structure History [BEq Key] (outside : Outside World)
    (service : Service World Key Stage Reply Record Output) where
  state : Nat → State World Key Stage Reply Record Output
  starts : ∃ world, state 0 = State.start world
  next : ∀ moment, Next outside service (state moment) (state (moment + 1))

namespace History

variable [DecidableEq Key] {outside : Outside World}
    {service : Service World Key Stage Reply Record Output}
    (history : History outside service)

theorem orderly (moment : Nat) : Orderly (history.state moment) := by
  induction moment with
  | zero =>
      obtain ⟨world, start⟩ := history.starts
      rw [start]
      exact orderly_start world
  | succ moment inductionHypothesis => exact inductionHypothesis.next (history.next moment)

theorem fetchPhase?_finished {fetch earlier later : Nat} {ending : Ending Record}
    (order : earlier ≤ later)
    (finished : (history.state earlier).fetchPhase? fetch = some (.finished ending)) :
    (history.state later).fetchPhase? fetch = some (.finished ending) := by
  induction order with
  | refl => exact finished
  | @step moment order inductionHypothesis =>
      exact (history.next moment).fetchPhase?_finished inductionHypothesis

theorem fetch?_later {fetch earlier later : Nat} {found : Fetch Key Reply Record}
    (order : earlier ≤ later) (present : (history.state earlier).fetch? fetch = some found) :
    ∃ grown, (history.state later).fetch? fetch = some grown ∧ grown.key = found.key := by
  induction order with
  | refl => exact ⟨found, present, rfl⟩
  | @step later order inductionHypothesis =>
      obtain ⟨grown, there, sameKey⟩ := inductionHypothesis
      obtain ⟨last, stored, lastKey, -⟩ := (history.next later).fetch?_grows there
      exact ⟨last, stored, lastKey.trans sameKey⟩

/-- A fetch that is there at one moment and unfinished at a later one is unfinished in between. -/
theorem unfinished_between {key : Key} {fetch earlier moment later : Nat}
    {found : Fetch Key Reply Record} (after : earlier ≤ moment) (before : moment ≤ later)
    (present : (history.state earlier).fetch? fetch = some found)
    (unfinished : (history.state later).Unfinished key fetch) :
    (history.state moment).Unfinished key fetch := by
  obtain ⟨grown, there, -⟩ := history.fetch?_later after present
  clear after present
  induction before with
  | refl => exact unfinished
  | @step later order inductionHypothesis =>
      obtain ⟨last, stored, -⟩ := history.fetch?_later order there
      have still := fetchPhase?_of_fetch? (history.state later) stored
      exact inductionHypothesis ((history.next later).unfinished_before still unfinished)

/-- Somebody has asked for the key of an unfinished fetch. -/
theorem asked_of_unfinished {key : Key} {fetch moment : Nat}
    (unfinished : (history.state moment).Unfinished key fetch) :
    ∃ asked caller phase stage, asked < moment ∧
      Proceeds service (history.state asked) (history.state (asked + 1)) caller phase
        (.await key stage) := by
  induction moment with
  | zero =>
      obtain ⟨world, start⟩ := history.starts
      rw [start] at unfinished
      cases unfinished
  | succ moment inductionHypothesis =>
      by_cases before : (history.state moment).Unfinished key fetch
      · obtain ⟨asked, caller, phase, stage, order, asks⟩ := inductionHypothesis before
        exact ⟨asked, caller, phase, stage, Nat.lt_succ_of_lt order, asks⟩
      · obtain ⟨caller, phase, stage, asks⟩ :=
          (history.next moment).asks_of_unfinished before unfinished
        exact ⟨moment, caller, phase, stage, Nat.lt_succ_self moment, asks⟩

/-- While nobody asks for a key, no fetch of it is opened. -/
theorem closed_until_asked {key : Key} {earlier later : Nat} (order : earlier ≤ later)
    (closed : ∀ fetch, ¬ (history.state earlier).Unfinished key fetch)
    (unasked : ∀ moment, earlier ≤ moment → moment < later → ∀ caller phase stage,
      ¬ Proceeds service (history.state moment) (history.state (moment + 1)) caller phase
        (.await key stage)) (fetch : Nat) :
    ¬ (history.state later).Unfinished key fetch := by
  induction order generalizing fetch with
  | refl => exact closed fetch
  | @step moment order inductionHypothesis =>
      intro unfinished
      have before := inductionHypothesis fun earlier first last =>
        unasked earlier first (Nat.lt_succ_of_lt last)
      obtain ⟨caller, phase, stage, asks⟩ :=
        (history.next moment).asks_of_unfinished (before fetch) unfinished
      exact unasked moment order (Nat.lt_succ_self moment) caller phase stage asks

theorem callerPhase?_finished {caller earlier later : Nat} {ending : Ending Output}
    (order : earlier ≤ later)
    (finished : (history.state earlier).callerPhase? caller = some (.finished ending)) :
    (history.state later).callerPhase? caller = some (.finished ending) := by
  induction order with
  | refl => exact finished
  | @step moment order inductionHypothesis =>
      exact (history.next moment).callerPhase?_finished (history.orderly moment).registered
        inductionHypothesis

theorem ending_of_leaving {caller earlier later : Nat} {reached : Option Stage}
    {ending : Ending Output} (order : earlier ≤ later)
    (leaving : (history.state earlier).callerPhase? caller = some (.leaving reached))
    (finished : (history.state later).callerPhase? caller = some (.finished ending)) :
    ending = .cancelled := by
  have stays : (history.state later).callerPhase? caller = some (.leaving reached) ∨
      (history.state later).callerPhase? caller = some (.finished .cancelled) := by
    clear finished
    induction order with
    | refl => exact .inl leaving
    | @step moment order inductionHypothesis =>
        have registered := (history.orderly moment).registered
        rcases inductionHypothesis with leaving | cancelled
        · exact (history.next moment).callerPhase?_leaving registered leaving
        · exact .inr ((history.next moment).callerPhase?_finished registered cancelled)
  rcases stays with leaving | cancelled
  · cases leaving.symm.trans finished
  · cases cancelled.symm.trans finished
    rfl

theorem goesOn_of_onHold {caller fetch asked ended : Nat} {stage : Stage} {ending : Ending Output}
    (order : asked ≤ ended) (onHold : OnHold (history.state asked) caller stage fetch)
    (finished : (history.state ended).callerPhase? caller = some (.finished ending))
    (kept : ending ≠ .cancelled) :
    ∃ returned ending move, asked ≤ returned ∧ returned < ended ∧
      (∀ moment, asked ≤ moment → moment ≤ returned →
        OnHold (history.state moment) caller stage fetch) ∧
      Proceeds service (history.state returned) (history.state (returned + 1)) caller
        (.woken stage fetch ending) move := by
  have released : ¬ OnHold (history.state ended) caller stage fetch := by
    intro still
    cases still.held? finished
  obtain ⟨returned, after, before, holds, freed⟩ :=
    exists_stop (fun moment => OnHold (history.state moment) caller stage fetch) order onHold
      released
  have registered := (history.orderly returned).registered
  rcases (history.next returned).onHold registered (holds returned after (Nat.le_refl _)) with
    stays | ⟨-, reached, leaving⟩ | ⟨told, -, -, ⟨-, cancelled⟩ | ⟨move, proceeds⟩⟩
  · exact absurd stays freed
  · exact absurd (history.ending_of_leaving before leaving finished) kept
  · have still := history.callerPhase?_finished before cancelled
    cases still.symm.trans finished
    exact absurd rfl kept
  · exact ⟨returned, told, move, after, before, holds, proceeds⟩

/-- Who goes to wait and ends other than cancelled goes on with the ending of one fetch. -/
theorem awaits_of_proceeds {caller asked ended : Nat} {key : Key} {stage : Stage}
    {phase : CallerPhase Stage Record Output} {ending : Ending Output} (order : asked < ended)
    (asks : Proceeds service (history.state asked) (history.state (asked + 1)) caller phase
      (.await key stage))
    (finished : (history.state ended).callerPhase? caller = some (.finished ending))
    (kept : ending ≠ .cancelled) :
    ∃ fetch told returned, returned < ended ∧
      Awaits service history.state caller key stage fetch asked told returned := by
  obtain ⟨fetch, found, waiting, -⟩ := asks.reached
  obtain ⟨returned, told, move, after, before, holds, proceeds⟩ :=
    history.goesOn_of_onHold order (.inl waiting) finished kept
  exact ⟨fetch, told, returned, before, after, ⟨phase, asks⟩, fun moment first last =>
    holds moment first last, move, proceeds⟩

theorem asked_of_onHold {caller fetch moment : Nat} {stage : Stage}
    (onHold : OnHold (history.state moment) caller stage fetch) :
    ∃ asked phase key, asked < moment ∧
      Proceeds service (history.state asked) (history.state (asked + 1)) caller phase
        (.await key stage) ∧
      ∀ between, asked < between → between ≤ moment →
        OnHold (history.state between) caller stage fetch := by
  induction moment with
  | zero =>
      obtain ⟨world, start⟩ := history.starts
      rw [start] at onHold
      rcases onHold with waiting | ⟨ending, woken⟩
      · cases waiting
      · cases woken
  | succ moment inductionHypothesis =>
      rcases (history.next moment).onHold_before (history.orderly moment).registered onHold with
        before | ⟨phase, key, asks⟩
      · obtain ⟨asked, phase, key, order, asks, holds⟩ := inductionHypothesis before
        refine ⟨asked, phase, key, Nat.lt_succ_of_lt order, asks, fun between first last => ?_⟩
        rcases Nat.eq_or_lt_of_le last with rfl | earlier
        · exact onHold
        · exact holds between first (Nat.le_of_lt_succ earlier)
      · refine ⟨moment, phase, key, Nat.lt_succ_self moment, asks, fun between first last => ?_⟩
        exact Nat.le_antisymm last first ▸ onHold

theorem awaits_of_goesOn {caller fetch returned : Nat} {stage : Stage} {ending : Ending Record}
    {move : Move Key Stage Output}
    (goesOn : Proceeds service (history.state returned) (history.state (returned + 1)) caller
      (.woken stage fetch ending) move) :
    ∃ key asked, Awaits service history.state caller key stage fetch asked ending returned := by
  obtain ⟨asked, phase, key, order, asks, holds⟩ :=
    history.asked_of_onHold (.inr ⟨ending, goesOn.present⟩)
  exact ⟨key, asked, order, ⟨phase, asks⟩, holds, move, goesOn⟩

/-- A fetch that is unfinished at one moment and has ended at a later one ends in between. -/
theorem ends_of_finished {key : Key} {fetch earlier later : Nat} {ending : Ending Record}
    (order : earlier ≤ later) (unfinished : (history.state earlier).Unfinished key fetch)
    (finished : (history.state later).fetchPhase? fetch = some (.finished ending)) :
    ∃ moment, earlier ≤ moment ∧ moment < later ∧
      (history.state moment).Unfinished key fetch ∧
        (history.state (moment + 1)).fetchPhase? fetch = some (.finished ending) := by
  have ended : ¬ (history.state later).Unfinished key fetch := fun still =>
    not_finished_of_unfinished still finished
  obtain ⟨moment, after, before, holds, closed⟩ :=
    exists_stop (fun moment => (history.state moment).Unfinished key fetch) order unfinished ended
  have stillOpen := holds moment after (Nat.le_refl _)
  rcases (history.next moment).unfinished stillOpen with stays | ⟨given, ends⟩
  · exact absurd stays closed
  · have final := history.fetchPhase?_finished before ends
    cases final.symm.trans finished
    exact ⟨moment, after, before, stillOpen, ends⟩

theorem accepts_of_finished {key : Key} {fetch earlier later : Nat} {record : Record}
    (order : earlier ≤ later) (unfinished : (history.state earlier).Unfinished key fetch)
    (finished : (history.state later).fetchPhase? fetch = some (.finished (.ok record))) :
    ∃ moment reply, earlier ≤ moment ∧ moment < later ∧
      Accepts service (history.state moment) (history.state (moment + 1)) key fetch reply
        record := by
  obtain ⟨moment, after, before, stillOpen, ends⟩ :=
    history.ends_of_finished order unfinished finished
  obtain ⟨reply, accepts⟩ := (history.next moment).accepts stillOpen ends
  exact ⟨moment, reply, after, before, accepts⟩

/-- Who is handed a record was waiting when the fetch of that record was accepted. -/
theorem accepts_of_awaits {caller : Nat} {key : Key} {stage : Stage} {fetch asked returned : Nat}
    {record : Record}
    (awaits : Awaits service history.state caller key stage fetch asked (.ok record) returned) :
    ∃ moment reply, asked < moment ∧ moment < returned ∧
      Accepts service (history.state moment) (history.state (moment + 1)) key fetch reply
        record := by
  obtain ⟨phase, asks⟩ := awaits.asks
  obtain ⟨move, proceeds⟩ := awaits.goesOn
  obtain ⟨other, found, waiting, present, sameKey, unfinished, -⟩ := asks.reached
  cases (awaits.onHold (asked + 1) (Nat.lt_succ_self _) awaits.order).held? waiting
  have open' : (history.state (asked + 1)).Unfinished key fetch :=
    Option.map_eq_some_iff.mpr ⟨found, present, by rw [sameKey, unfinished]⟩
  have finished := (history.orderly returned).attended.told caller stage fetch _ proceeds.present
  exact history.accepts_of_finished awaits.order open' finished

end History

end FeatureFlags.Flight
