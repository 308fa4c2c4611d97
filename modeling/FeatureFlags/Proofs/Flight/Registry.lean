import FeatureFlags.Proofs.Entries
import FeatureFlags.Proofs.Flight.Next

/-!
# The registry of unfinished fetches

Of a fetch the registry only cares for its key and for whether it has ended: its status.  A step
keeps all statuses, opens one fetch, ends one, or drops an entry of the registry (`Next.progress`);
from these four cases follows what the registry holds in every reachable state (`Registered`).
-/

set_option autoImplicit false

namespace FeatureFlags.Flight

variable {World Key Stage Reply Record Output : Type}

namespace State

variable (state : State World Key Stage Reply Record Output)

/-- The key of a fetch, and whether the fetch has ended. -/
def status? (fetch : Nat) : Option (Key × Bool) :=
  (state.fetch? fetch).map fun found => (found.key, found.phase.isFinished)

def Unfinished (key : Key) (fetch : Nat) : Prop :=
  state.status? fetch = some (key, false)

@[simp]
theorem fetch?_schedule (turns : List Turn) (fetch : Nat) :
    (state.schedule turns).fetch? fetch = state.fetch? fetch := rfl

@[simp]
theorem fetch?_setCaller (caller fetch : Nat) (phase : CallerPhase Stage Record Output) :
    (state.setCaller caller phase).fetch? fetch = state.fetch? fetch := rfl

theorem fetch?_setFetch (fetch other : Nat) (phase : FetchPhase Reply Record) :
    (state.setFetch fetch phase).fetch? other =
      (state.fetch? other).map fun found =>
        if fetch = other then { found with phase := phase } else found := by
  simp [setFetch, fetch?, List.getElem?_modify]

theorem fetch?_join (fetch caller other : Nat) :
    (state.join fetch caller).fetch? other =
      (state.fetch? other).map fun found =>
        if fetch = other then { found with waiters := found.waiters ++ [caller] } else found := by
  simp [join, fetch?, List.getElem?_modify]

theorem fetch?_launch [BEq Key] (key : Key) (caller other : Nat) :
    (state.launch key caller).fetch? other =
      if other = state.fetches.length then some ⟨key, .scheduled, [caller]⟩
      else state.fetch? other := by
  rcases Nat.lt_trichotomy other state.fetches.length with less | same | more
  · simp [launch, schedule, fetch?, List.getElem?_append_left less, Nat.ne_of_lt less]
  · simp [launch, schedule, fetch?, same]
  · have beyond : (state.fetches ++ [⟨key, .scheduled, [caller]⟩])[other]? = none :=
      List.getElem?_eq_none (by rw [List.length_append]; exact more)
    have absent : state.fetches[other]? = none := List.getElem?_eq_none (Nat.le_of_lt more)
    simp only [launch, schedule, fetch?, beyond, absent, Nat.ne_of_gt more, if_false]

theorem fetch?_length : state.fetch? state.fetches.length = none := by
  simp [fetch?]

theorem status?_setFetch (fetch other : Nat) (phase : FetchPhase Reply Record) :
    (state.setFetch fetch phase).status? other =
      (state.status? other).map fun status =>
        if fetch = other then (status.1, phase.isFinished) else status := by
  simp only [status?, fetch?_setFetch, Option.map_map]
  congr 1
  funext found
  by_cases same : fetch = other <;> simp [same]

theorem status?_join (fetch caller : Nat) : (state.join fetch caller).status? = state.status? := by
  funext other
  simp only [status?, fetch?_join, Option.map_map]
  congr 1
  funext found
  by_cases same : fetch = other <;> simp [same]

theorem status?_launch [BEq Key] (key : Key) (caller other : Nat) :
    (state.launch key caller).status? other =
      if other = state.fetches.length then some (key, false) else state.status? other := by
  simp only [status?, fetch?_launch]
  split <;> rfl

theorem status?_setFetch_of_unfinished {fetch : Nat} {old new : FetchPhase Reply Record}
    (found : state.fetchPhase? fetch = some old) (wasOpen : old.isFinished = false)
    (stays : new.isFinished = false) : (state.setFetch fetch new).status? = state.status? := by
  funext other
  rw [status?_setFetch]
  by_cases same : fetch = other
  · subst same
    obtain ⟨present, here, rfl⟩ := Option.map_eq_some_iff.mp found
    simp [status?, here, wasOpen, stays]
  · simp [same]

theorem isOpen_iff (fetch : Nat) :
    state.isOpen fetch = true ↔ ∃ key, state.Unfinished key fetch := by
  cases found : state.fetch? fetch <;>
    simp [isOpen, fetchPhase?, Unfinished, status?, found]

theorem isOpen_of_unfinished {key : Key} {fetch : Nat} (unfinished : state.Unfinished key fetch) :
    state.isOpen fetch = true :=
  (state.isOpen_iff fetch).mpr ⟨key, unfinished⟩

end State

open State

/-- How a step moves the statuses of the fetches, the registry and the turns that forget. -/
inductive Progress [BEq Key] (state after : State World Key Stage Reply Record Output) : Prop where
  | kept (registry : after.registry = state.registry)
      (statuses : ∀ other, after.status? other = state.status? other)
      (forgets : ∀ other, .forget other ∈ after.agenda ↔ .forget other ∈ state.agenda)
  | opened (key : Key) (unshared : state.open? key = none)
      (registry : after.registry = Entries.put key state.fetches.length state.registry)
      (statuses : ∀ other, after.status? other =
        if other = state.fetches.length then some (key, false) else state.status? other)
      (forgets : ∀ other, .forget other ∈ after.agenda ↔ .forget other ∈ state.agenda)
  | ended (key : Key) (fetch : Nat) (unfinished : state.Unfinished key fetch)
      (registry : after.registry = state.registry)
      (statuses : ∀ other, after.status? other =
        if other = fetch then some (key, true) else state.status? other)
      (forgets : ∀ other, .forget other ∈ after.agenda ↔
        .forget other ∈ state.agenda ∨ other = fetch)
  | dropped (fetch : Nat) (due : .forget fetch ∈ state.agenda)
      (registry : after.registry = state.registry.filter fun entry =>
        !(entry.2 == fetch && (state.fetch? fetch).any (·.key == entry.1)))
      (statuses : ∀ other, after.status? other = state.status? other)
      (forgets : ∀ other, .forget other ∈ state.agenda →
        .forget other ∈ after.agenda ∨ other = fetch)
      (earlier : ∀ other, .forget other ∈ after.agenda → .forget other ∈ state.agenda)

theorem finishFetch_progress [BEq Key] {state : State World Key Stage Reply Record Output}
    {key : Key} {fetch : Nat} {world : World} {rest : List Turn} (ending : Ending Record)
    (agenda : state.agenda = .fetch fetch :: rest) (unfinished : state.Unfinished key fetch) :
    Progress state
      (State.finishFetch fetch ending { state with agenda := rest, world := world }) := by
  refine .ended key fetch unfinished rfl ?_ ?_
  · intro other
    have same : (State.finishFetch fetch ending
          { state with agenda := rest, world := world }).status? other =
        (state.setFetch fetch (.finished ending)).status? other := rfl
    rw [same, status?_setFetch]
    by_cases here : other = fetch
    · subst here
      rw [unfinished]
      simp [FetchPhase.isFinished]
    · simp [here, Ne.symm here]
  · intro other
    simp [finishFetch, schedule, setFetch, agenda]

theorem unfinished_of_reply {state : State World Key Stage Reply Record Output} {fetch : Nat}
    {found : Fetch Key Reply Record} {given : Option Reply} {reply : Reply}
    (present : state.fetch? fetch = some found)
    (replied : found.phase.reply? given = some reply) : state.Unfinished found.key fetch := by
  obtain ⟨key, phase, waiters⟩ := found
  cases phase <;> simp_all [FetchPhase.reply?, Unfinished, status?, FetchPhase.isFinished]

theorem forget_mem_notices (state : State World Key Stage Reply Record Output)
    (caller fetch : Nat) : .forget fetch ∉ state.notices caller := by
  unfold notices
  split <;> simp

theorem Next.progress [BEq Key] {outside : Outside World}
    {service : Service World Key Stage Reply Record Output}
    {state after : State World Key Stage Reply Record Output}
    (next : Next outside service state after) :
    Progress state after := by
  cases next with
  | nothing => exact .kept rfl (fun _ => rfl) fun _ => .rfl
  | worldChanged world drifts => exact .kept rfl (fun _ => rfl) fun _ => .rfl
  | called stage notifies => exact .kept rfl (fun _ => rfl) (by simp [call, schedule])
  | answered fetch reply waiting =>
      refine .kept rfl (fun other => ?_) (by simp [schedule, setFetch])
      exact congrFun (status?_setFetch_of_unfinished state waiting rfl rfl) other
  | fetchStopped fetch waiting =>
      refine .kept rfl (fun other => ?_) (by simp [schedule, setFetch])
      exact congrFun (status?_setFetch_of_unfinished state waiting rfl rfl) other
  | fetchDropped fetch due =>
      refine .kept rfl (fun other => ?_) fun _ => .rfl
      rcases due with scheduled | ⟨reply, answered⟩
      · exact congrFun (status?_setFetch_of_unfinished state scheduled rfl rfl) other
      · exact congrFun (status?_setFetch_of_unfinished state answered rfl rfl) other
  | callerStopped caller stage fetch may waiting =>
      exact .kept rfl (fun _ => rfl) (by simp [schedule, setCaller])
  | callerDropped caller reached may due => exact .kept rfl (fun _ => rfl) fun _ => .rfl
  | passed due rest agenda settled remembers =>
      refine .kept rfl (fun _ => rfl) fun other => ?_
      simp [agenda, Ne.symm (remembers other)]
  | began fetch rest agenda scheduled =>
      refine .kept rfl (fun other => ?_) (by simp [setFetch, agenda])
      exact congrFun (status?_setFetch_of_unfinished { state with agenda := rest }
        scheduled rfl rfl) other
  | completed fetch found given reply rest agenda present replied =>
      exact finishFetch_progress _ agenda (unfinished_of_reply present replied)
  | aborted fetch rest agenda cancelling =>
      obtain ⟨found, present, phase⟩ := Option.map_eq_some_iff.mp cancelling
      have unfinished : state.Unfinished found.key fetch := by
        simp [Unfinished, status?, present, phase, FetchPhase.isFinished]
      exact finishFetch_progress _ agenda unfinished
  | forgot fetch rest agenda =>
      refine .dropped fetch ?_ rfl (fun _ => rfl) ?_ ?_
      · simp [agenda]
      · intro other due
        rw [agenda] at due
        rcases List.mem_cons.mp due with here | later
        · exact .inr (Turn.forget.inj here)
        · exact .inl later
      · intro other later
        rw [agenda]
        exact List.mem_cons_of_mem _ later
  | told fetch caller stage ending rest agenda waiting finished =>
      exact .kept rfl (fun _ => rfl) (by simp [schedule, setCaller, agenda])
  | concluded caller phase world result rest agenda present moves =>
      refine .kept rfl (fun _ => rfl) fun other => ?_
      simp [schedule, setCaller, agenda, forget_mem_notices]
  | joined caller phase world key stage fetch rest agenda present moves shared =>
      refine .kept rfl (fun other => ?_) (by simp [setCaller, join, agenda])
      exact congrFun (status?_join { state with agenda := rest, world := world } fetch caller) other
  | launched caller phase world key stage rest agenda present moves unshared =>
      refine .opened key unshared rfl (fun other => ?_)
        (by simp [setCaller, launch, schedule, agenda])
      exact status?_launch { state with agenda := rest, world := world } key caller other
  | departed caller phase world rest agenda present leaves =>
      exact .kept rfl (fun _ => rfl) (by simp [setCaller, agenda])
  | notified caller rest agenda => exact .kept rfl (fun _ => rfl) (by simp [agenda])

/-! ## What the registry holds -/

/-- The registry finds every unfinished fetch under its key, and what it holds are fetches of that
key: unfinished ones, and ended ones that are still to be forgotten. -/
structure Registered [BEq Key] (state : State World Key Stage Reply Record Output) : Prop where
  complete : ∀ key fetch, state.Unfinished key fetch → state.registry.lookup key = some fetch
  known : ∀ key fetch, (key, fetch) ∈ state.registry →
    state.Unfinished key fetch ∨
      (state.status? fetch = some (key, true) ∧ .forget fetch ∈ state.agenda)
  forgets : ∀ fetch, .forget fetch ∈ state.agenda → ∃ key, state.status? fetch = some (key, true)

section Registered

variable [DecidableEq Key] {outside : Outside World}
    {service : Service World Key Stage Reply Record Output}
    {state after : State World Key Stage Reply Record Output}

theorem registered_start (world : World) :
    Registered (State.start world : State World Key Stage Reply Record Output) := by
  constructor
  · intro key fetch unfinished
    cases unfinished
  · intro key fetch member
    cases member
  · intro fetch member
    cases member

/-- A key is open exactly when it has an unfinished fetch, and that is the one found. -/
theorem Registered.open?_eq_some_iff (registered : Registered state) (key : Key) (fetch : Nat) :
    state.open? key = some fetch ↔ state.Unfinished key fetch := by
  unfold State.open?
  rw [Option.filter_eq_some_iff]
  constructor
  · rintro ⟨found, isOpen⟩
    rcases registered.known key fetch (Entries.mem_of_lookup found) with unfinished | ⟨status, -⟩
    · exact unfinished
    · obtain ⟨other, unfinished⟩ := (state.isOpen_iff fetch).mp isOpen
      rw [Unfinished, status] at unfinished
      cases unfinished
  · intro unfinished
    exact ⟨registered.complete key fetch unfinished, state.isOpen_of_unfinished unfinished⟩

theorem Registered.open?_eq_none_iff (registered : Registered state) (key : Key) :
    state.open? key = none ↔ ∀ fetch, ¬ state.Unfinished key fetch := by
  rw [Option.eq_none_iff_forall_ne_some]
  exact forall_congr' fun fetch => not_congr (registered.open?_eq_some_iff key fetch)

theorem Registered.unique (registered : Registered state) {key : Key} {fetch other : Nat}
    (left : state.Unfinished key fetch) (right : state.Unfinished key other) : fetch = other := by
  have leftFound := registered.complete key fetch left
  have rightFound := registered.complete key other right
  exact Option.some.inj (leftFound.symm.trans rightFound)

theorem Registered.kept (registered : Registered state)
    (registry : after.registry = state.registry)
    (statuses : ∀ other, after.status? other = state.status? other)
    (forgets : ∀ other, .forget other ∈ after.agenda ↔ .forget other ∈ state.agenda) :
    Registered after := by
  constructor
  · intro key fetch unfinished
    rw [Unfinished, statuses] at unfinished
    rw [registry]
    exact registered.complete key fetch unfinished
  · intro key fetch member
    rw [registry] at member
    rw [Unfinished, statuses, forgets]
    exact registered.known key fetch member
  · intro fetch due
    rw [forgets] at due
    rw [statuses]
    exact registered.forgets fetch due

theorem Registered.opened (registered : Registered state) (key : Key)
    (unshared : state.open? key = none)
    (registry : after.registry = Entries.put key state.fetches.length state.registry)
    (statuses : ∀ other, after.status? other =
      if other = state.fetches.length then some (key, false) else state.status? other)
    (forgets : ∀ other, .forget other ∈ after.agenda ↔ .forget other ∈ state.agenda) :
    Registered after := by
  have old : ∀ other status, state.status? other = some status →
      after.status? other = some status := by
    intro other status present
    have exists' : other ≠ state.fetches.length := by
      rintro rfl
      simp [status?, state.fetch?_length] at present
    rw [statuses, if_neg exists', present]
  constructor
  · intro other fetch unfinished
    rw [Unfinished, statuses] at unfinished
    rw [registry, Entries.lookup_put]
    split at unfinished
    next new =>
        cases unfinished
        simp [new]
    next =>
        have differs : other ≠ key := by
          rintro rfl
          exact (registered.open?_eq_none_iff other).mp unshared fetch unfinished
        simpa [differs] using registered.complete other fetch unfinished
  · intro other fetch member
    rw [registry] at member
    rcases Entries.mem_put member with new | listed
    · cases new
      exact .inl ((statuses _).trans (if_pos rfl))
    · rcases registered.known other fetch listed with unfinished | ⟨ended, due⟩
      · exact .inl (old fetch _ unfinished)
      · exact .inr ⟨old fetch _ ended, (forgets fetch).mpr due⟩
  · intro fetch due
    obtain ⟨other, ended⟩ := registered.forgets fetch ((forgets fetch).mp due)
    exact ⟨other, old fetch _ ended⟩

theorem Registered.ended (registered : Registered state) (key : Key) (fetch : Nat)
    (unfinished : state.Unfinished key fetch) (registry : after.registry = state.registry)
    (statuses : ∀ other, after.status? other =
      if other = fetch then some (key, true) else state.status? other)
    (forgets : ∀ other, .forget other ∈ after.agenda ↔
      .forget other ∈ state.agenda ∨ other = fetch) :
    Registered after := by
  constructor
  · intro other listed stillOpen
    rw [Unfinished, statuses] at stillOpen
    rw [registry]
    split at stillOpen
    · cases stillOpen
    · exact registered.complete other listed stillOpen
  · intro other listed member
    rw [registry] at member
    rw [Unfinished, statuses, forgets]
    by_cases here : listed = fetch
    · subst here
      rcases registered.known other listed member with stillOpen | ⟨ended, due⟩
      · rw [Unfinished, unfinished] at stillOpen
        cases stillOpen
        exact .inr ⟨if_pos rfl, .inr rfl⟩
      · rw [unfinished] at ended
        cases ended
    · rw [if_neg here]
      exact (registered.known other listed member).imp_right fun ⟨ended, due⟩ => ⟨ended, .inl due⟩
  · intro other due
    rw [statuses]
    split
    · exact ⟨key, rfl⟩
    next elsewhere =>
        exact registered.forgets other (((forgets other).mp due).resolve_right elsewhere)

/-- Forgetting drops an entry only of a fetch that has ended, never that of a newer one. -/
theorem Registered.lookup_dropped (registered : Registered state) {fetch : Nat}
    (due : .forget fetch ∈ state.agenda) {key : Key} {other : Nat}
    (unfinished : state.Unfinished key other) :
    (state.registry.filter fun entry =>
      !(entry.2 == fetch && (state.fetch? fetch).any (·.key == entry.1))).lookup key =
        some other := by
  obtain ⟨ended, status⟩ := registered.forgets fetch due
  refine Entries.lookup_filter_of_kept (registered.complete key other unfinished) ?_
  have differs : other ≠ fetch := by
    rintro rfl
    rw [Unfinished, status] at unfinished
    cases unfinished
  simp [differs]

theorem Registered.dropped (registered : Registered state) (fetch : Nat)
    (due : .forget fetch ∈ state.agenda)
    (registry : after.registry = state.registry.filter fun entry =>
      !(entry.2 == fetch && (state.fetch? fetch).any (·.key == entry.1)))
    (statuses : ∀ other, after.status? other = state.status? other)
    (forgets : ∀ other, .forget other ∈ state.agenda →
      .forget other ∈ after.agenda ∨ other = fetch)
    (earlier : ∀ other, .forget other ∈ after.agenda → .forget other ∈ state.agenda) :
    Registered after := by
  constructor
  · intro key other unfinished
    rw [Unfinished, statuses] at unfinished
    rw [registry]
    exact registered.lookup_dropped due unfinished
  · intro key other member
    rw [registry] at member
    obtain ⟨listed, kept⟩ := List.mem_filter.mp member
    rw [Unfinished, statuses]
    refine (registered.known key other listed).imp_right fun ⟨ended, stillDue⟩ => ⟨ended, ?_⟩
    refine (forgets other stillDue).resolve_right ?_
    rintro rfl
    obtain ⟨found, present, status⟩ := Option.map_eq_some_iff.mp ended
    have sameKey : found.key = key := congrArg Prod.fst status
    simp [present, sameKey] at kept
  · intro other stillDue
    rw [statuses]
    exact registered.forgets other (earlier other stillDue)

theorem Registered.progress (registered : Registered state) (progress : Progress state after) :
    Registered after := by
  cases progress with
  | kept registry statuses forgets => exact registered.kept registry statuses forgets
  | opened key unshared registry statuses forgets =>
      exact registered.opened key unshared registry statuses forgets
  | ended key fetch unfinished registry statuses forgets =>
      exact registered.ended key fetch unfinished registry statuses forgets
  | dropped fetch due registry statuses forgets earlier =>
      exact registered.dropped fetch due registry statuses forgets earlier

theorem Registered.next (registered : Registered state) (next : Next outside service state after) :
    Registered after :=
  registered.progress next.progress

end Registered

end FeatureFlags.Flight
