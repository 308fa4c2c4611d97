import FeatureFlags.Proofs.Client.Underway

/-!
# Evaluating again at once

An evaluation that has given a value has left fresh records of all that it used.  So a second
evaluation of the same query ends in its first turn: it fetches nothing, leaves the caches alone and
gives the same value.  There is one exception (`evaluation_repeated`): the key is looked for in the
state at hand, and the first evaluation may have replaced that state by one that has an override of
the key but no flag of that key.
-/

set_option autoImplicit false

namespace FeatureFlags.Client.Run

variable {run : Run}

/-! ## The second evaluation -/

variable (run) in
/-- What a second evaluation of a query comes to when it begins at once after a first one that has
ended with a value. -/
structure Repeats (first second : Nat) (query : Query) (value : Value) (begun again : Nat) : Prop
    where
  caches : (run.client (again + 1)).cache = (run.client again).cache
  fetches : (run.state (again + 1)).fetches.length = (run.state again).fetches.length
  listed : Entries.contains (.string query.key) (run.client again).cache.snapshot.flags = true →
    (run.state (again + 1)).callerPhase? second = some (.finished (.ok (.value value)))
  /-- A flag that is gone has gone with the state that the first evaluation waited for, and the
  value is an override that this state still has. -/
  unlisted : Entries.contains (.string query.key) (run.client again).cache.snapshot.flags = false →
    (run.state (again + 1)).callerPhase? second =
        some (.finished (.failed (.flagNotFound (.string query.key)))) ∧
      (run.client again).cache.snapshot.override? (.string query.key) = some value ∧
      ∃ accepted fetch stage, begun ≤ accepted ∧ accepted < again ∧
        Flight.OnHold (run.state accepted) first stage fetch ∧
        run.Accepted accepted .state fetch (.state (run.client again).cache.snapshot)

theorem finished_of_unlisted {caller begun : Nat} {query : Query}
    (begins : run.BeginsAt caller query begun)
    (absent : Entries.contains (.string query.key)
      (run.client begun).cache.snapshot.flags = false) :
    (run.state (begun + 1)).callerPhase? caller =
      some (.finished (.failed (.flagNotFound (.string query.key)))) := by
  obtain ⟨phase, closes, move, begins, proceeds⟩ := begins
  obtain ⟨client, now, cache, turn⟩ := begins.evaluates
  have evaluated := congrArg Prod.snd (Option.some.inj (turn.symm.trans proceeds.moves))
  rw [evaluate_unlisted (cache ▸ absent)] at evaluated
  cases evaluated
  exact proceeds.reached

/-- An evaluation that has ended with a value began with its key listed. -/
theorem listed_of_answered {caller begun ended : Nat} {query : Query} {value : Value}
    (begins : run.BeginsAt caller query begun) (order : begun < ended)
    (answered : (run.state ended).callerPhase? caller = some (.finished (.ok (.value value)))) :
    Entries.contains (.string query.key) (run.client begun).cache.snapshot.flags = true := by
  cases listed : Entries.contains (.string query.key) (run.client begun).cache.snapshot.flags with
  | true => rfl
  | false =>
      have refused := run.history.callerPhase?_finished order (finished_of_unlisted begins listed)
      cases refused.symm.trans answered

/-- At a finite time an evaluation that is repeated at once fetches nothing and leaves the caches
alone, and it gives the same value, unless the first one has replaced the state by one in which an
override has outlived its flag. -/
theorem evaluation_repeated (run : Run)
    (positive : ∀ resource, (Double.zero false).lt (run.lifetimes.of resource) = true)
    {first second begun again : Nat} {query : Query} {value : Value}
    (finite : (run.clock begun).isFinite = true) (begins : run.BeginsAt first query begun)
    (order : begun < again)
    (answered : (run.state again).callerPhase? first = some (.finished (.ok (.value value))))
    (atOnce : run.AtOnce first begun again) (repeats : run.BeginsAt second query again) :
    run.Repeats first second query value begun again := by
  have young : ∀ moment, begun ≤ moment → moment < again → ∀ resource,
      isFresh (run.clock moment) (run.clock moment) (run.lifetimes.of resource) = true := by
    intro moment after before resource
    rw [atOnce.clock moment after (Nat.le_of_lt before)]
    exact isFresh_self finite (positive resource)
  obtain ⟨spared, yields⟩ := yields_of_answered young begins order atOnce answered
  have wasListed := listed_of_answered begins order answered
  obtain ⟨phase, closes, move, opens, proceeds⟩ := repeats
  have caches : (run.client (again + 1)).cache = (run.client again).cache :=
    opens.cache proceeds.moves spared
  have next := run.history.next again
  rcases opens.yields proceeds.moves yields with ⟨listed, rfl⟩ | ⟨unlisted, override, rfl⟩
  · refine ⟨caches, next.fetches_of_finish proceeds, fun _ => proceeds.reached, fun other => ?_⟩
    cases listed.symm.trans other
  · refine ⟨caches, next.fetches_of_finish proceeds, fun other => ?_, fun _ => ?_⟩
    · cases unlisted.symm.trans other
    · refine ⟨proceeds.reached, override, ?_⟩
      rcases run.snapshot_since (Nat.le_of_lt order) with
        same | ⟨accepted, fetch, after, before, taken⟩
      · rw [same, wasListed] at unlisted
        cases unlisted
      · obtain ⟨stage, onHold⟩ := atOnce.own accepted .state fetch _ after before taken
        exact ⟨accepted, fetch, stage, after, before, onHold, taken⟩

/-! ## Two runs -/

/-- An evaluation that is called when nothing is due begins in the next turn. -/
theorem beginsAt_of_call {moment caller : Nat} {query : Query} {notifies : Bool}
    {given : Option Reply}
    (called : run.steps[moment]? = some (.move (.call (.start (.evaluate query)) notifies)))
    (turn : run.steps[moment + 1]? = some (.move (.turn given)))
    (new : (run.state moment).callers.length = caller) (quiet : (run.state moment).agenda = []) :
    run.BeginsAt caller query (moment + 1) := by
  subst new
  have after : run.state (moment + 1) =
      (run.state moment).call (.start (.evaluate query)) notifies := run.state_succ_of_step called
  have ready : (run.state (moment + 1)).callerPhase? (run.state moment).callers.length =
      some (.ready (.start (.evaluate query))) := by
    rw [after, Flight.State.callerPhase?_call, if_pos rfl]
  have agenda : (run.state (moment + 1)).agenda = [.caller (run.state moment).callers.length] := by
    rw [after]
    simp [Flight.State.call, Flight.State.schedule, quiet]
  exact ⟨_, false, ((run.client (moment + 1)).evaluate query false).2, .call,
    run.proceeds_of_turn turn agenda ready rfl⟩

variable (run) in
/-- The fetches that come to their end at a moment. -/
def closing (moment : Nat) : List Nat :=
  (List.range (run.state moment).fetches.length).filter fun fetch =>
    (run.state moment).isOpen fetch && !(run.state (moment + 1)).isOpen fetch

theorem Accepted.closing {moment fetch : Nat} {resource : Resource} {record : Fetched}
    (accepted : run.Accepted moment resource fetch record) : fetch ∈ run.closing moment := by
  obtain ⟨reply, accepts⟩ := accepted
  have wasOpen := (run.state moment).isOpen_of_unfinished accepts.unfinished
  have closed : (run.state (moment + 1)).isOpen fetch = false := by
    rw [Flight.State.isOpen, accepts.finished]
    rfl
  obtain ⟨found, present, -⟩ := Option.map_eq_some_iff.mp accepts.unfinished
  have inRange := (List.getElem?_eq_some_iff.mp present).1
  simp [Run.closing, wasOpen, closed, inRange]

theorem atOnce_of_checks {caller begun again : Nat}
    (clock : ∀ moment < again + 1, begun ≤ moment → run.clock moment = run.clock begun)
    (unswept : ∀ now keep, .sweep now keep ∉ run.steps)
    (own : ∀ moment < again, begun ≤ moment → ∀ fetch ∈ run.closing moment,
      (((run.state moment).callerPhase? caller).bind Flight.CallerPhase.held?).map Prod.snd =
        some fetch) : run.AtOnce caller begun again := by
  refine ⟨fun moment after before => clock moment (Nat.lt_succ_of_le before) after,
    fun moment now keep _ _ present => unswept now keep (List.mem_of_getElem? present), ?_⟩
  intro moment resource fetch record after before accepted
  obtain ⟨⟨stage, held⟩, found, rfl⟩ :=
    Option.map_eq_some_iff.mp (own moment before after fetch accepted.closing)
  exact ⟨stage, Flight.onHold_of_held? found⟩

def repeated : Run where
  host := "flags.test"
  now := .ofInt 0
  lifetimes := .usual
  linked := true
  steps := [
    .move (.call (.start (.refresh .refresh)) false),
    .move (.turn none),
    .move (.turn (some (.ok (oneFlag true)))),
    .move (.turn none),
    .move (.turn none),
    .move (.turn none),
    .move (.call (.start (.evaluate ⟨"dark", some "ada", []⟩)) false),
    .move (.turn none),
    .move (.turn (some (.ok (.object [("overrides", .object [])])))),
    .move (.turn none),
    .move (.turn none),
    .move (.turn none),
    .move (.call (.start (.evaluate ⟨"dark", some "ada", []⟩)) false),
    .move (.turn none)]

theorem positive_of_usual (resource : Resource) :
    (Double.zero false).lt (Lifetimes.usual.of resource) = true := by
  cases resource with
  | state => exact (by decide +kernel : (Double.zero false).lt Lifetimes.usual.state = true)
  | identity name =>
      exact (by decide +kernel : (Double.zero false).lt Lifetimes.usual.identity = true)

theorem evaluation_repeated_identity :
    repeated.BeginsAt 1 ⟨"dark", some "ada", []⟩ 7 ∧
      (repeated.state 13).callerPhase? 1 = some (.finished (.ok (.value (.bool true)))) ∧
      repeated.AtOnce 1 7 13 ∧ repeated.BeginsAt 2 ⟨"dark", some "ada", []⟩ 13 ∧
      repeated.Repeats 1 2 ⟨"dark", some "ada", []⟩ (.bool true) 7 13 := by
  have begins : repeated.BeginsAt 1 ⟨"dark", some "ada", []⟩ 7 :=
    repeated.beginsAt_of_call rfl rfl (by decide +kernel) (by decide +kernel)
  have again : repeated.BeginsAt 2 ⟨"dark", some "ada", []⟩ 13 :=
    repeated.beginsAt_of_call rfl rfl (by decide +kernel) (by decide +kernel)
  have answered : (repeated.state 13).callerPhase? 1 =
      some (.finished (.ok (.value (.bool true)))) := finished_of_truth? (by decide +kernel)
  have atOnce : repeated.AtOnce 1 7 13 := by
    have unswept : ∀ now keep, .sweep now keep ∉ repeated.steps := by simp [repeated]
    exact repeated.atOnce_of_checks (by decide +kernel) unswept (by decide +kernel)
  have finite : (repeated.clock 7).isFinite = true := by decide +kernel
  exact ⟨begins, answered, atOnce, again, evaluation_repeated repeated positive_of_usual finite
    begins (by decide) answered atOnce again⟩

/-- The state that a first evaluation fetches again no longer has the flag, but still has an
override of its key. -/
def orphaned : Run where
  host := "flags.test"
  now := .ofInt 0
  lifetimes := .usual
  linked := true
  steps := [
    .move (.call (.start (.refresh .refresh)) false),
    .move (.turn none),
    .move (.turn (some (.ok (oneFlag false)))),
    .move (.turn none),
    .move (.turn none),
    .move (.turn none),
    .clock (.ofInt 61),
    .move (.call (.start (.evaluate ⟨"dark", none, []⟩)) false),
    .move (.turn none),
    .move (.turn (some (.ok (.object [("flags", .list []), ("overrides", .list [
      .object [("key", .string "dark"), ("value", .bool true)]])])))),
    .move (.turn none),
    .move (.turn none),
    .move (.turn none),
    .move (.call (.start (.evaluate ⟨"dark", none, []⟩)) false),
    .move (.turn none)]

/-- No record is fresh at an infinite time, so that each evaluation fetches the state. -/
def endless : Run where
  host := "flags.test"
  now := .infinite false
  lifetimes := .usual
  linked := true
  steps := [
    .move (.call (.start (.refresh .refresh)) false),
    .move (.turn none),
    .move (.turn (some (.ok (oneFlag false)))),
    .move (.turn none),
    .move (.turn none),
    .move (.turn none),
    .move (.call (.start (.evaluate ⟨"dark", none, []⟩)) false),
    .move (.turn none),
    .move (.turn (some (.ok (oneFlag false)))),
    .move (.turn none),
    .move (.turn none),
    .move (.turn none),
    .move (.call (.start (.evaluate ⟨"dark", none, []⟩)) false),
    .move (.turn none)]

/-- The second of two evaluations may fail where the first one has given a value, and it may fetch
what the first one has just fetched. -/
theorem evaluation_not_repeated :
    ((orphaned.BeginsAt 1 ⟨"dark", none, []⟩ 8 ∧
        (orphaned.state 14).callerPhase? 1 = some (.finished (.ok (.value (.bool true)))) ∧
        orphaned.AtOnce 1 8 14 ∧ orphaned.BeginsAt 2 ⟨"dark", none, []⟩ 14 ∧
        (orphaned.state 15).callerPhase? 2 =
          some (.finished (.failed (.flagNotFound (.string "dark"))))) ∧
      endless.BeginsAt 1 ⟨"dark", none, []⟩ 7 ∧
        (endless.state 13).callerPhase? 1 = some (.finished (.ok (.value (.bool false)))) ∧
        endless.AtOnce 1 7 13 ∧ endless.BeginsAt 2 ⟨"dark", none, []⟩ 13 ∧
        (endless.state 14).fetches.length = (endless.state 13).fetches.length + 1) := by
  have begins : orphaned.BeginsAt 1 ⟨"dark", none, []⟩ 8 :=
    orphaned.beginsAt_of_call rfl rfl (by decide +kernel) (by decide +kernel)
  have again : orphaned.BeginsAt 2 ⟨"dark", none, []⟩ 14 :=
    orphaned.beginsAt_of_call rfl rfl (by decide +kernel) (by decide +kernel)
  have endlessBegins : endless.BeginsAt 1 ⟨"dark", none, []⟩ 7 :=
    endless.beginsAt_of_call rfl rfl (by decide +kernel) (by decide +kernel)
  have endlessAgain : endless.BeginsAt 2 ⟨"dark", none, []⟩ 13 :=
    endless.beginsAt_of_call rfl rfl (by decide +kernel) (by decide +kernel)
  have unswept : ∀ now keep, .sweep now keep ∉ orphaned.steps := by simp [orphaned]
  have endlessUnswept : ∀ now keep, .sweep now keep ∉ endless.steps := by simp [endless]
  refine ⟨⟨begins, finished_of_truth? (by decide +kernel), ?_, again, ?_⟩,
    endlessBegins, finished_of_truth? (by decide +kernel), ?_, endlessAgain, by decide +kernel⟩
  · exact orphaned.atOnce_of_checks (by decide +kernel) unswept (by decide +kernel)
  · exact finished_of_unlisted again (by decide +kernel)
  · exact endless.atOnce_of_checks (by decide +kernel) endlessUnswept (by decide +kernel)

end FeatureFlags.Client.Run
