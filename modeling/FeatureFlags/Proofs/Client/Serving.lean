import FeatureFlags.Proofs.Client.Evaluation

/-!
# Expired records are never served

While the clock does not go back, whatever a caller obtains was fresh at the moment at which it
asked for it, or was accepted after that moment: a fetch that is joined late brings a record that is
newer than the question, and a cached record is looked at in the turn that uses it.  `ServesCurrent`
collects this for records, for the answers of calls and for the values of evaluations, and
`run_servesCurrent` proves it of every run.
-/

set_option autoImplicit false

namespace FeatureFlags.Client

namespace Run

variable (run : Run)

/-- A record was fresh when it was asked for, or it was accepted between then and its return. -/
def Current (resource : Resource) (asked : Nat) (record : Fetched) (returned : Nat) : Prop :=
  (∃ fetchedAt, record.fetchedAt? = some fetchedAt ∧
    isFresh (run.clock asked) fetchedAt (run.lifetimes.of resource) = true) ∨
  ∃ accepted fetch, asked < accepted ∧ accepted < returned ∧
    run.Accepted accepted resource fetch record ∧
    (run.clock asked).le (run.clock accepted) = true ∧
    record.fetchedAt? = some (run.clock accepted)

def IdentifiesAt (caller : Nat) (identifier : Option String) (asked : Nat) : Prop :=
  ∃ move, Flight.Proceeds service (run.state asked) (run.state (asked + 1)) caller
    (.ready (.start (.identify identifier))) move

/-- The value of an evaluation is one of the call, or it comes from a record that was current when
the evaluation asked for it; so is the identity that rules are matched with. -/
inductive FromCurrent (caller : Nat) (query : Query) (begun : Nat) (value : Value) : Prop where
  | callSite (given : query.overrides.find? (.string query.key) = some value)
  | identity (name : String) (record : Identity) (settled : Nat)
      (obtains : run.Obtains caller (.identity name) begun (.identity record) settled)
      (current : run.Current (.identity name) begun (.identity record) settled)
      (override : record.overrides.find? (.string query.key) = some value)
  | state (identity : Option Identity) (settled : Nat) (snapshot : Snapshot) (returned : Nat)
      (tier : Tier) (settles : run.Settles caller query.identifier begun identity settled)
      (matched : ∀ record, identity = some record →
        ∃ name, run.Current (.identity name) begun (.identity record) settled)
      (obtains : run.Obtains caller .state settled (.state snapshot) returned)
      (current : run.Current .state settled (.state snapshot) returned)
      (decides : snapshot.evaluate query.key ⟨query.overrides, identity⟩ = .ok (value, tier))

structure ServesCurrent : Prop where
  /-- A record that is obtained is current. -/
  obtained : ∀ caller resource asked record returned,
    run.Obtains caller resource asked record returned →
      run.Current resource asked record returned
  /-- The first, empty snapshot is never obtained. -/
  refreshed : ∀ caller asked snapshot returned,
    run.Obtains caller .state asked (.state snapshot) returned → snapshot.refreshedAt ≠ none
  /-- What a caller is handed when its fetch has ended, it obtains. -/
  handed : ∀ caller stage fetch record move returned,
    Flight.Proceeds service (run.state returned) (run.state (returned + 1)) caller
      (.woken stage fetch (.ok record)) move →
      ∃ resource asked, run.Obtains caller resource asked record returned
  /-- What is known of an identifier without a fetch, a caller obtains at once. -/
  resolved : ∀ caller identifier moment identity,
    ((run.client moment).resolve identifier).2 = .known (some identity) →
      ∃ name, named? identifier = some name ∧
        run.Obtains caller (.identity name) moment (.identity identity) moment
  /-- The identity that a call answers with, it has obtained. -/
  identified : ∀ caller identifier asked ended identity,
    run.IdentifiesAt caller identifier asked → asked < ended →
      (run.state ended).callerPhase? caller =
        some (.finished (.ok (.identity (some identity)))) →
        ∃ name returned, named? identifier = some name ∧
          run.Obtains caller (.identity name) asked (.identity identity) returned
  evaluated : ∀ caller query begun ended value,
    run.BeginsAt caller query begun → begun < ended →
      (run.state ended).callerPhase? caller = some (.finished (.ok (.value value))) →
        run.FromCurrent caller query begun value

variable {run}

theorem Obtains.current (forward : run.Forward) {caller asked returned : Nat} {resource : Resource}
    {record : Fetched} (obtains : run.Obtains caller resource asked record returned) :
    run.Current resource asked record returned := by
  cases obtains with
  | cached record fresh =>
      obtain ⟨fetchedAt, stamped, young⟩ := fetchedAt?_of_fresh fresh
      rw [(run.cache_wellFormed asked).1] at young
      exact .inl ⟨fetchedAt, stamped, young⟩
  | awaited stage fetch record returned awaits =>
      obtain ⟨accepted, after, before, taken⟩ := accepted_of_awaits awaits
      exact .inr ⟨accepted, fetch, after, before, taken,
        forward asked accepted (Nat.le_of_lt after), taken.fetchedAt?⟩

theorem Obtains.refreshed {caller asked returned : Nat} {snapshot : Snapshot}
    (obtains : run.Obtains caller .state asked (.state snapshot) returned) :
    snapshot.refreshedAt ≠ none := by
  have stamped : ∃ fetchedAt, snapshot.refreshedAt = some fetchedAt := by
    cases obtains with
    | cached record fresh =>
        obtain ⟨fetchedAt, stamped, -⟩ := fetchedAt?_of_fresh fresh
        exact ⟨fetchedAt, stamped⟩
    | awaited stage fetch record returned awaits =>
        obtain ⟨accepted, -, -, taken⟩ := accepted_of_awaits awaits
        exact ⟨run.clock accepted, taken.fetchedAt?⟩
  obtain ⟨fetchedAt, stamped⟩ := stamped
  rw [stamped]
  exact Option.some_ne_none fetchedAt

theorem obtains_of_handed {caller fetch returned : Nat} {stage : Stage} {record : Fetched}
    {move : Move}
    (goesOn : Flight.Proceeds service (run.state returned) (run.state (returned + 1)) caller
      (.woken stage fetch (.ok record)) move) :
    ∃ resource asked, run.Obtains caller resource asked record returned := by
  obtain ⟨resource, asked, awaits⟩ := run.history.awaits_of_goesOn goesOn
  exact ⟨resource, asked, .awaited stage fetch record returned awaits⟩

theorem obtains_of_known {caller moment : Nat} {identifier : Option String} {identity : Identity}
    (known : ((run.client moment).resolve identifier).2 = .known (some identity)) :
    ∃ name, named? identifier = some name ∧
      run.Obtains caller (.identity name) moment (.identity identity) moment := by
  rcases resolved : (run.client moment).resolve identifier with ⟨after, resolution⟩
  rw [resolved] at known
  cases known
  cases resolve_known resolved with
  | fresh name identity named fresh =>
      exact ⟨name, named, .cached _ (congrArg (Option.map Fetched.identity) fresh)⟩

theorem obtains_of_identified {caller asked ended : Nat} {identifier : Option String}
    {identity : Identity} (identifies : run.IdentifiesAt caller identifier asked)
    (order : asked < ended)
    (finished : (run.state ended).callerPhase? caller =
      some (.finished (.ok (.identity (some identity))))) :
    ∃ name returned, named? identifier = some name ∧
      run.Obtains caller (.identity name) asked (.identity identity) returned := by
  obtain ⟨move, proceeds⟩ := identifies
  have turn : (run.client asked).identify identifier = (run.client (asked + 1), move) :=
    Option.some.inj proceeds.moves
  unfold identify at turn
  rcases resolved : (run.client asked).resolve identifier with ⟨after, resolution⟩
  rw [resolved] at turn
  cases resolution with
  | known found =>
      cases turn
      cases ends_of_finish proceeds order finished
      obtain ⟨name, named, obtains⟩ := obtains_of_known (congrArg Prod.snd resolved)
      exact ⟨name, asked, named, obtains⟩
  | missing name =>
      cases turn
      obtain ⟨fetch, returned, before, ⟨record, obtains, goesOn⟩ | ⟨error, fails, goesOn⟩⟩ :=
        goesOn_of_asks proceeds order finished nofun
      · obtain ⟨fetched, rfl⟩ := identity_of_obtains obtains
        cases ends_of_finish goesOn before finished
        exact ⟨name, returned, (resolve_missing resolved).1, obtains⟩
      · cases ends_of_finish goesOn before finished

theorem current_of_settles (forward : run.Forward) {caller begun settled : Nat}
    {identifier : Option String} {identity : Option Identity}
    (settles : run.Settles caller identifier begun identity settled) (record : Identity)
    (found : identity = some record) :
    ∃ name, run.Obtains caller (.identity name) begun (.identity record) settled ∧
      run.Current (.identity name) begun (.identity record) settled := by
  cases settles with
  | unnamed absent => cases found
  | obtained name identity settled named obtains =>
      cases found
      exact ⟨name, obtains, obtains.current forward⟩

theorem fromCurrent_of_evaluates (forward : run.Forward) {caller begun concluded : Nat}
    {query : Query} {value : Value} {tier : Tier}
    (evaluates : run.Evaluates caller query begun (.ok (value, tier)) concluded) :
    run.FromCurrent caller query begun value := by
  generalize same : Except.ok (value, tier) = outcome at evaluates
  cases evaluates with
  | unknown absent => cases same
  | unmatched name error returned named fails => cases same
  | undecided identity settled error returned settles openEnded fails => cases same
  | overridden identity settled found settles override =>
      cases same
      unfold Scope.find? at override
      split at override
      next given =>
          cases override
          exact .callSite given
      next =>
          split at override
          next matched =>
              cases override
              obtain ⟨record, rfl, lookup⟩ := Option.bind_eq_some_iff.mp matched
              obtain ⟨name, obtains, current⟩ := current_of_settles forward settles record rfl
              exact .identity name record concluded obtains current lookup
          · cases override
  | decided identity settled snapshot returned settles openEnded obtains =>
      refine .state identity settled snapshot concluded tier settles ?_ obtains
        (obtains.current forward) same.symm
      intro record found
      obtain ⟨name, -, current⟩ := current_of_settles forward settles record found
      exact ⟨name, current⟩

theorem fromCurrent_of_finished (forward : run.Forward) {caller begun ended : Nat} {query : Query}
    {value : Value} (begins : run.BeginsAt caller query begun) (order : begun < ended)
    (finished : (run.state ended).callerPhase? caller = some (.finished (.ok (.value value)))) :
    run.FromCurrent caller query begun value := by
  obtain ⟨outcome, concluded, evaluates, -, same⟩ := evaluates_of_begins begins order finished nofun
  cases outcome with
  | error error => cases same
  | ok found =>
      obtain ⟨returned, tier⟩ := found
      cases same
      exact fromCurrent_of_evaluates forward evaluates

/-- While the clock does not go back, no run of a client serves anything that has expired. -/
theorem run_servesCurrent (run : Run) (forward : run.Forward) : run.ServesCurrent where
  obtained _ _ _ _ _ obtains := obtains.current forward
  refreshed _ _ _ _ obtains := obtains.refreshed
  handed _ _ _ _ _ _ goesOn := obtains_of_handed goesOn
  resolved _ _ _ _ known := obtains_of_known known
  identified _ _ _ _ _ identifies order finished := obtains_of_identified identifies order finished
  evaluated _ _ _ _ _ begins order finished :=
    fromCurrent_of_finished forward begins order finished

/-- The value of the state that was accepted while the evaluation waited is a current one. -/
theorem run_servesCurrent_replaced : replaced.Forward ∧
    replaced.FromCurrent 1 ⟨"dark", some "ada", []⟩ 7 (.bool true) := by
  have forward : replaced.Forward :=
    replaced.forward_of_steps (by decide +kernel) (by decide +kernel)
  exact ⟨forward, (run_servesCurrent replaced forward).evaluated 1 _ 7 21 (.bool true)
    replaced_begins (by decide) replaced_finished⟩

end Run

end FeatureFlags.Client
