import FeatureFlags.Proofs.Client.Evaluation

/-!
# One evaluation, one state

An evaluation never mixes two states: its outcome is that of the five tiers on the overrides of the
call, the one identity that it settled on and the one snapshot that it obtained, and that snapshot
is what a single accepted response amounts to.  What other calls fetch, replace or sweep while the
evaluation waits does not show in the outcome (`evaluation_of_one_state`).
-/

set_option autoImplicit false

namespace FeatureFlags.Client.Run

variable {run : Run}

/-- A snapshot is what one response amounts to as a whole, accepted before a moment. -/
def OfOneResponse (run : Run) (snapshot : Snapshot) (moment : Nat) : Prop :=
  ∃ accepted fetch data, accepted < moment ∧
    Flight.Accepts service (run.state accepted) (run.state (accepted + 1)) .state fetch (.ok data)
      (.state snapshot) ∧
    Snapshot.decode data (run.clock accepted) = .ok snapshot

theorem ofOneResponse_of_accepted {accepted fetch moment : Nat} {snapshot : Snapshot}
    (taken : run.Accepted accepted .state fetch (.state snapshot)) (order : accepted < moment) :
    run.OfOneResponse snapshot moment := by
  obtain ⟨data, accepts, decoded, -⟩ := taken.response
  refine ⟨accepted, fetch, data, order, accepts, ?_⟩
  rcases decode_eq_ok decoded with ⟨-, made, same, result⟩ | ⟨name, identity, other, -⟩
  · cases same
    exact result
  · cases other

theorem snapshot_of_fresh {client : Client} {snapshot : Snapshot}
    (fresh : client.fresh? .state = some (.state snapshot)) : client.cache.snapshot = snapshot := by
  obtain ⟨found, held, same⟩ := Option.map_eq_some_iff.mp fresh
  cases same
  exact Cache.snapshot_of_fresh held

theorem Obtains.ofOneResponse {caller asked returned : Nat} {snapshot : Snapshot}
    (obtains : run.Obtains caller .state asked (.state snapshot) returned) :
    run.OfOneResponse snapshot returned := by
  cases obtains with
  | cached record fresh =>
      obtain ⟨fetchedAt, stamped, -⟩ := fetchedAt?_of_fresh fresh
      obtain rfl := snapshot_of_fresh fresh
      rcases run.snapshot_accepted asked with first | ⟨earlier, fetch, before, accepted⟩
      · rw [first] at stamped
        cases stamped
      · exact ofOneResponse_of_accepted accepted before
  | awaited stage fetch record returned awaits =>
      obtain ⟨moment, -, before, accepted⟩ := accepted_of_awaits awaits
      exact ofOneResponse_of_accepted accepted before

/-- An evaluation does not get past its look at the key or past a fetch of its own. -/
inductive StopsShort (run : Run) (caller : Nat) (query : Query) (begun : Nat) :
    Except Error (Value × Tier) → Prop where
  | unknown (absent : Entries.contains (.string query.key)
        (run.client begun).cache.snapshot.flags = false) :
      StopsShort run caller query begun (.error (.flagNotFound (.string query.key)))
  | unmatched (name : String) (error : Error) (returned : Nat)
      (named : named? query.identifier = some name)
      (fails : run.Fails caller (.identity name) begun error returned) :
      StopsShort run caller query begun (.error error)
  | undecided (identity : Option Identity) (settled : Nat) (error : Error) (returned : Nat)
      (settles : run.Settles caller query.identifier begun identity settled)
      (fails : run.Fails caller .state settled error returned) :
      StopsShort run caller query begun (.error error)

/-- The outcome is that of the tiers on three pieces: the overrides of the call, the identity that
the evaluation settled on, and the snapshot of one response, which it obtained for itself; where the
first two pieces decide, every snapshot gives the same outcome. -/
inductive OnFixedPieces (run : Run) (caller : Nat) (query : Query) (begun : Nat)
    (outcome : Except Error (Value × Tier)) : Prop where
  | overridden (identity : Option Identity) (settled : Nat)
      (settles : run.Settles caller query.identifier begun identity settled)
      (decides : ∀ snapshot,
        outcome = FeatureFlags.resolve snapshot query.key ⟨query.overrides, identity⟩)
  | decided (identity : Option Identity) (settled : Nat) (snapshot : Snapshot) (returned : Nat)
      (settles : run.Settles caller query.identifier begun identity settled)
      (obtains : run.Obtains caller .state settled (.state snapshot) returned)
      (response : run.OfOneResponse snapshot returned)
      (decides : outcome = FeatureFlags.resolve snapshot query.key ⟨query.overrides, identity⟩)

/-- An evaluation that gets past its look at the key and its fetches has the outcome of the tiers on
three fixed pieces, whatever else happens in the run. -/
theorem evaluation_of_one_state (run : Run) {caller begun ended : Nat} {query : Query}
    {ending : Flight.Ending Answer} (begins : run.BeginsAt caller query begun)
    (order : begun < ended)
    (finished : (run.state ended).callerPhase? caller = some (.finished ending))
    (kept : ending ≠ .cancelled) :
    ∃ outcome : Except Error (Value × Tier), ending = .ofExcept (answer outcome) ∧
      (run.StopsShort caller query begun outcome ∨
        run.OnFixedPieces caller query begun outcome) := by
  obtain ⟨outcome, concluded, evaluates, -, rfl⟩ := evaluates_of_begins begins order finished kept
  refine ⟨outcome, rfl, ?_⟩
  cases evaluates with
  | unknown absent => exact .inl (.unknown absent)
  | unmatched name error returned named fails =>
      exact .inl (.unmatched name error concluded named fails)
  | undecided identity settled error returned settles openEnded fails =>
      exact .inl (.undecided identity settled error concluded settles fails)
  | overridden identity settled found settles override =>
      refine .inr (.overridden identity concluded settles fun snapshot => ?_)
      rw [FeatureFlags.resolve, override]
  | decided identity settled snapshot returned settles openEnded obtains =>
      refine .inr (.decided identity settled snapshot concluded settles obtains
        obtains.ofOneResponse ?_)
      rw [FeatureFlags.resolve, openEnded]

/-- The evaluation that waits has the value of the state that replaced the first one. -/
theorem evaluation_of_one_state_replaced :
    replaced.BeginsAt 1 ⟨"dark", some "ada", []⟩ 7 ∧
      (replaced.state 21).callerPhase? 1 = some (.finished (.ok (.value (.bool true)))) ∧
      ∃ outcome : Except Error (Value × Tier),
        .ok (.value (.bool true)) = Flight.Ending.ofExcept (answer outcome) ∧
        (replaced.StopsShort 1 ⟨"dark", some "ada", []⟩ 7 outcome ∨
          replaced.OnFixedPieces 1 ⟨"dark", some "ada", []⟩ 7 outcome) :=
  ⟨replaced_begins, replaced_finished,
    evaluation_of_one_state replaced replaced_begins (by decide) replaced_finished (by simp)⟩

end FeatureFlags.Client.Run
