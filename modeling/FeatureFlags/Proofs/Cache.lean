import FeatureFlags.Cache
import FeatureFlags.Proofs.Double.Order
import FeatureFlags.Proofs.Entries
import FeatureFlags.Resource

/-!
# Records and their age

What is fresh was fresh before, and what was fetched later is fresh for longer; what a sweep drops
is no longer fresh.  Snapshot and identities are treated alike: `heldSince?` says of a resource when
its cached record was fetched.
-/

set_option autoImplicit false

namespace FeatureFlags

/-! ## Age -/

theorem isFresh_of_le {earlier now older newer lifetime : Double} (clock : earlier.le now = true)
    (stamps : older.le newer = true) (fresh : isFresh now older lifetime = true) :
    isFresh earlier newer lifetime = true :=
  Double.sub_lt_of_le clock stamps fresh

theorem le_refl_of_isFresh {now fetchedAt lifetime : Double}
    (fresh : isFresh now fetchedAt lifetime = true) :
    now.le now = true ∧ fetchedAt.le fetchedAt = true :=
  (Double.ne_nan_of_sub_lt fresh).imp Double.le_refl_of_ne_nan Double.le_refl_of_ne_nan

theorem not_isFresh_of_isExpired {now fetchedAt lifetime : Double}
    (expired : isExpired now fetchedAt lifetime = true) :
    isFresh now fetchedAt lifetime = false :=
  Double.sub_not_lt_of_add_lt expired

/-- What a sweep may drop at one moment is not fresh at any later one. -/
theorem not_isFresh_of_le {earlier now fetchedAt lifetime : Double} (clock : earlier.le now = true)
    (stale : isFresh earlier fetchedAt lifetime = false) :
    isFresh now fetchedAt lifetime = false := by
  rw [Bool.eq_false_iff] at stale ⊢
  exact fun fresh => stale (isFresh_of_le clock (le_refl_of_isFresh fresh).2 fresh)

theorem isFresh_self {now lifetime : Double} (finite : now.isFinite = true)
    (positive : (Double.zero false).lt lifetime = true) : isFresh now now lifetime = true :=
  Double.sub_self_lt finite positive

/-! ## What a cache holds -/

def Lifetimes.of (resource : Resource) (lifetimes : Lifetimes) : Double :=
  match resource with
  | .state => lifetimes.state
  | .identity _ => lifetimes.identity

namespace Cache

def heldSince? (resource : Resource) (cache : Cache) : Option Double :=
  match resource with
  | .state => cache.snapshot.refreshedAt
  | .identity identifier => (cache.identity? identifier).map (·.fetchedAt)

def holds (now : Double) (resource : Resource) (cache : Cache) : Bool :=
  (cache.heldSince? resource).any fun fetchedAt =>
    isFresh now fetchedAt (cache.lifetimes.of resource)

/-- No identifier has two entries. -/
def Tidy (cache : Cache) : Prop :=
  (cache.identities.map Prod.fst).Nodup

theorem tidy_empty (lifetimes : Lifetimes) (linked : Bool) : (Cache.empty lifetimes linked).Tidy :=
  List.nodup_nil

theorem Tidy.sweep {cache : Cache} (tidy : cache.Tidy) (now : Double) (keep : Option String) :
    (cache.sweep now keep).Tidy :=
  tidy.sublist (List.filter_sublist.map Prod.fst)

theorem Tidy.withIdentity {cache : Cache} (tidy : cache.Tidy) (identity : Identity) :
    (cache.withIdentity identity).Tidy :=
  Entries.nodup_put tidy

theorem freshSnapshot?_eq_none_iff (now : Double) (cache : Cache) :
    cache.freshSnapshot? now = none ↔ cache.holds now .state = false := by
  have same : cache.holds now .state = cache.isStateFresh now := rfl
  rw [same, freshSnapshot?]
  cases cache.isStateFresh now <;> simp

theorem snapshot_of_fresh {now : Double} {cache : Cache} {snapshot : Snapshot}
    (fresh : cache.freshSnapshot? now = some snapshot) : cache.snapshot = snapshot := by
  unfold freshSnapshot? at fresh
  split at fresh
  · exact Option.some.inj fresh
  · cases fresh

theorem freshIdentity?_eq_none_iff (now : Double) (identifier : String) (cache : Cache) :
    cache.freshIdentity? now identifier = none ↔
      cache.holds now (.identity identifier) = false := by
  rw [freshIdentity?, Option.filter_eq_none_iff]
  cases found : cache.identity? identifier <;>
    simp [isIdentityFresh, holds, heldSince?, Lifetimes.of, found]

theorem holds_of_freshSnapshot {now : Double} {cache : Cache} {snapshot : Snapshot}
    (fresh : cache.freshSnapshot? now = some snapshot) : cache.holds now .state = true := by
  rw [← Bool.not_eq_false, ← freshSnapshot?_eq_none_iff, fresh]
  simp

theorem holds_of_freshIdentity {now : Double} {cache : Cache} {name : String} {identity : Identity}
    (fresh : cache.freshIdentity? now name = some identity) :
    cache.holds now (.identity name) = true := by
  rw [← Bool.not_eq_false, ← freshIdentity?_eq_none_iff, fresh]
  simp

theorem sweep_lifetimes (now : Double) (keep : Option String) (cache : Cache) :
    (cache.sweep now keep).lifetimes = cache.lifetimes := rfl

theorem Tidy.identity?_sweep {cache : Cache} (tidy : cache.Tidy) (now : Double)
    (keep : Option String) (identifier : String) :
    (cache.sweep now keep).identity? identifier =
      (cache.identity? identifier).filter fun identity =>
        !cache.isStale now keep (identifier, identity) :=
  Entries.lookup_filter tidy _ identifier

/-- A sweep keeps the record of a resource, or it drops it as expired. -/
theorem Tidy.heldSince?_sweep {cache : Cache} (tidy : cache.Tidy) (now : Double)
    (keep : Option String) (resource : Resource) :
    (cache.sweep now keep).heldSince? resource = cache.heldSince? resource ∨
      ((cache.sweep now keep).heldSince? resource = none ∧
        ∃ fetchedAt, cache.heldSince? resource = some fetchedAt ∧
          isExpired now fetchedAt (cache.lifetimes.of resource) = true) := by
  cases resource with
  | state => exact .inl rfl
  | identity identifier =>
      have swept := tidy.identity?_sweep now keep identifier
      cases found : cache.identity? identifier with
      | none => exact .inl (by simp [heldSince?, swept, found])
      | some identity =>
          cases stale : cache.isStale now keep (identifier, identity) with
          | false => exact .inl (by simp [heldSince?, swept, found, stale, Option.filter])
          | true =>
              refine .inr ⟨?_, identity.fetchedAt, ?_, ?_⟩
              · simp [heldSince?, swept, found, stale, Option.filter]
              · simp [heldSince?, found]
              · exact ((Bool.and_eq_true _ _).mp stale).2

theorem heldSince?_withSnapshot (snapshot : Snapshot) (cache : Cache) (resource : Resource) :
    (cache.withSnapshot snapshot).heldSince? resource =
      if resource = .state then snapshot.refreshedAt else cache.heldSince? resource := by
  cases resource <;> rfl

theorem heldSince?_withIdentity (identity : Identity) (cache : Cache) (resource : Resource) :
    (cache.withIdentity identity).heldSince? resource =
      if resource = .identity identity.identifier then some identity.fetchedAt
      else cache.heldSince? resource := by
  cases resource with
  | state => rfl
  | identity identifier =>
      simp only [heldSince?, identity?, withIdentity, Entries.lookup_put, Resource.identity.injEq]
      by_cases same : identifier = identity.identifier <;> simp [same]

/-! ## Sweeps -/

theorem sweep_comm (cache : Cache) (first second : Double) (left right : Option String) :
    (cache.sweep first left).sweep second right = (cache.sweep second right).sweep first left := by
  unfold sweep
  simp only [List.filter_filter, mk.injEq, true_and]
  refine List.filter_congr fun entry _ => ?_
  exact Bool.and_comm _ _

theorem sweep_sweep (cache : Cache) (now : Double) (keep : Option String) :
    (cache.sweep now keep).sweep now keep = cache.sweep now keep := by
  unfold sweep
  simp only [List.filter_filter, mk.injEq, true_and]
  refine List.filter_congr fun entry _ => ?_
  exact Bool.and_self _

/-- A sweep that drops nothing drops nothing after the identity that it spares is renewed. -/
theorem sweep_withIdentity {cache : Cache} {now : Double} {identity : Identity}
    (swept : cache.sweep now (some identity.identifier) = cache) :
    (cache.withIdentity identity).sweep now (some identity.identifier) =
      cache.withIdentity identity := by
  have old : ∀ entry ∈ cache.identities,
      (!cache.isStale now (some identity.identifier) entry) = true :=
    List.filter_eq_self.mp (congrArg Cache.identities swept)
  have new : (cache.withIdentity identity).identities.filter
      (fun entry => !(cache.withIdentity identity).isStale now (some identity.identifier) entry) =
        (cache.withIdentity identity).identities := by
    refine List.filter_eq_self.mpr fun entry member => ?_
    rcases Entries.mem_put member with rfl | before
    · simp [isStale]
    · exact old entry before
  exact congrArg (fun identities => { cache.withIdentity identity with identities := identities })
    new

/-! ## Holding on -/

/-- A record that is not fresh does not become so by a sweep or by waiting. -/
theorem Tidy.not_holds_sweep {cache : Cache} (tidy : cache.Tidy) {now : Double}
    {resource : Resource} (stale : cache.holds now resource = false) (moment : Double)
    (keep : Option String) : (cache.sweep moment keep).holds now resource = false := by
  unfold holds at stale ⊢
  rcases tidy.heldSince?_sweep moment keep resource with same | ⟨dropped, -⟩
  · rw [same, sweep_lifetimes, stale]
  · rw [dropped, Option.any_none]

theorem not_holds_of_le {cache : Cache} {earlier now : Double} (clock : earlier.le now = true)
    {resource : Resource} (stale : cache.holds earlier resource = false) :
    cache.holds now resource = false := by
  unfold holds at stale ⊢
  cases held : cache.heldSince? resource with
  | none => rfl
  | some fetchedAt =>
      rw [held, Option.any_some] at stale
      exact not_isFresh_of_le clock stale

/-- For as long as what was fetched at one time would be fresh, the cached record of the resource is
at least as new. -/
def Covers (now fetchedAt : Double) (resource : Resource) (cache : Cache) : Prop :=
  isFresh now fetchedAt (cache.lifetimes.of resource) = true →
    fetchedAt.le now = true ∧
      ∃ newer, cache.heldSince? resource = some newer ∧ fetchedAt.le newer = true

theorem Covers.holds {cache : Cache} {now fetchedAt : Double} {resource : Resource}
    (covers : cache.Covers now fetchedAt resource)
    (fresh : isFresh now fetchedAt (cache.lifetimes.of resource) = true) :
    cache.holds now resource = true := by
  obtain ⟨-, newer, held, ordered⟩ := covers fresh
  rw [Cache.holds, held, Option.any_some]
  exact isFresh_of_le (le_refl_of_isFresh fresh).1 ordered fresh

theorem Covers.later {cache : Cache} {earlier now fetchedAt : Double} {resource : Resource}
    (covers : cache.Covers earlier fetchedAt resource) (clock : earlier.le now = true) :
    cache.Covers now fetchedAt resource := by
  intro fresh
  have before := isFresh_of_le clock (le_refl_of_isFresh fresh).2 fresh
  obtain ⟨past, newer⟩ := covers before
  exact ⟨Double.le_trans past clock, newer⟩

/-- A sweep that does not run ahead of the clock drops nothing that is still fresh. -/
theorem Covers.sweep {cache : Cache} (tidy : cache.Tidy) {now fetchedAt : Double}
    {resource : Resource} (covers : cache.Covers now fetchedAt resource) {moment : Double}
    (early : moment = now ∨ moment.le now = true) (keep : Option String) :
    (cache.sweep moment keep).Covers now fetchedAt resource := by
  intro fresh
  rw [sweep_lifetimes] at fresh
  obtain ⟨past, newer, held, ordered⟩ := covers fresh
  refine ⟨past, ?_⟩
  rcases tidy.heldSince?_sweep moment keep resource with same | ⟨-, dropped, found, expired⟩
  · exact ⟨newer, same.trans held, ordered⟩
  · cases held.symm.trans found
    have inTime : moment.le now = true := by
      rcases early with rfl | inTime
      · exact (le_refl_of_isFresh fresh).1
      · exact inTime
    have stillFresh := isFresh_of_le inTime ordered fresh
    rw [not_isFresh_of_isExpired expired] at stillFresh
    cases stillFresh

end Cache

end FeatureFlags
