import FeatureFlags.Client.Service
import FeatureFlags.Proofs.Flight.Aside

/-!
# What others see of a client

A call that is cancelled may still ask for its client to be closed, and does nothing else.  How
often that was asked is nothing that calls and fetches read, so to everyone else a client is the
same with and without it (`service_discreet`).
-/

set_option autoImplicit false

namespace FeatureFlags.Client

/-- A client but for how often it has been asked to close. -/
def publicly (client : Client) : Client :=
  { client with closings := 0 }

@[simp]
theorem cache_publicly (client : Client) : client.publicly.cache = client.cache := rfl

@[simp]
theorem now_publicly (client : Client) : client.publicly.now = client.now := rfl

theorem sweep_publicly (now : Double) (keep : Option String) (client : Client) :
    client.publicly.sweep now keep = (client.sweep now keep).publicly := by
  by_cases nothing : client.cache.staleCount now keep = 0
  · simp only [sweep, cache_publicly, nothing, if_true]
    rfl
  · simp only [sweep, cache_publicly, nothing, if_false]
    rfl

theorem conclude_publicly (query : Query) (closes : Bool) (result : Except Error (Value × Tier))
    (client : Client) :
    (client.publicly.conclude query closes result).map publicly id =
      (client.conclude query closes result).map publicly id := by
  cases closes <;> cases result <;> rfl

theorem afterIdentity_publicly (query : Query) (identity : Option Identity) (closes : Bool)
    (client : Client) :
    (client.publicly.afterIdentity query identity closes).map publicly id =
      (client.afterIdentity query identity closes).map publicly id := by
  simp only [afterIdentity, cache_publicly, now_publicly]
  split
  · exact conclude_publicly _ _ _ client
  · split
    · exact conclude_publicly _ _ _ client
    · rfl

theorem resolve_publicly (identifier : Option String) (client : Client) :
    client.publicly.resolve identifier = (client.resolve identifier).map publicly id := by
  unfold resolve
  split
  · rfl
  · simp only [sweep_publicly, cache_publicly, now_publicly]
    split <;> rfl

theorem evaluate_publicly (query : Query) (closes : Bool) (client : Client) :
    (client.publicly.evaluate query closes).map publicly id =
      (client.evaluate query closes).map publicly id := by
  simp only [evaluate, cache_publicly, resolve_publicly]
  split
  · rcases client.resolve query.identifier with ⟨swept, identity | identifier⟩
    · exact afterIdentity_publicly _ _ _ swept
    · rfl
  · exact conclude_publicly _ _ _ client

theorem identify_publicly (identifier : Option String) (client : Client) :
    (client.publicly.identify identifier).map publicly id =
      (client.identify identifier).map publicly id := by
  simp only [identify, resolve_publicly]
  rcases client.resolve identifier with ⟨swept, identity | missing⟩ <;> rfl

theorem afterRefresh_publicly (purpose : Purpose) (client : Client) :
    (client.publicly.afterRefresh purpose).map publicly id =
      (client.afterRefresh purpose).map publicly id := by
  cases purpose with
  | refresh => rfl
  | setUp => rfl
  | visit query => exact evaluate_publicly query true (client.log (.initialized client.host))

theorem refresh_publicly (purpose : Purpose) (client : Client) :
    (client.publicly.refresh purpose).map publicly id =
      (client.refresh purpose).map publicly id := by
  simp only [refresh, cache_publicly, now_publicly]
  split
  · exact afterRefresh_publicly purpose client
  · rfl

theorem enter_publicly (stage : Stage) (client : Client) :
    (client.publicly.enter stage).map publicly id = (client.enter stage).map publicly id := by
  cases stage with
  | start call =>
      cases call with
      | refresh purpose => exact refresh_publicly purpose client
      | identify identifier => exact identify_publicly identifier client
      | evaluate query => exact evaluate_publicly query false client
  | _ => rfl

theorem resume_publicly (stage : Stage) (result : Except Error Fetched) (client : Client) :
    (client.publicly.resume stage result).map publicly id =
      (client.resume stage result).map publicly id := by
  cases stage with
  | start call => rfl
  | refreshing purpose =>
      cases result with
      | error error => rfl
      | ok fetched => exact afterRefresh_publicly purpose client
  | identifying => cases result <;> rfl
  | matching query closes =>
      cases result with
      | error error => exact conclude_publicly query closes (.error error) client
      | ok fetched => exact afterIdentity_publicly query fetched.identity? closes client
  | deciding query identity closes =>
      cases result with
      | error error => exact conclude_publicly query closes (.error error) client
      | ok fetched =>
          exact conclude_publicly query closes
            (fetched.snapshot.evaluate query.key ⟨query.overrides, identity⟩) client

theorem leave_publicly (stage : Stage) (client : Client) :
    (client.leave stage).publicly = client.publicly := by
  unfold leave
  split <;> rfl

theorem acceptState_publicly (reply : Reply) (client : Client) :
    (client.publicly.acceptState reply).map publicly id =
      (client.acceptState reply).map publicly id := by
  simp only [acceptState, now_publicly]
  split
  · rfl
  next snapshot decoded =>
      let after : Client := ({ client with cache := client.cache.withSnapshot snapshot }).log
        (.stateRefreshed snapshot.flags.length snapshot.overrides.length)
      change Prod.map publicly id
        (if client.cache.linked then after.publicly.sweep client.now none else after.publicly,
          Except.ok (Fetched.state snapshot)) =
        Prod.map publicly id
          (if client.cache.linked then after.sweep client.now none else after,
            .ok (.state snapshot))
      rw [sweep_publicly]
      split <;> rfl

theorem accept_publicly (resource : Resource) (reply : Reply) (client : Client) :
    (client.publicly.accept resource reply).map publicly id =
      (client.accept resource reply).map publicly id := by
  cases resource with
  | state => exact acceptState_publicly reply client
  | identity identifier =>
      simp only [accept, acceptIdentity, now_publicly]
      split <;> rfl

theorem service_discreet : Flight.Discreet service publicly where
  again _ := rfl
  enter := enter_publicly
  resume := resume_publicly
  leave := leave_publicly
  accept := accept_publicly

end FeatureFlags.Client
