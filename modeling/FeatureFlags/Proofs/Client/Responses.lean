import FeatureFlags.Proofs.Client.Failing
import FeatureFlags.Proofs.Http.Reply

/-!
# What a response does to a client

A fetch over the web ends with its response.  Only a proper response changes the caches: it is
usable, and its members amount to a record of what was asked for.  Any other one leaves them as they
are, and everyone who waits for the fetch ends with the one error that says why
(`response_decides`).
-/

set_option autoImplicit false

namespace FeatureFlags.Client

open Http (Response Usable Unusable TooDeep)

/-! ## Proper responses and others -/

def AmountsTo (nesting : Nat) (response : Response) (resource : Resource) (now : Double)
    (record : Fetched) : Prop :=
  ∃ members, Usable nesting response members ∧
    Fetched.decode resource (.object members) now = .ok record

inductive Refuses (nesting : Nat) (response : Response) (resource : Resource) (now : Double) :
    Error → Prop where
  | unusable {error : Error} (unusable : Unusable nesting response resource error) :
      Refuses nesting response resource now error
  /-- The members are not those of a state or of an identity. -/
  | malformed {members : List (String × Value)} {fault : ParseFault}
      (usable : Usable nesting response members)
      (malformed : Fetched.decode resource (.object members) now = .error (.parse fault)) :
      Refuses nesting response resource now (.parse fault)
  | operator {members : List (String × Value)} {operator : Value}
      (usable : Usable nesting response members) (state : resource = .state)
      (unknown : Snapshot.decodeParts (.object members) = .error (.unknownOperator operator)) :
      Refuses nesting response resource now (.ruleIntegrity (.unknownOperator operator))

theorem decode_eq_error {resource : Resource} {data : Value} {now : Double} {error : Error}
    (refused : Fetched.decode resource data now = .error error) :
    (∃ fault, error = .parse fault) ∨ ∃ operator, resource = .state ∧
      Snapshot.decodeParts data = .error (.unknownOperator operator) ∧
        error = .ruleIntegrity (.unknownOperator operator) := by
  cases resource with
  | state =>
      rw [Fetched.decode, Snapshot.decode] at refused
      cases parts : Snapshot.decodeParts data with
      | ok held =>
          rw [parts] at refused
          cases refused
      | error fault =>
          rw [parts] at refused
          cases fault with
          | shape fault =>
              cases refused
              exact .inl ⟨_, rfl⟩
          | unknownOperator operator =>
              cases refused
              exact .inr ⟨operator, rfl, rfl, rfl⟩
  | identity identifier =>
      rw [Fetched.decode, Identity.decode] at refused
      split at refused
      · cases refused
        exact .inl ⟨_, rfl⟩
      · cases refused
      · cases refused
        exact .inl ⟨_, rfl⟩

/-- An identity is made of any object of overrides. -/
theorem amountsTo_identity_iff {nesting : Nat} {response : Response} {identifier : String}
    {now : Double} {record : Fetched} :
    AmountsTo nesting response (.identity identifier) now record ↔
      ∃ members overrides, Usable nesting response members ∧
        members.lookup "overrides" = some (.object overrides) ∧
          record = .identity ⟨identifier, overrides, now⟩ := by
  unfold AmountsTo
  refine exists_congr fun members => ?_
  rw [exists_and_left]
  refine and_congr_right fun _ => ?_
  rw [Fetched.decode, Identity.decode, Value.member]
  cases members.lookup "overrides" with
  | none => simp [Except.map]
  | some value => cases value <;> simp [Except.map, eq_comm]

def resultOf (nesting : Nat) (response : Response) (resource : Resource) (now : Double) :
    Except Error Fetched :=
  (response.members nesting resource).map .object >>= fun data => Fetched.decode resource data now

variable {nesting : Nat} {response : Response} {resource : Resource} {now : Double}

theorem resultOf_of_usable {members : List (String × Value)}
    (usable : Usable nesting response members) :
    resultOf nesting response resource now = Fetched.decode resource (.object members) now := by
  rw [resultOf, usable.members]
  rfl

theorem resultOf_of_unusable {error : Error} (unusable : Unusable nesting response resource error) :
    resultOf nesting response resource now = .error error := by
  rw [resultOf, unusable.members]
  rfl

theorem resultOf_eq_ok_iff {record : Fetched} :
    resultOf nesting response resource now = .ok record ↔
      AmountsTo nesting response resource now record := by
  constructor
  · intro made
    obtain ⟨members, usable⟩ | ⟨error, unusable⟩ :=
      Http.usable_or_unusable nesting response resource
    · rw [resultOf_of_usable usable] at made
      exact ⟨members, usable, made⟩
    · cases (resultOf_of_unusable unusable).symm.trans made
  · rintro ⟨members, usable, decoded⟩
    rw [resultOf_of_usable usable, decoded]

theorem resultOf_eq_error_iff {error : Error} :
    resultOf nesting response resource now = .error error ↔
      Refuses nesting response resource now error := by
  constructor
  · intro failed
    obtain ⟨members, usable⟩ | ⟨other, unusable⟩ :=
      Http.usable_or_unusable nesting response resource
    · rw [resultOf_of_usable usable] at failed
      rcases decode_eq_error failed with ⟨fault, rfl⟩ | ⟨operator, state, unknown, rfl⟩
      · exact .malformed usable failed
      · exact .operator usable state unknown
    · cases (resultOf_of_unusable unusable).symm.trans failed
      exact .unusable unusable
  · intro refuses
    cases refuses with
    | unusable unusable => exact resultOf_of_unusable unusable
    | malformed usable malformed => rw [resultOf_of_usable usable, malformed]
    | operator usable state unknown =>
        subst state
        rw [resultOf_of_usable usable, Fetched.decode, Snapshot.decode, unknown]
        rfl

theorem accept_snd (resource : Resource) (reply : Reply) (client : Client) :
    (client.accept resource reply).2 =
      reply >>= fun data => Fetched.decode resource data client.now := by
  cases accepted : client.accept resource reply with
  | mk after result =>
      cases result with
      | ok record =>
          obtain ⟨data, rfl, decoded, -⟩ := response_of_accept accepted
          exact decoded.symm
      | error error =>
          rcases error_of_accept accepted with rfl | ⟨data, rfl, refused⟩
          · rfl
          · exact refused.symm

namespace Run

variable (run : Run)

def Completes (moment : Nat) (resource : Resource) (fetch : Nat) (reply : Reply) : Prop :=
  ∃ given found, run.steps[moment]? = some (.move (.turn given)) ∧
    (run.state moment).agenda.head? = some (.fetch fetch) ∧
      (run.state moment).fetch? fetch = some found ∧ found.key = resource ∧
        found.phase.reply? given = some reply

/-- At a moment a fetch of a resource ends with a response that came over the web, by a library that
reads JSON up to a depth. -/
def Receives (nesting moment : Nat) (resource : Resource) (fetch : Nat) (response : Response) :
    Prop :=
  ∃ (library : Http.Library) (settings : Settings) (web : Web) (request : Http.Request),
    library.nesting = nesting ∧ Http.Connection.Used library settings web.connection ∧
      web.Gets resource request (.response response) ∧
        run.Completes moment resource fetch (web.fetch resource).2

structure Decides (nesting moment : Nat) (resource : Resource) (fetch : Nat)
    (response : Response) : Prop where
  /-- Just what a proper response amounts to is accepted. -/
  accepted : ∀ record, run.Accepted moment resource fetch record ↔
    AmountsTo nesting response resource (run.clock moment) record
  /-- It is taken into the caches, and a new state sweeps the identities if it is linked to them. -/
  taken : ∀ record, AmountsTo nesting response resource (run.clock moment) record →
    (run.client (moment + 1)).cache =
      if resource = .state ∧ run.linked = true then
        (record.keep (run.client moment).cache).sweep (run.clock moment) none
      else record.keep (run.client moment).cache
  kept : (∀ record, ¬AmountsTo nesting response resource (run.clock moment) record) →
    (run.client (moment + 1)).cache = (run.client moment).cache
  identity : ∀ identifier record, resource = .identity identifier →
    (AmountsTo nesting response resource (run.clock moment) record ↔
      ∃ members overrides, Usable nesting response members ∧
        members.lookup "overrides" = some (.object overrides) ∧
          record = .identity ⟨identifier, overrides, run.clock moment⟩)
  fails : ∀ error, run.FailsAt moment resource fetch error ↔
    Refuses nesting response resource (run.clock moment) error
  /-- It is the one or the other. -/
  total : (∃ record, AmountsTo nesting response resource (run.clock moment) record) ∨
    ∃ error, Refuses nesting response resource (run.clock moment) error
  /-- Whoever waits for the fetch and is not cancelled gets the error and nothing else. -/
  delivered : ∀ error, Refuses nesting response resource (run.clock moment) error →
    ∀ caller stage joined later,
      (run.state joined).callerPhase? caller = some (.waiting stage fetch) → joined ≤ moment →
        moment < later → run.Uncancelled caller joined later →
          run.Gets caller stage fetch error later
  /-- Once all that is due has had its turn twice, they have ended with it. -/
  ends : ∀ error, Refuses nesting response resource (run.clock moment) error →
    ∀ caller stage joined first second third,
      (run.state joined).callerPhase? caller = some (.waiting stage fetch) → joined ≤ moment →
        moment < first → first ≤ second → second ≤ third → run.Uncancelled caller joined third →
          run.turns first + (run.state first).agenda.length ≤ run.turns second →
            run.turns second + (run.state second).agenda.length ≤ run.turns third →
              (run.state third).callerPhase? caller = some (.finished (.failed error))

variable {run} {moment fetch : Nat}

/-- The last turn of a fetch. -/
theorem Completes.ends {reply : Reply} (completes : run.Completes moment resource fetch reply) :
    (run.state moment).Unfinished resource fetch ∧
      run.client (moment + 1) = ((run.client moment).accept resource reply).1 ∧
        (run.state (moment + 1)).fetchPhase? fetch =
          some (.finished (.ofExcept ((run.client moment).accept resource reply).2)) := by
  obtain ⟨given, found, turn, head, present, rfl, replied⟩ := completes
  obtain ⟨rest, agenda⟩ := List.head?_eq_some_iff.mp head
  have after : run.state (moment + 1) = Flight.State.complete service fetch found.key reply
      { run.state moment with agenda := rest } :=
    (run.state_succ_of_step turn).trans
      (Flight.State.step_of_reply (run.state moment) service agenda present replied)
  refine ⟨Flight.unfinished_of_reply present replied, ?_, ?_⟩
  · rw [client, after]
    rfl
  · rw [after]
    exact Flight.State.fetchPhase?_finishFetch _
      (Flight.State.fetchPhase?_of_fetch? (run.state moment) present) _

theorem Receives.completes {response : Response}
    (receives : run.Receives nesting moment resource fetch response) :
    run.Completes moment resource fetch ((response.members nesting resource).map .object) := by
  obtain ⟨library, settings, web, request, rfl, used, gets, completes⟩ := receives
  rw [Web.fetch_of_gets used gets] at completes
  exact completes

/-- How a fetch ends that receives a response. -/
theorem Receives.ends {response : Response}
    (receives : run.Receives nesting moment resource fetch response) :
    (run.state moment).Unfinished resource fetch ∧
      (run.client moment).accept resource ((response.members nesting resource).map .object) =
        (run.client (moment + 1), resultOf nesting response resource (run.clock moment)) ∧
      (run.state (moment + 1)).fetchPhase? fetch =
        some (.finished (.ofExcept (resultOf nesting response resource (run.clock moment)))) := by
  obtain ⟨unfinished, world, finished⟩ := receives.completes.ends
  have made : ((run.client moment).accept resource
      ((response.members nesting resource).map .object)).2 =
    resultOf nesting response resource (run.clock moment) := accept_snd _ _ _
  rw [made] at finished
  exact ⟨unfinished, Prod.ext world.symm made, finished⟩

theorem Receives.accepted_iff {response : Response}
    (receives : run.Receives nesting moment resource fetch response) (record : Fetched) :
    run.Accepted moment resource fetch record ↔
      AmountsTo nesting response resource (run.clock moment) record := by
  obtain ⟨unfinished, taken, finished⟩ := receives.ends
  rw [← resultOf_eq_ok_iff]
  constructor
  · rintro ⟨reply, accepts⟩
    have ending := Option.some.inj (finished.symm.trans accepts.finished)
    cases result : resultOf nesting response resource (run.clock moment) with
    | ok made =>
        rw [result] at ending
        cases ending
        rfl
    | error error =>
        rw [result] at ending
        cases ending
  · intro made
    rw [made] at taken finished
    exact ⟨_, unfinished, taken, finished⟩

theorem Receives.failsAt_iff {response : Response}
    (receives : run.Receives nesting moment resource fetch response) (error : Error) :
    run.FailsAt moment resource fetch error ↔
      Refuses nesting response resource (run.clock moment) error := by
  obtain ⟨unfinished, taken, finished⟩ := receives.ends
  rw [← resultOf_eq_error_iff]
  constructor
  · rintro ⟨-, failed⟩
    have ending := Option.some.inj (finished.symm.trans failed)
    cases result : resultOf nesting response resource (run.clock moment) with
    | ok made =>
        rw [result] at ending
        cases ending
    | error other =>
        rw [result] at ending
        cases ending
        rfl
  · intro refused
    rw [refused] at finished
    exact ⟨unfinished, finished⟩

theorem amountsTo_or_refuses (nesting : Nat) (response : Response) (resource : Resource)
    (now : Double) :
    (∃ record, AmountsTo nesting response resource now record) ∨
      ∃ error, Refuses nesting response resource now error := by
  cases result : resultOf nesting response resource now with
  | ok record => exact .inl ⟨record, resultOf_eq_ok_iff.mp result⟩
  | error error => exact .inr ⟨error, resultOf_eq_error_iff.mp result⟩

theorem response_decides {response : Response}
    (receives : run.Receives nesting moment resource fetch response) :
    run.Decides nesting moment resource fetch response where
  accepted := receives.accepted_iff
  taken record amounts := ((receives.accepted_iff record).mpr amounts).cache.2
  kept none := by
    obtain ⟨record, amounts⟩ | ⟨error, refuses⟩ :=
      amountsTo_or_refuses nesting response resource (run.clock moment)
    · exact absurd amounts (none record)
    · obtain ⟨-, taken, -⟩ := receives.ends
      rw [resultOf_eq_error_iff.mpr refuses] at taken
      exact (accept_error taken).2
  identity identifier record same := by
    subst same
    exact amountsTo_identity_iff
  fails := receives.failsAt_iff
  total := amountsTo_or_refuses nesting response resource (run.clock moment)
  delivered error refuses caller stage joined later waiting order after kept :=
    ((receives.failsAt_iff error).mpr refuses).delivered waiting order after kept
  ends error refuses caller stage joined first second third waiting order after later last kept
      enough again :=
    ((receives.failsAt_iff error).mpr refuses).ended waiting order after later last kept enough
      again

/-! A call waits for the state, and one response comes over the web. -/

def server (response : Response) : Web :=
  (Web.new Http.Connection.keyOnly).setReply "/sdk/initialize" (.response response)

def answered (response : Response) : Run where
  host := "flags.test"
  now := .ofInt 0
  lifetimes := .usual
  linked := true
  steps := [
    .move (.call (.start (.refresh .refresh)) false),
    .move (.turn none),
    .move (.turn (some ((server response).fetch .state).2))]

theorem answered_receives (response : Response) :
    (answered response).Receives Json.usualNesting 2 .state 0 response := by
  have used : Http.Connection.Used .usual Http.Connection.keyOnly (server response).connection :=
    .new
  have path : ((Http.Connection.new Http.Connection.keyOnly).send .state).2.toOption.map
      (·.path) = some "/sdk/initialize" := by decide +kernel
  cases sent : ((Http.Connection.new Http.Connection.keyOnly).send .state).2 with
  | error error =>
      rw [sent] at path
      cases path
  | ok request =>
      rw [sent] at path
      have gets : (server response).Gets .state request (.response response) := by
        refine ⟨sent, ?_⟩
        have same : request.path = "/sdk/initialize" := Option.some.inj path
        rw [Web.replyTo, same]
        rfl
      exact ⟨.usual, _, _, _, rfl, used, gets, _, _, rfl, rfl, rfl, rfl, rfl⟩

def garbled : Response :=
  ⟨200, Text.Utf8.encode "flags".toList⟩

theorem response_decides_garbled :
    (answered garbled).Receives Json.usualNesting 2 .state 0 garbled ∧
      (answered garbled).Decides Json.usualNesting 2 .state 0 garbled :=
  ⟨answered_receives garbled, response_decides (answered_receives garbled)⟩

/-- A success that is no JSON either, for its brackets are never closed. -/
def bracketed : Response :=
  ⟨200, List.replicate 2000 0x5B⟩

/-- The call that waits for it gets an error from outside the library, and no other. -/
theorem open_brackets_escape :
    (answered bracketed).Receives Json.usualNesting 2 .state 0 bracketed ∧
      ((answered bracketed).state 2).callerPhase? 0 = some (.waiting (.refreshing .refresh) 0) ∧
        (answered bracketed).FailsAt 2 .state 0 (.foreign (.tooDeep .jsonArray)) ∧
          ∀ fault, ¬(answered bracketed).FailsAt 2 .state 0 (.parse fault) := by
  have receives := answered_receives bracketed
  have deep : Value.ofJson Json.usualNesting bracketed.body = .error .deepArray :=
    Json.ofJson_brackets 1029 (by decide)
  have fails := (receives.failsAt_iff _).mpr (.unusable (.tooDeep (.array deep)))
  refine ⟨receives, rfl, fails, fun fault parses => ?_⟩
  cases fails.2.symm.trans parses.2

end Run

end FeatureFlags.Client
