import FeatureFlags.Proofs.Client.Outcome
import FeatureFlags.Proofs.Rule.Trial

/-!
# The tiers of an evaluation beside the base value

The chain of overrides is written twice: once for evaluations, with the rules of the flag in it,
and once for what the rules of other flags see of the flag.  The two agree unless a rule of the flag
matches or dangles, and an evaluation reports the first tier that holds the key, whatever value it
holds (`evaluate_beside_base`).
-/

set_option autoImplicit false

namespace FeatureFlags

/-! ## One flag of a snapshot -/

namespace Snapshot

structure LeavesOpen (snapshot : Snapshot) (key : String) (scope : Scope) : Prop where
  unscoped : scope.find? (.string key) = none
  notOverridden : snapshot.override? (.string key) = none

/-- An evaluation gives the base value of a flag, and both are the value that a tier holds. -/
structure AtBase (snapshot : Snapshot) (flag : Flag) (scope : Scope)
    (outcome : Except Error (Value × Tier)) (value : Value) (tier : Tier) : Prop where
  evaluated : outcome = .ok (flag.baseValue snapshot scope, tier)
  base : flag.baseValue snapshot scope = value

/-- The outcome of evaluating a flag under its key, tier by tier, beside the base value of the flag.
The rules count only where no override does; the first that matches decides if none before it
dangles. -/
structure BesideBase (snapshot : Snapshot) (flag : Flag) (key : String) (scope : Scope)
    (outcome : Except Error (Value × Tier)) : Prop where
  callSite : ∀ value, scope.callSite.lookup key = some value →
    snapshot.AtBase flag scope outcome value .callSite
  identity : ∀ identity value, scope.callSite.lookup key = none →
    scope.identity = some identity → identity.overrides.lookup key = some value →
      snapshot.AtBase flag scope outcome value .identity
  globalOverride : ∀ value, scope.find? (.string key) = none →
    snapshot.override? (.string key) = some value →
      snapshot.AtBase flag scope outcome value .globalOverride
  default : snapshot.LeavesOpen key scope →
    (∀ rule ∈ flag.rules, ¬rule.Matches snapshot scope ∧ ¬rule.Dangles snapshot) →
      snapshot.AtBase flag scope outcome flag.value .default
  dynamicRule : snapshot.LeavesOpen key scope →
    ∀ earlier rule later, flag.rules = earlier ++ rule :: later →
      (∀ passed ∈ earlier, passed.GoesOn snapshot scope) → rule.Matches snapshot scope →
        outcome = .ok (rule.value, .dynamicRule) ∧ flag.baseValue snapshot scope = flag.value
  dangling : snapshot.LeavesOpen key scope →
    ∀ earlier rule later, flag.rules = earlier ++ rule :: later →
      (∀ passed ∈ earlier, passed.GoesOn snapshot scope) → rule.Dangles snapshot →
        outcome = .error (rule.condition.fault (.string key)) ∧
          flag.baseValue snapshot scope = flag.value
  asInput : ∀ other value, (flag, value) ∈ (Flag.matching other snapshot scope).consulted →
    value = flag.baseValue snapshot scope

variable {snapshot : Snapshot} {flag : Flag} {key : String} {scope : Scope}

theorem outcome_unlisted (absent : snapshot.flags.lookup (.string key) = none) :
    snapshot.outcome key scope = .error (.flagNotFound (.string key)) := by
  rw [outcome, Entries.contains, absent]
  rfl

theorem outcome_listed (listed : snapshot.flags.lookup (.string key) = some flag) :
    snapshot.outcome key scope = FeatureFlags.resolve snapshot key scope := by
  have present : Entries.contains (.string key) snapshot.flags = true := by
    rw [Entries.contains, listed]
    rfl
  exact if_pos present

theorem outcome_of_scope (listed : snapshot.flags.lookup (.string key) = some flag)
    {found : Value × Tier} (decided : scope.find? (.string key) = some found) :
    snapshot.outcome key scope = .ok found := by
  rw [outcome_listed listed, FeatureFlags.resolve, decided]

theorem outcome_of_unscoped (listed : snapshot.flags.lookup (.string key) = some flag)
    (unscoped : scope.find? (.string key) = none) :
    snapshot.outcome key scope = snapshot.evaluate key scope := by
  rw [outcome_listed listed, FeatureFlags.resolve, unscoped]

theorem outcome_of_override (listed : snapshot.flags.lookup (.string key) = some flag)
    (unscoped : scope.find? (.string key) = none) {value : Value}
    (overridden : snapshot.override? (.string key) = some value) :
    snapshot.outcome key scope = .ok (value, .globalOverride) := by
  rw [outcome_of_unscoped listed unscoped, Snapshot.evaluate, overridden]

/-- What the rules of a flag leave of an evaluation that no override decides. -/
theorem outcome_of_open (listed : snapshot.flags.lookup (.string key) = some flag)
    (leavesOpen : snapshot.LeavesOpen key scope) :
    snapshot.outcome key scope = (flag.trial snapshot scope flag.rules).map fun matched =>
      matched.elim (flag.value, .default) fun value => (value, .dynamicRule) := by
  rw [outcome_of_unscoped listed leavesOpen.unscoped, Snapshot.evaluate, leavesOpen.notOverridden]
  dsimp only
  rw [listed]
  dsimp only
  rw [flag.matching_outcome]
  cases flag.trial snapshot scope flag.rules with
  | error error => rfl
  | ok matched => cases matched <;> rfl

theorem baseValue_of_scope (ownKey : flag.key = .string key) {found : Value × Tier}
    (decided : scope.find? (.string key) = some found) :
    flag.baseValue snapshot scope = found.1 := by
  rw [Flag.baseValue, ownKey, decided]

theorem baseValue_of_unscoped (ownKey : flag.key = .string key)
    (unscoped : scope.find? (.string key) = none) :
    flag.baseValue snapshot scope = (snapshot.override? (.string key)).getD flag.value := by
  rw [Flag.baseValue, ownKey, unscoped]

theorem baseValue_of_open (ownKey : flag.key = .string key)
    (leavesOpen : snapshot.LeavesOpen key scope) :
    flag.baseValue snapshot scope = flag.value := by
  rw [baseValue_of_unscoped ownKey leavesOpen.unscoped, leavesOpen.notOverridden, Option.getD_none]

theorem atBase_of_scope (listed : snapshot.flags.lookup (.string key) = some flag)
    (ownKey : flag.key = .string key) {value : Value} {tier : Tier}
    (decided : scope.find? (.string key) = some (value, tier)) :
    snapshot.AtBase flag scope (snapshot.outcome key scope) value tier := by
  have base : flag.baseValue snapshot scope = value := baseValue_of_scope ownKey decided
  exact ⟨by rw [outcome_of_scope listed decided, base], base⟩

end Snapshot

theorem Scope.find?_callSite {scope : Scope} {key : String} {value : Value}
    (found : scope.callSite.lookup key = some value) :
    scope.find? (.string key) = some (value, .callSite) := by
  have given : scope.callSite.find? (.string key) = some value := found
  rw [Scope.find?, given]

theorem Scope.find?_identity {scope : Scope} {key : String} {identity : Identity} {value : Value}
    (absent : scope.callSite.lookup key = none) (present : scope.identity = some identity)
    (found : identity.overrides.lookup key = some value) :
    scope.find? (.string key) = some (value, .identity) := by
  have notGiven : scope.callSite.find? (.string key) = none := absent
  have given : scope.identity.bind (·.overrides.find? (.string key)) = some value := by
    rw [present]
    exact found
  rw [Scope.find?, notGiven]
  dsimp only
  rw [given]

theorem Snapshot.besideBase {snapshot : Snapshot} {flag : Flag} {key : String}
    (listed : snapshot.flags.lookup (.string key) = some flag) (ownKey : flag.key = .string key)
    (scope : Scope) : snapshot.BesideBase flag key scope (snapshot.outcome key scope) where
  callSite value found := atBase_of_scope listed ownKey (Scope.find?_callSite found)
  identity identity value absent present found :=
    atBase_of_scope listed ownKey (Scope.find?_identity absent present found)
  globalOverride value unscoped overridden := by
    have base : flag.baseValue snapshot scope = value := by
      rw [baseValue_of_unscoped ownKey unscoped, overridden, Option.getD_some]
    refine ⟨?_, base⟩
    rw [outcome_of_override listed unscoped overridden, base]
  default leavesOpen noneDecides := by
    have base := baseValue_of_open ownKey leavesOpen
    refine ⟨?_, base⟩
    rw [outcome_of_open listed leavesOpen, flag.trial_of_all_goOn flag.rules noneDecides, base]
    rfl
  dynamicRule leavesOpen earlier rule later split goOn applies := by
    refine ⟨?_, baseValue_of_open ownKey leavesOpen⟩
    rw [outcome_of_open listed leavesOpen, split, flag.trial_append _ goOn,
      flag.trial_of_matches later applies]
    rfl
  dangling leavesOpen earlier rule later split goOn dangles := by
    refine ⟨?_, baseValue_of_open ownKey leavesOpen⟩
    rw [outcome_of_open listed leavesOpen, split, flag.trial_append _ goOn,
      flag.trial_of_dangles later dangles, ownKey]
    rfl
  asInput other value consulted := matchRules_consulted _ _ _ _ (flag, value) consulted

/-! ## What is reported -/

def Query.report (query : Query) : Except Error (Value × Tier) → List Log.Event
  | .ok (_, tier) => [.evaluated query.key query.identifier tier]
  | .error _ => []

namespace Client

def OnlySweeps (events : List Log.Event) : Prop :=
  ∀ event ∈ events, ∃ count, event = .evicted count

structure Concludes (client : Client) (query : Query) (outcome : Except Error (Value × Tier))
    (turn : Client × Move) : Prop where
  ends : turn.2 = .finish (answer outcome)
  reports : ∃ swept, OnlySweeps swept ∧
    turn.1.events = client.events ++ swept ++ query.report outcome

theorem onlySweeps_nil : OnlySweeps [] :=
  fun _ member => absurd member List.not_mem_nil

theorem conclude_events (query : Query) (closes : Bool) (outcome : Except Error (Value × Tier))
    (client : Client) :
    (client.conclude query closes outcome).1.events = client.events ++ query.report outcome := by
  cases outcome with
  | error error => cases closes <;> exact (List.append_nil _).symm
  | ok found => cases closes <;> rfl

theorem conclude_concludes {client before : Client} {swept : List Log.Event}
    (sweeps : OnlySweeps swept) (logged : client.events = before.events ++ swept) (query : Query)
    (closes : Bool) (outcome : Except Error (Value × Tier)) :
    Concludes before query outcome (client.conclude query closes outcome) :=
  ⟨conclude_move .., swept, sweeps, by rw [conclude_events, logged]⟩

theorem sweep_events (now : Double) (keep : Option String) (client : Client) :
    ∃ swept, OnlySweeps swept ∧ (client.sweep now keep).events = client.events ++ swept := by
  unfold Client.sweep
  dsimp only
  split
  · exact ⟨[], onlySweeps_nil, (List.append_nil _).symm⟩
  · refine ⟨[.evicted _], fun event member => ?_, rfl⟩
    exact ⟨_, List.mem_singleton.mp member⟩

theorem resolve_events (identifier : Option String) (client : Client) :
    ∃ swept, OnlySweeps swept ∧
      (client.resolve identifier).1.events = client.events ++ swept := by
  unfold resolve
  split
  · exact ⟨[], onlySweeps_nil, (List.append_nil _).symm⟩
  next name named =>
      dsimp only
      split <;> exact sweep_events ..

/-- With fresh records an evaluation ends in its first turn with the outcome of the tiers. -/
theorem evaluate_concludes {client : Client} {query : Query} {identity : Option Identity}
    {snapshot : Snapshot} (fresh : client.cache.freshSnapshot? client.now = some snapshot)
    (known : Known client query.identifier identity) (closes : Bool) :
    Concludes client query (snapshot.outcome query.key ⟨query.overrides, identity⟩)
      (client.evaluate query closes) := by
  obtain ⟨begun, begins, concluded⟩ := evaluate_of_fresh fresh known closes
  rw [concluded]
  rcases begins with rfl | rfl
  · exact conclude_concludes onlySweeps_nil (List.append_nil _).symm query closes _
  · obtain ⟨swept, sweeps, logged⟩ := client.resolve_events query.identifier
    exact conclude_concludes sweeps logged query closes _

/-- An evaluation of a listed flag with fresh records gives and reports what the first tier holds,
and that is the base value of the flag unless a rule of the flag matches or dangles. -/
theorem evaluate_beside_base {data : Value} {refreshedAt : Double} {snapshot : Snapshot}
    (decoded : Snapshot.decode data refreshedAt = .ok snapshot) {client : Client} {query : Query}
    {identity : Option Identity} {flag : Flag}
    (fresh : client.cache.freshSnapshot? client.now = some snapshot)
    (known : Known client query.identifier identity)
    (listed : snapshot.flags.lookup (.string query.key) = some flag) (closes : Bool) :
    ∃ outcome, Concludes client query outcome (client.evaluate query closes) ∧
      snapshot.BesideBase flag query.key ⟨query.overrides, identity⟩ outcome :=
  ⟨_, evaluate_concludes fresh known closes,
    Snapshot.besideBase listed (Snapshot.key_of_decode decoded listed) _⟩

def writtenRule (reference : Int) (operator : Operator) (constant value : Value) : Value :=
  .object [
    ("expression", .object [
      ("flag_id", .int reference), ("op", .string operator.symbol), ("value", constant)]),
    ("value", value)]

def writtenFlag (id : Int) (key : String) (value : Value) (rules : List Value) : Value :=
  .object [
    ("id", .int id), ("key", .string key), ("value", value), ("dynamic_rules", .list rules)]

theorem isFresh_at_once : isFresh (.ofInt 0) (.ofInt 0) Lifetimes.usual.state = true := by
  decide +kernel

theorem justFetched_fresh {snapshot : Snapshot} (stamped : snapshot.refreshedAt = some (.ofInt 0)) :
    (justFetched snapshot).cache.freshSnapshot? (justFetched snapshot).now = some snapshot := by
  simp only [justFetched, Client.new, Cache.empty, Cache.withSnapshot, Cache.freshSnapshot?,
    Cache.isStateFresh, stamped, Option.any_some, isFresh_at_once, if_true]

def darkByHour : Flag :=
  ⟨.int 1, .string "dark", .null, [⟨⟨.int 2, .ge, .int 3⟩, .bool false⟩]⟩

def hourOverridden : Value :=
  .object [
    ("flags", .list [
      writtenFlag 1 "dark" .null [writtenRule 2 .ge (.int 3) (.bool false)],
      writtenFlag 2 "hour" (.int 0) []]),
    ("overrides", .list [.object [("key", .string "hour"), ("value", .string "4")]])]

def hourSnapshot : Snapshot :=
  .index [darkByHour, ⟨.int 2, .string "hour", .int 0, []⟩] [⟨.string "hour", .string "4"⟩]
    (.ofInt 0)

theorem hourOverridden_decoded : Snapshot.decode hourOverridden (.ofInt 0) = .ok hourSnapshot := rfl

/-- A rule matches on an overridden value, and the value of the rule is false. -/
theorem evaluate_beside_base_dark :
    Snapshot.decode hourOverridden (.ofInt 0) = .ok hourSnapshot ∧
      (justFetched hourSnapshot).cache.freshSnapshot? (justFetched hourSnapshot).now =
        some hourSnapshot ∧
      Known (justFetched hourSnapshot) none none ∧
      hourSnapshot.flags.lookup (.string "dark") = some darkByHour ∧
      ∃ outcome, Concludes (justFetched hourSnapshot) ⟨"dark", none, []⟩ outcome
          ((justFetched hourSnapshot).evaluate ⟨"dark", none, []⟩ false) ∧
        hourSnapshot.BesideBase darkByHour "dark" ⟨[], none⟩ outcome :=
  ⟨hourOverridden_decoded, justFetched_fresh rfl, .unnamed rfl, rfl,
    evaluate_beside_base hourOverridden_decoded (justFetched_fresh rfl) (.unnamed rfl) rfl false⟩

end Client

end FeatureFlags
