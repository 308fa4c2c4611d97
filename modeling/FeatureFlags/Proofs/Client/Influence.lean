import FeatureFlags.Proofs.Client.Tiers

/-!
# What an evaluation sees of a snapshot

Of a whole snapshot an evaluation sees the global override of its key, the default of the flag under
that key, and its rules as far as they are tried; of the flag that a rule refers to it sees the key,
the default and the global override.  Two snapshots that agree on these give the same outcome
(`evaluate_of_agreement`), whatever rules the flags referred to have, whatever they refer to in
turn, and whatever else the snapshots hold.
-/

set_option autoImplicit false

namespace FeatureFlags

/-- What a rule sees of the flag that it refers to.  A key counts as far as it is text, since
callers and identities override nothing else. -/
structure Sight where
  keyText : Option String
  default : Value
  override : Option Value

namespace Snapshot

def sightOf (snapshot : Snapshot) (target : Flag) : Sight :=
  ⟨target.key.text?, target.value, snapshot.override? target.key⟩

def sight? (snapshot : Snapshot) (reference : Value) : Option Sight :=
  (snapshot.target? reference).map snapshot.sightOf

/-- Rules are tried alike on two snapshots: as far as they are tried on the first they are the same
and see the same, and a rule that matches or dangles there is the last that counts. -/
inductive TriedAlike (first second : Snapshot) (scope : Scope) : List Rule → List Rule → Prop where
  | nil : TriedAlike first second scope [] []
  | next (rule : Rule) {rules others : List Rule}
      (seen : first.sight? rule.condition.reference = second.sight? rule.condition.reference)
      (later : rule.GoesOn first scope → TriedAlike first second scope rules others) :
      TriedAlike first second scope (rule :: rules) (rule :: others)

structure FlagsAlike (first second : Snapshot) (scope : Scope) (flag other : Flag) : Prop where
  default : flag.value = other.value
  rules : TriedAlike first second scope flag.rules other.rules

/-- Two snapshots agree on what an evaluation of a key sees of them. -/
structure AgreeOn (first second : Snapshot) (key : String) (scope : Scope) : Prop where
  override : first.override? (.string key) = second.override? (.string key)
  flags : Option.Rel (FlagsAlike first second scope)
    (first.flags.lookup (.string key)) (second.flags.lookup (.string key))

variable {first second : Snapshot} {scope : Scope}

theorem find?_of_text {key other : Key} (same : key.text? = other.text?) (scope : Scope) :
    scope.find? key = scope.find? other := by
  simp only [Scope.find?, Overrides.find?, same]

/-- Base values are made of what is seen. -/
theorem baseValue_of_sight {flag other : Flag} (seen : first.sightOf flag = second.sightOf other)
    (scope : Scope) : flag.baseValue first scope = other.baseValue second scope := by
  rw [sightOf, sightOf, Sight.mk.injEq] at seen
  obtain ⟨sameText, sameDefault, sameOverride⟩ := seen
  rw [Flag.baseValue, Flag.baseValue, find?_of_text sameText scope, sameDefault, sameOverride]

theorem matches_of_sight {rule : Rule}
    (seen : first.sight? rule.condition.reference = second.sight? rule.condition.reference)
    (applies : rule.Matches first scope) : rule.Matches second scope := by
  obtain ⟨target, found, holds⟩ := applies
  rw [sight?, found, Option.map_some] at seen
  obtain ⟨other, foundToo, alike⟩ := Option.map_eq_some_iff.mp seen.symm
  refine ⟨other, foundToo, ?_⟩
  rw [baseValue_of_sight alike scope]
  exact holds

theorem dangles_of_sight {rule : Rule}
    (seen : first.sight? rule.condition.reference = second.sight? rule.condition.reference)
    (dangles : rule.Dangles first) : rule.Dangles second := by
  have nothing : first.target? rule.condition.reference = none := dangles
  rw [sight?, nothing, Option.map_none] at seen
  exact Option.map_eq_none_iff.mp seen.symm

theorem goesOn_of_sight {rule : Rule}
    (seen : first.sight? rule.condition.reference = second.sight? rule.condition.reference)
    (goesOn : rule.GoesOn first scope) : rule.GoesOn second scope :=
  ⟨fun applies => goesOn.1 (matches_of_sight seen.symm applies),
    fun dangles => goesOn.2 (dangles_of_sight seen.symm dangles)⟩

theorem trial_of_alike {flag other : Flag} (sameKey : flag.key = other.key)
    {rules others : List Rule} (alike : TriedAlike first second scope rules others) :
    flag.trial first scope rules = other.trial second scope others := by
  induction alike with
  | nil => rfl
  | @next rule rules others seen later inductionHypothesis =>
      by_cases applies : rule.Matches first scope
      · rw [flag.trial_of_matches rules applies,
          other.trial_of_matches others (matches_of_sight seen applies)]
      · by_cases dangles : rule.Dangles first
        · rw [flag.trial_of_dangles rules dangles,
            other.trial_of_dangles others (dangles_of_sight seen dangles), sameKey]
        · have goesOn : rule.GoesOn first scope := ⟨applies, dangles⟩
          rw [flag.trial_of_goesOn rules goesOn,
            other.trial_of_goesOn others (goesOn_of_sight seen goesOn)]
          exact inductionHypothesis goesOn

/-- Snapshots whose flags stand under their own keys give the same outcome where they agree. -/
theorem outcome_of_agreement {key : String} (agree : AgreeOn first second key scope)
    (firstKeys : ∀ flag, first.flags.lookup (.string key) = some flag → flag.key = .string key)
    (secondKeys : ∀ flag, second.flags.lookup (.string key) = some flag → flag.key = .string key) :
    first.outcome key scope = second.outcome key scope := by
  have flags := agree.flags
  cases listed : first.flags.lookup (.string key) with
  | none =>
      cases listedToo : second.flags.lookup (.string key) with
      | none => rw [outcome_unlisted listed, outcome_unlisted listedToo]
      | some other =>
          rw [listed, listedToo] at flags
          cases flags
  | some flag =>
      cases listedToo : second.flags.lookup (.string key) with
      | none =>
          rw [listed, listedToo] at flags
          cases flags
      | some other =>
          rw [listed, listedToo] at flags
          cases flags with
          | some alike =>
              have sameKey : flag.key = other.key :=
                (firstKeys flag listed).trans (secondKeys other listedToo).symm
              cases unscoped : scope.find? (.string key) with
              | some found =>
                  rw [outcome_of_scope listed unscoped, outcome_of_scope listedToo unscoped]
              | none =>
                  cases overridden : first.override? (.string key) with
                  | some value =>
                      rw [outcome_of_override listed unscoped overridden,
                        outcome_of_override listedToo unscoped
                          (agree.override.symm.trans overridden)]
                  | none =>
                      rw [outcome_of_open listed ⟨unscoped, overridden⟩,
                        outcome_of_open listedToo ⟨unscoped, agree.override.symm.trans overridden⟩,
                        trial_of_alike sameKey alike.rules, alike.default]

/-- Rules are tried alike when they are the same and each one up to the first that matches sees the
same. -/
theorem TriedAlike.of_same {rules : List Rule}
    (seen : ∀ earlier rule later, rules = earlier ++ rule :: later →
      (∀ passed ∈ earlier, ¬passed.Matches first scope) →
        first.sight? rule.condition.reference = second.sight? rule.condition.reference) :
    TriedAlike first second scope rules rules := by
  induction rules with
  | nil => exact .nil
  | cons rule rules inductionHypothesis =>
      refine .next rule (seen [] rule rules rfl fun _ member => absurd member List.not_mem_nil) ?_
      intro goesOn
      refine inductionHypothesis fun earlier reached later split noneMatches => ?_
      refine seen (rule :: earlier) reached later (by rw [split]; rfl) fun passed member => ?_
      rcases List.mem_cons.mp member with rfl | before
      · exact goesOn.1
      · exact noneMatches passed before

end Snapshot

namespace Client

/-- Evaluations with fresh records of two snapshots that agree on what they see have one outcome,
the same value of the same tier or the same error. -/
theorem evaluate_of_agreement {data otherData : Value} {fetchedAt otherFetchedAt : Double}
    {first second : Snapshot} (firstDecoded : Snapshot.decode data fetchedAt = .ok first)
    (secondDecoded : Snapshot.decode otherData otherFetchedAt = .ok second) {query : Query}
    {identity : Option Identity}
    (agree : first.AgreeOn second query.key ⟨query.overrides, identity⟩) {client other : Client}
    (firstFresh : client.cache.freshSnapshot? client.now = some first)
    (secondFresh : other.cache.freshSnapshot? other.now = some second)
    (firstKnown : Known client query.identifier identity)
    (secondKnown : Known other query.identifier identity) (closes : Bool) :
    ∃ outcome, Concludes client query outcome (client.evaluate query closes) ∧
      Concludes other query outcome (other.evaluate query closes) := by
  refine ⟨_, evaluate_concludes firstFresh firstKnown closes, ?_⟩
  rw [Snapshot.outcome_of_agreement agree
    (fun flag => Snapshot.key_of_decode firstDecoded)
    (fun flag => Snapshot.key_of_decode secondDecoded)]
  exact evaluate_concludes secondFresh secondKnown closes

/-- A response whose flags refer to themselves and to each other, with a rule that dangles behind
one that matches. -/
def entangled : Value :=
  .object [
    ("flags", .list [
      writtenFlag 1 "dark" .null [
        writtenRule 1 .eq (.bool true) (.string "self"),
        writtenRule 2 .ge (.int 3) (.bool false),
        writtenRule 9 .eq .null (.string "never")],
      writtenFlag 2 "hour" (.int 0) [writtenRule 1 .eq .null (.int 7)]]),
    ("overrides", .list [.object [("key", .string "hour"), ("value", .string "4")]])]

/-- Another one, without the rules that do not count and with a flag of its own. -/
def disentangled : Value :=
  .object [
    ("flags", .list [
      writtenFlag 3 "spare" (.bool true) [],
      writtenFlag 2 "hour" (.int 0) [],
      writtenFlag 1 "dark" .null [
        writtenRule 1 .eq (.bool true) (.string "self"),
        writtenRule 2 .ge (.int 3) (.bool false)]]),
    ("overrides", .list [
      .object [("key", .string "spare"), ("value", .null)],
      .object [("key", .string "hour"), ("value", .string "4")]])]

def selfRule : Rule :=
  ⟨⟨.int 1, .eq, .bool true⟩, .string "self"⟩

def hourRule : Rule :=
  ⟨⟨.int 2, .ge, .int 3⟩, .bool false⟩

def entangledSnapshot : Snapshot :=
  .index [⟨.int 1, .string "dark", .null,
      [selfRule, hourRule, ⟨⟨.int 9, .eq, .null⟩, .string "never"⟩]⟩,
    ⟨.int 2, .string "hour", .int 0, [⟨⟨.int 1, .eq, .null⟩, .int 7⟩]⟩]
    [⟨.string "hour", .string "4"⟩] (.ofInt 0)

def disentangledSnapshot : Snapshot :=
  .index [⟨.int 3, .string "spare", .bool true, []⟩, ⟨.int 2, .string "hour", .int 0, []⟩,
    ⟨.int 1, .string "dark", .null, [selfRule, hourRule]⟩]
    [⟨.string "spare", .null⟩, ⟨.string "hour", .string "4"⟩] (.ofInt 0)

theorem entangled_decoded : Snapshot.decode entangled (.ofInt 0) = .ok entangledSnapshot := rfl

theorem disentangled_decoded :
    Snapshot.decode disentangled (.ofInt 0) = .ok disentangledSnapshot := rfl

theorem hourRule_matches : hourRule.Matches entangledSnapshot ⟨[], none⟩ :=
  ⟨_, rfl, by decide +kernel⟩

theorem entangled_agrees : entangledSnapshot.AgreeOn disentangledSnapshot "dark" ⟨[], none⟩ where
  override := rfl
  flags := .some ⟨rfl, .next selfRule rfl fun _ => .next hourRule rfl fun goesOn =>
    absurd hourRule_matches goesOn.1⟩

theorem evaluate_of_agreement_entangled :
    Snapshot.decode entangled (.ofInt 0) = .ok entangledSnapshot ∧
      Snapshot.decode disentangled (.ofInt 0) = .ok disentangledSnapshot ∧
      entangledSnapshot.AgreeOn disentangledSnapshot "dark" ⟨[], none⟩ ∧
      (justFetched entangledSnapshot).cache.freshSnapshot? (justFetched entangledSnapshot).now =
        some entangledSnapshot ∧
      (justFetched disentangledSnapshot).cache.freshSnapshot?
        (justFetched disentangledSnapshot).now = some disentangledSnapshot ∧
      Known (justFetched entangledSnapshot) none none ∧
      Known (justFetched disentangledSnapshot) none none ∧
      ∃ outcome,
        Concludes (justFetched entangledSnapshot) ⟨"dark", none, []⟩ outcome
          ((justFetched entangledSnapshot).evaluate ⟨"dark", none, []⟩ false) ∧
        Concludes (justFetched disentangledSnapshot) ⟨"dark", none, []⟩ outcome
          ((justFetched disentangledSnapshot).evaluate ⟨"dark", none, []⟩ false) :=
  ⟨entangled_decoded, disentangled_decoded, entangled_agrees, justFetched_fresh rfl,
    justFetched_fresh rfl, .unnamed rfl, .unnamed rfl,
    evaluate_of_agreement entangled_decoded disentangled_decoded entangled_agrees
      (justFetched_fresh rfl) (justFetched_fresh rfl) (.unnamed rfl) (.unnamed rfl) false⟩

end Client

end FeatureFlags
