import FeatureFlags.Proofs.Precedence

/-!
# Rules on a snapshot

On a snapshot a rule of a flag does one of three things when it is tried: it matches, it dangles
because no flag has the id that it refers to, or it lets the trial go on.  The trial comes to the
first rule that does not let it go on, and all that it reads on its way are base values.
-/

set_option autoImplicit false

namespace FeatureFlags

def Snapshot.target? (snapshot : Snapshot) (reference : Value) : Option Flag :=
  reference.key?.bind fun id => snapshot.flagsById.lookup id

namespace Rule

def Matches (rule : Rule) (snapshot : Snapshot) (scope : Scope) : Prop :=
  ∃ target, snapshot.target? rule.condition.reference = some target ∧
    rule.condition.operator.holds (target.baseValue snapshot scope) rule.condition.constant = true

def Dangles (rule : Rule) (snapshot : Snapshot) : Prop :=
  snapshot.target? rule.condition.reference = none

/-- The rule neither matches nor dangles. -/
def GoesOn (rule : Rule) (snapshot : Snapshot) (scope : Scope) : Prop :=
  ¬rule.Matches snapshot scope ∧ ¬rule.Dangles snapshot

end Rule

def Condition.fault (condition : Condition) (key : Key) : Error :=
  match condition.reference.key? with
  | none => .foreign (.shape (.unhashable condition.reference))
  | some _ => .ruleIntegrity (.unknownFlag key condition.reference)

section Trial

variable {snapshot : Snapshot} {scope : Scope} {rule : Rule}

theorem Condition.target_of_found {condition : Condition} {target : Flag}
    (found : snapshot.target? condition.reference = some target) (flag : Flag) :
    condition.target flag snapshot.flagsById = .ok target := by
  obtain ⟨id, reference, listed⟩ := Option.bind_eq_some_iff.mp found
  exact target_known reference listed flag

theorem Condition.target_of_missing {condition : Condition}
    (missing : snapshot.target? condition.reference = none) (flag : Flag) :
    condition.target flag snapshot.flagsById = .error (condition.fault flag.key) := by
  unfold Condition.fault
  cases reference : condition.reference.key? with
  | none => exact target_unhashable reference flag snapshot.flagsById
  | some id =>
      have absent : snapshot.flagsById.lookup id = none := by
        rw [Snapshot.target?, reference] at missing
        exact missing
      exact target_unknown reference absent flag

theorem Rule.GoesOn.passes (goesOn : rule.GoesOn snapshot scope) (flag : Flag) :
    rule.Passes flag snapshot.flagsById fun target => target.baseValue snapshot scope := by
  obtain ⟨target, found⟩ := Option.ne_none_iff_exists'.mp goesOn.2
  refine ⟨target, Condition.target_of_found found flag, Bool.eq_false_iff.mpr fun holds => ?_⟩
  exact goesOn.1 ⟨target, found, holds⟩

def Flag.trial (flag : Flag) (snapshot : Snapshot) (scope : Scope) (rules : List Rule) :
    Except Error (Option Value) :=
  (matchRules flag snapshot.flagsById (fun target => target.baseValue snapshot scope) rules).outcome

namespace Flag

variable (flag : Flag) (rules : List Rule)

theorem matching_outcome : (flag.matching snapshot scope).outcome =
    flag.trial snapshot scope flag.rules := rfl

theorem trial_of_goesOn (goesOn : rule.GoesOn snapshot scope) :
    flag.trial snapshot scope (rule :: rules) = flag.trial snapshot scope rules :=
  matchRules_of_passes (goesOn.passes flag) rules

theorem trial_of_matches (applies : rule.Matches snapshot scope) :
    flag.trial snapshot scope (rule :: rules) = .ok (some rule.value) := by
  obtain ⟨target, found, holds⟩ := applies
  simp [trial, matchRules, Condition.target_of_found found, holds]

theorem trial_of_dangles (dangles : rule.Dangles snapshot) :
    flag.trial snapshot scope (rule :: rules) = .error (rule.condition.fault flag.key) :=
  matchRules_of_broken (Condition.target_of_missing dangles flag) _ rules

/-- Rules that let the trial go on can be left out in front. -/
theorem trial_append {earlier : List Rule} (goOn : ∀ rule ∈ earlier, rule.GoesOn snapshot scope) :
    flag.trial snapshot scope (earlier ++ rules) = flag.trial snapshot scope rules := by
  induction earlier with
  | nil => rfl
  | cons rule earlier inductionHypothesis =>
      rw [List.cons_append, flag.trial_of_goesOn (earlier ++ rules) (goOn rule List.mem_cons_self)]
      exact inductionHypothesis fun other member => goOn other (List.mem_cons_of_mem _ member)

theorem trial_of_all_goOn (goOn : ∀ rule ∈ rules, rule.GoesOn snapshot scope) :
    flag.trial snapshot scope rules = .ok none := by
  have trial := flag.trial_append [] goOn
  rw [List.append_nil] at trial
  exact trial

end Flag

/-- Whatever rules are tried, what they consult are values that the look-up gives. -/
theorem matchRules_consulted (flag : Flag) (flagsById : List (Key × Flag)) (lookup : Flag → Value)
    (rules : List Rule) :
    ∀ entry ∈ (matchRules flag flagsById lookup rules).consulted, entry.2 = lookup entry.1 := by
  induction rules with
  | nil => exact fun entry member => absurd member List.not_mem_nil
  | cons rule rules inductionHypothesis =>
      unfold matchRules
      split
      · exact fun entry member => absurd member List.not_mem_nil
      · dsimp only
        split
        · intro entry member
          rw [List.mem_singleton.mp member]
        · intro entry member
          rcases List.mem_cons.mp member with rfl | later
          · rfl
          · exact inductionHypothesis entry later

end Trial

end FeatureFlags
