import FeatureFlags.Identity

/-!
# Which value a flag has

A value comes from the first of five tiers that holds one: the overrides of the call, those of the
identity, the global overrides, the rules in order, the default.  `Flag.baseValue` is the same
chain without the rules; it is what a rule sees of the flag that it refers to.
-/

set_option autoImplicit false

namespace FeatureFlags

inductive Tier where
  | callSite
  | identity
  | globalOverride
  | dynamicRule
  | default
  deriving DecidableEq, Repr

structure Scope where
  callSite : Overrides
  identity : Option Identity

def Scope.find? (scope : Scope) (key : Key) : Option (Value × Tier) :=
  match scope.callSite.find? key with
  | some value => some (value, .callSite)
  | none =>
      match scope.identity.bind (·.overrides.find? key) with
      | some value => some (value, .identity)
      | none => none

def Snapshot.override? (snapshot : Snapshot) (key : Key) : Option Value :=
  (snapshot.overrides.lookup key).map (·.value)

/-- The value of a flag when its rules do not count. -/
def Flag.baseValue (flag : Flag) (snapshot : Snapshot) (scope : Scope) : Value :=
  match scope.find? flag.key with
  | some (value, _) => value
  | none => (snapshot.override? flag.key).getD flag.value

/-- What matching the rules of a flag came to: the flags whose values were looked up, in order, and
the value of the first rule that matched, if one did. -/
structure Matching where
  consulted : List (Flag × Value)
  outcome : Except Error (Option Value)

def Condition.target (condition : Condition) (flag : Flag) (flagsById : List (Key × Flag)) :
    Except Error Flag :=
  match condition.reference.key? with
  | none => .error (.foreign (.shape (.unhashable condition.reference)))
  | some id =>
      match flagsById.lookup id with
      | some target => .ok target
      | none => .error (.ruleIntegrity (.unknownFlag flag.key condition.reference))

/-- Tries rules in order; `lookup` gives the values of the flags that they refer to. -/
def matchRules (flag : Flag) (flagsById : List (Key × Flag)) (lookup : Flag → Value) :
    List Rule → Matching
  | [] => ⟨[], .ok none⟩
  | rule :: rules =>
      match rule.condition.target flag flagsById with
      | .error error => ⟨[], .error error⟩
      | .ok target =>
          let value := lookup target
          if rule.condition.operator.holds value rule.condition.constant then
            ⟨[(target, value)], .ok (some rule.value)⟩
          else
            let later := matchRules flag flagsById lookup rules
            ⟨(target, value) :: later.consulted, later.outcome⟩

def Flag.matching (flag : Flag) (snapshot : Snapshot) (scope : Scope) : Matching :=
  matchRules flag snapshot.flagsById (fun target => target.baseValue snapshot scope) flag.rules

/-- The last three tiers, all of one snapshot. -/
def Snapshot.evaluate (snapshot : Snapshot) (key : String) (scope : Scope) :
    Except Error (Value × Tier) :=
  match snapshot.override? (.string key) with
  | some value => .ok (value, .globalOverride)
  | none =>
      match snapshot.flags.lookup (.string key) with
      | none => .error (.flagNotFound (.string key))
      | some flag =>
          match (flag.matching snapshot scope).outcome with
          | .error error => .error error
          | .ok (some value) => .ok (value, .dynamicRule)
          | .ok none => .ok (flag.value, .default)

def resolve (snapshot : Snapshot) (key : String) (scope : Scope) : Except Error (Value × Tier) :=
  match scope.find? (.string key) with
  | some found => .ok found
  | none => snapshot.evaluate key scope

end FeatureFlags
