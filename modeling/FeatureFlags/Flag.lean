import FeatureFlags.Rule.Operator

/-!
# Flags, rules and overrides

A flag has a default value and rules in order.  A rule names another flag by its id, compares that
flag's value with a constant, and gives a value of its own when the comparison holds.
-/

set_option autoImplicit false

namespace FeatureFlags

/-- Compares the value of the flag with id `reference` with a constant. -/
structure Condition where
  reference : Value
  operator : Operator
  constant : Value

structure Rule where
  condition : Condition
  value : Value

structure Flag where
  id : Key
  key : Key
  value : Value
  rules : List Rule

/-- A value that stands in for the value of the flag under `key`. -/
structure Override where
  key : Key
  value : Value

/-- Overrides of one caller or one identity, by flag key. -/
abbrev Overrides := List (String × Value)

/-- The value that overrides give to a key; only a key that is text can be overridden so. -/
def Overrides.find? (overrides : Overrides) (key : Key) : Option Value :=
  key.text?.bind (List.lookup · overrides)

end FeatureFlags
