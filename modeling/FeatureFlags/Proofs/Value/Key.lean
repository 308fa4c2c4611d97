import FeatureFlags.Proofs.Value.Transitivity

/-!
# Keys that count as one

Two keys count as one exactly when their values are equal.  This is symmetric and transitive, and
every key but not-a-number counts as one with itself (`Key.beq_self`).
-/

set_option autoImplicit false

namespace FeatureFlags.Key

theorem same_value (key other : Key) : key.value.same other.value = key.same other := by
  cases key <;> cases other <;> simp [Value.same, same, Key.value, Value.number?, number?]

theorem wellNamed_value (key : Key) : key.value.WellNamed := by
  cases key <;> constructor

instance : PartialEquivBEq Key where
  symm {key other} equal := by
    change other.same key = true
    rw [← same_value, Value.same_comm other.wellNamed_value key.wellNamed_value, same_value]
    exact equal
  trans {key other third} first second := by
    change key.same third = true
    rw [← same_value]
    have firstValues : key.value.same other.value = true := (same_value key other).trans first
    have secondValues : other.value.same third.value = true := (same_value other third).trans second
    exact Value.same_trans key.wellNamed_value firstValues secondValues

/-- Every key but not-a-number counts as one with itself. -/
theorem beq_self {key : Key} (comparable : key ≠ .double .nan) : (key == key) = true := by
  have same_self : ∀ {number : Number}, number.value? ≠ none → number.same number = true := by
    intro number valued
    obtain ⟨value, found⟩ := Option.ne_none_iff_exists'.mp valued
    exact Number.same_iff.mpr
      (Number.order?_eq_some_iff.mpr ⟨value, value, found, found, cmp_self_eq_eq value⟩)
  change key.same key = true
  cases key with
  | null => rfl
  | bool value => exact same_self nofun
  | int value => exact same_self nofun
  | double value =>
      refine same_self ?_
      cases value with
      | nan => exact absurd rfl comparable
      | infinite negative => cases negative <;> nofun
      | finite negative units fits => nofun
  | string text => exact beq_self_eq_true text

theorem value_injective : Function.Injective Key.value := by
  intro key other same
  cases key <;> cases other <;> simp_all [Key.value]

theorem key?_eq_some_iff {value : Value} {key : Key} :
    value.key? = some key ↔ value = key.value := by
  cases value <;> cases key <;> simp [Value.key?, Key.value]

end FeatureFlags.Key
