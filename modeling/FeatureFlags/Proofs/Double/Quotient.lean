import FeatureFlags.Proofs.Double.Rounding

/-!
# Quotients beyond every double

A quotient is rounded to infinity from halfway between the largest finite double and the next power
of two on: the largest significand is odd, so the tie goes up.
-/

set_option autoImplicit false

namespace FeatureFlags.Double

-- Powers are those of the core library, whatever algebra is imported beside this module.
attribute [local instance (high)] instPowNat

/-- An odd number is exceeded from the half above it on. -/
theorem odd_lt_roundHalfEven_iff {numerator denominator odd : Nat} (positive : 0 < denominator)
    (isOdd : odd % 2 = 1) :
    odd < roundHalfEven numerator denominator ↔ (2 * odd + 1) * denominator ≤ 2 * numerator := by
  have parts := Nat.div_add_mod numerator denominator
  have remainder := Nat.mod_lt numerator positive
  have halves : (2 * odd + 1) * denominator = 2 * (denominator * odd) + denominator := by ring
  unfold roundHalfEven
  dsimp only
  rw [halves]
  generalize numerator / denominator = floor, numerator % denominator = rest at parts remainder ⊢
  rcases Nat.lt_trichotomy floor odd with below | rfl | above
  · have product : denominator * (floor + 1) ≤ denominator * odd := Nat.mul_le_mul_left _ below
    rw [Nat.mul_add, Nat.mul_one] at product
    split <;> constructor <;> intro <;> omega
  · split <;> constructor <;> intro <;> omega
  · have product : denominator * (odd + 1) ≤ denominator * floor := Nat.mul_le_mul_left _ above
    rw [Nat.mul_add, Nat.mul_one] at product
    split <;> constructor <;> intro <;> omega

theorem lt_two_pow_droppedBits (units : Nat) : units < 2 ^ (precision + droppedBits units) := by
  refine Nat.lt_of_lt_of_le Nat.lt_log2_self (Nat.pow_le_pow_right (by decide) ?_)
  unfold droppedBits
  omega

theorem two_pow_droppedBits_le {units : Nat} (dropped : 0 < droppedBits units) :
    2 ^ 52 * 2 ^ droppedBits units ≤ units := by
  have positive : units ≠ 0 := by
    rintro rfl
    exact absurd dropped (by decide)
  have size : 52 + droppedBits units = units.log2 := by
    unfold droppedBits precision at dropped ⊢
    omega
  rw [← Nat.pow_add, size]
  exact Nat.log2_self_le positive

/-- A quotient rounded to `precision` digits stays below a power of two if it is below the last
half of a digit before it. -/
theorem rounded_lt_iff {numerator denominator shift : Nat} (positive : 0 < denominator)
    (shifted : 0 < shift) :
    roundHalfEven numerator (denominator * 2 ^ droppedBits (numerator / denominator)) *
        2 ^ droppedBits (numerator / denominator) < 2 ^ precision * 2 ^ shift ↔
      2 * numerator < (2 ^ (precision + 1) - 1) * (denominator * 2 ^ shift) := by
  have halves : 2 ^ (precision + 1) - 1 = 2 * (2 ^ precision - 1) + 1 := by decide
  have rounded := roundHalfEven_shifted_le numerator denominator
  have floor := le_roundHalfEven numerator
    (denominator * 2 ^ droppedBits (numerator / denominator))
  have high := lt_two_pow_droppedBits (numerator / denominator)
  have low : 0 < droppedBits (numerator / denominator) →
      2 ^ 52 * 2 ^ droppedBits (numerator / denominator) ≤ numerator / denominator :=
    two_pow_droppedBits_le
  rw [← Nat.div_div_eq_div_mul] at floor
  rw [Nat.pow_add, Nat.div_lt_iff_lt_mul positive] at high
  simp only [Nat.le_div_iff_mul_le positive] at low
  generalize droppedBits (numerator / denominator) = dropped at *
  rcases Nat.lt_trichotomy dropped shift with fewer | rfl | more
  · have power : 2 * 2 ^ dropped ≤ 2 ^ shift := by
      rw [← Nat.pow_succ']
      exact Nat.pow_le_pow_right (by decide) fewer
    refine iff_of_true ?_ ?_
    · calc roundHalfEven numerator (denominator * 2 ^ dropped) * 2 ^ dropped
          ≤ 2 ^ precision * 2 ^ dropped := Nat.mul_le_mul_right _ rounded
        _ < 2 ^ precision * 2 ^ shift :=
          Nat.mul_lt_mul_of_pos_left
            (Nat.pow_lt_pow_right (by decide) fewer) (Nat.two_pow_pos precision)
    · calc 2 * numerator
          < 2 * (2 ^ precision * 2 ^ dropped * denominator) :=
            Nat.mul_lt_mul_of_pos_left high (by decide)
        _ = 2 ^ precision * (denominator * (2 * 2 ^ dropped)) := by ring
        _ ≤ 2 ^ precision * (denominator * 2 ^ shift) :=
            Nat.mul_le_mul_left _ (Nat.mul_le_mul_left _ power)
        _ ≤ (2 ^ (precision + 1) - 1) * (denominator * 2 ^ shift) :=
            Nat.mul_le_mul_right _ (by decide)
  · rw [Nat.mul_lt_mul_right (Nat.two_pow_pos _), ← Nat.not_le, ← Nat.not_le, halves,
      ← odd_lt_roundHalfEven_iff (Nat.mul_pos positive (Nat.two_pow_pos _)) (by decide)]
    have pred : 2 ^ precision - 1 + 1 = 2 ^ precision := by decide
    rw [← Nat.succ_le_iff, Nat.succ_eq_add_one, pred]
  · have power : 2 * 2 ^ shift ≤ 2 ^ dropped := by
      rw [← Nat.pow_succ']
      exact Nat.pow_le_pow_right (by decide) more
    have filled := low (Nat.zero_lt_of_lt more)
    have significand : 2 ^ 52 ≤ roundHalfEven numerator (denominator * 2 ^ dropped) := by
      refine Nat.le_trans ?_ floor
      rwa [Nat.le_div_iff_mul_le (Nat.two_pow_pos _), Nat.le_div_iff_mul_le positive]
    refine iff_of_false (Nat.not_lt.mpr ?_) (Nat.not_lt.mpr ?_)
    · calc 2 ^ precision * 2 ^ shift
          = 2 ^ 52 * (2 * 2 ^ shift) := by rw [precision]; ring
        _ ≤ 2 ^ 52 * 2 ^ dropped := Nat.mul_le_mul_left _ power
        _ ≤ roundHalfEven numerator (denominator * 2 ^ dropped) * 2 ^ dropped :=
            Nat.mul_le_mul_right _ significand
    · calc (2 ^ (precision + 1) - 1) * (denominator * 2 ^ shift)
          ≤ 2 ^ (precision + 1) * (denominator * 2 ^ shift) :=
            Nat.mul_le_mul_right _ (Nat.sub_le _ _)
        _ = 2 * (2 ^ 52 * (2 * 2 ^ shift) * denominator) := by rw [precision]; ring
        _ ≤ 2 * (2 ^ 52 * 2 ^ dropped * denominator) :=
            Nat.mul_le_mul_left _ (Nat.mul_le_mul_right _ (Nat.mul_le_mul_left _ power))
        _ ≤ 2 * numerator := Nat.mul_le_mul_left _ filled

/-- The place of the half of a digit behind the largest finite double. -/
def lastHalf : Nat := 970

/-- The least whole number that no finite double comes near. -/
def leastBeyond : Nat :=
  (2 ^ (precision + 1) - 1) * 2 ^ lastHalf

theorem ofRatio_eq_infinite_iff {negative : Bool} {numerator denominator : Nat} :
    (∃ sign, ofRatio negative numerator denominator = .infinite sign) ↔
      ¬roundHalfEven numerator (denominator * 2 ^ droppedBits (numerator / denominator)) *
        2 ^ droppedBits (numerator / denominator) < 2 ^ magnitudeBits := by
  unfold ofRatio
  dsimp only
  split
  · next within =>
      refine iff_of_false ?_ (not_not.mpr within)
      rintro ⟨sign, made⟩
      cases made
  · next beyond => exact iff_of_true ⟨negative, rfl⟩ beyond

theorem bounded?_eq_none_iff {number : Double} :
    number.bounded? = none ↔ ∃ sign, number = .infinite sign := by
  cases number <;> simp [bounded?]

theorem ofQuotient?_eq_none_iff {value divisor : Nat} (positive : 0 < divisor) :
    ofQuotient? value divisor = none ↔ leastBeyond * divisor ≤ value := by
  -- the digits behind the significand of the largest finite double stay a name: no power of their
  -- number is to be computed
  obtain ⟨shift, whole, shifted⟩ :
      ∃ shift, precision + shift = magnitudeBits ∧ shift = lastHalf + 1 + quantumBits :=
    ⟨2045, by decide, by decide⟩
  have range : 2 ^ precision * 2 ^ shift = 2 ^ magnitudeBits := by rw [← Nat.pow_add, whole]
  have doubled : (2 ^ (precision + 1) - 1) * (divisor * 2 ^ shift) =
      2 * (leastBeyond * divisor * 2 ^ quantumBits) := by
    have power : 2 ^ shift = 2 * 2 ^ lastHalf * 2 ^ quantumBits := by
      rw [shifted, Nat.pow_add, Nat.pow_succ']
    rw [power, leastBeyond]
    generalize 2 ^ (precision + 1) - 1 = significand, 2 ^ lastHalf = half, 2 ^ quantumBits = one
    ring
  rw [ofQuotient?, bounded?_eq_none_iff, ofRatio_eq_infinite_iff, Int.natAbs_natCast, ← range,
    rounded_lt_iff positive (by omega), Nat.not_lt, doubled, Nat.mul_le_mul_left_iff (by decide),
    Nat.mul_le_mul_right_iff (Nat.two_pow_pos _)]

end FeatureFlags.Double
