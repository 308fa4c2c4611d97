/-!
# Doubles as whole numbers of quanta

Every finite double of the 64-bit binary format is a whole number of quanta of `2 ^ -1074`, so a
magnitude is a natural number and sums, differences and comparisons are exact integer arithmetic
followed by one rounding.  `ofRatio` is that rounding: to nearest, a half to the even neighbour,
and beyond the largest finite magnitude to infinity.  `representable_scale` says that every
significand of at most `precision` bits, shifted by any amount, is a magnitude of the format; this
is what makes `ofRatio` land on a double.
-/

set_option autoImplicit false

namespace FeatureFlags

-- Powers are those of the core library, whatever algebra is imported beside this module.
attribute [local instance (high)] instPowNat

namespace Double

/-- One is `2 ^ quantumBits` quanta. -/
def quantumBits : Nat := 1074

/-- Binary digits of a significand. -/
def precision : Nat := 53

/-- Finite magnitudes stay below `2 ^ magnitudeBits` quanta. -/
def magnitudeBits : Nat := 2098

/-- The number of low binary digits that a magnitude of this size has no room for. -/
def droppedBits (units : Nat) : Nat :=
  units.log2 + 1 - precision

/-- A number of quanta is a double's magnitude when its significand fits and it is in range. -/
def Representable (units : Nat) : Prop :=
  units % 2 ^ droppedBits units = 0 ∧ units < 2 ^ magnitudeBits

instance (units : Nat) : Decidable (Representable units) :=
  inferInstanceAs (Decidable (_ ∧ _))

end Double

/-- A double: not a number, an infinity, or a signed whole number of quanta; zero keeps its sign. -/
inductive Double where
  | nan
  | infinite (negative : Bool)
  | finite (negative : Bool) (units : Nat) (fits : Double.Representable units)
  deriving DecidableEq

namespace Double

/-- The quotient of two natural numbers to the nearest whole number, a half to the even one. -/
def roundHalfEven (numerator denominator : Nat) : Nat :=
  let floor := numerator / denominator
  let twice := 2 * (numerator % denominator)
  if twice < denominator ∨ (twice = denominator ∧ floor % 2 = 0) then floor else floor + 1

theorem roundHalfEven_le (numerator denominator : Nat) :
    roundHalfEven numerator denominator ≤ numerator / denominator + 1 := by
  unfold roundHalfEven
  dsimp only
  split <;> omega

theorem roundHalfEven_shifted_le (numerator denominator : Nat) :
    roundHalfEven numerator (denominator * 2 ^ droppedBits (numerator / denominator))
      ≤ 2 ^ precision := by
  have rounded := roundHalfEven_le numerator
    (denominator * 2 ^ droppedBits (numerator / denominator))
  rw [← Nat.div_div_eq_div_mul] at rounded
  have short : numerator / denominator / 2 ^ droppedBits (numerator / denominator)
      < 2 ^ precision := by
    generalize numerator / denominator = whole
    rw [Nat.div_lt_iff_lt_mul (Nat.two_pow_pos _), ← Nat.pow_add]
    by_cases zero : whole = 0
    · subst zero
      exact Nat.two_pow_pos _
    · rw [← Nat.log2_lt zero]
      unfold droppedBits
      omega
  omega

theorem mod_droppedBits_of_le {significand : Nat} (short : significand ≤ 2 ^ precision)
    (shift : Nat) :
    significand * 2 ^ shift % 2 ^ droppedBits (significand * 2 ^ shift) = 0 := by
  apply Nat.mod_eq_zero_of_dvd
  by_cases zero : significand = 0
  · simp [zero]
  by_cases full : significand = 2 ^ precision
  · rw [full, ← Nat.pow_add]
    apply Nat.pow_dvd_pow
    unfold droppedBits
    rw [Nat.log2_two_pow]
    simp only [precision]
    omega
  · refine Nat.dvd_trans (Nat.pow_dvd_pow 2 ?_) (Nat.dvd_mul_left _ _)
    have positive : significand * 2 ^ shift ≠ 0 :=
      Nat.mul_ne_zero zero (Nat.ne_of_gt (Nat.two_pow_pos shift))
    have bounded : significand * 2 ^ shift < 2 ^ (precision + shift) := by
      rw [Nat.pow_add]
      exact Nat.mul_lt_mul_of_pos_right (by omega) (Nat.two_pow_pos shift)
    have logarithm := (Nat.log2_lt positive).mpr bounded
    unfold droppedBits
    omega

theorem representable_scale {significand shift : Nat} (short : significand ≤ 2 ^ precision)
    (bounded : significand * 2 ^ shift < 2 ^ magnitudeBits) :
    Representable (significand * 2 ^ shift) :=
  ⟨mod_droppedBits_of_le short shift, bounded⟩

theorem representable_zero : Representable 0 :=
  ⟨Nat.zero_mod _, Nat.two_pow_pos _⟩

/-- The double nearest to `numerator / denominator` quanta. -/
def ofRatio (negative : Bool) (numerator denominator : Nat) : Double :=
  let shift := droppedBits (numerator / denominator)
  let significand := roundHalfEven numerator (denominator * 2 ^ shift)
  if bounded : significand * 2 ^ shift < 2 ^ magnitudeBits then
    .finite negative (significand * 2 ^ shift)
      (representable_scale (roundHalfEven_shifted_le numerator denominator) bounded)
  else
    .infinite negative

def zero (negative : Bool) : Double :=
  .finite negative 0 representable_zero

/-- The signed number of quanta of a finite double. -/
def signedUnits (negative : Bool) (units : Nat) : Int :=
  if negative then -(units : Int) else units

/-- The double nearest to a signed number of quanta; `negativeZero` is the sign of an exact zero. -/
def ofUnits (total : Int) (negativeZero : Bool) : Double :=
  if total = 0 then zero negativeZero else ofRatio (decide (total < 0)) total.natAbs 1

def ofInt (value : Int) : Double :=
  ofUnits (value * 2 ^ quantumBits) false

/-- The double itself unless it is an infinity. -/
def bounded? : Double → Option Double
  | .infinite _ => none
  | number => some number

/-- The double nearest to `value / divisor`, unless that is beyond every finite double. -/
def ofQuotient? (value : Int) (divisor : Nat) : Option Double :=
  (ofRatio (decide (value < 0)) (value.natAbs * 2 ^ quantumBits) divisor).bounded?

def neg : Double → Double
  | .nan => .nan
  | .infinite negative => .infinite (!negative)
  | .finite negative units fits => .finite (!negative) units fits

def scale (factor : Nat) : Double → Double
  | .nan => .nan
  | .infinite negative => if factor = 0 then .nan else .infinite negative
  | .finite negative units _ => ofRatio negative (units * factor) 1

/-- The rounded sum; opposite infinities have none. -/
def add : Double → Double → Double
  | .nan, _ => .nan
  | _, .nan => .nan
  | .infinite left, .infinite right => if left = right then .infinite left else .nan
  | .infinite left, .finite .. => .infinite left
  | .finite .., .infinite right => .infinite right
  | .finite left m _, .finite right n _ =>
      ofUnits (signedUnits left m + signedUnits right n) (left && right)

def sub (left right : Double) : Double :=
  left.add right.neg

instance : Neg Double := ⟨neg⟩
instance : Add Double := ⟨add⟩
instance : Sub Double := ⟨sub⟩

/-- The order of two doubles by value: zeros are equal, and nothing compares with not-a-number. -/
def order? : Double → Double → Option Ordering
  | .nan, _ => none
  | _, .nan => none
  | .infinite left, .infinite right => some (compare right.toNat left.toNat)
  | .infinite left, .finite .. => some (if left then .lt else .gt)
  | .finite .., .infinite right => some (if right then .gt else .lt)
  | .finite left m _, .finite right n _ => some (compare (signedUnits left m) (signedUnits right n))

/-- The order of an integer and a double by exact value. -/
def orderInt? (value : Int) : Double → Option Ordering
  | .nan => none
  | .infinite negative => some (if negative then .gt else .lt)
  | .finite negative units _ =>
      some (compare (value * 2 ^ quantumBits) (signedUnits negative units))

def lt (left right : Double) : Bool :=
  left.order? right == some .lt

/-- A double that is a whole number, as an integer. -/
def toInt? : Double → Option Int
  | .finite negative units _ =>
      if units % 2 ^ quantumBits = 0 then
        some (signedUnits negative (units / 2 ^ quantumBits))
      else
        none
  | _ => none

/-- Either of the two zeros. -/
def isZero : Double → Bool
  | .finite _ 0 _ => true
  | _ => false

end Double

end FeatureFlags
