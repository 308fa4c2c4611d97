import Mathlib
import FeatureFlags.Double.Basic

/-!
# Rounding is monotone and fixes what it can represent

`units?` places a double among the integers of quanta, with an infinity at either end and no place
for not-a-number; the order of doubles is the order of these places.  `roundPlace` is the place of
the double nearest to an exact sum.  It is monotone (`roundPlace_mono`) and fixes the places of
finite doubles (`roundPlace_signedUnits`); everything that is said about the age of a record rests
on these two facts.
-/

set_option autoImplicit false

namespace FeatureFlags.Double

-- Powers are those of the core library, whatever algebra is imported beside this module.
attribute [local instance (high)] instPowNat

/-! ## Rounding magnitudes -/

def roundMagnitude (units : Nat) : Nat :=
  roundHalfEven units (2 ^ droppedBits units) * 2 ^ droppedBits units

theorem le_roundHalfEven (numerator denominator : Nat) :
    numerator / denominator ≤ roundHalfEven numerator denominator := by
  unfold roundHalfEven
  dsimp only
  split <;> omega

theorem roundHalfEven_mono {smaller larger : Nat} (denominator : Nat) (ordered : smaller ≤ larger) :
    roundHalfEven smaller denominator ≤ roundHalfEven larger denominator := by
  have quotients : smaller / denominator ≤ larger / denominator := Nat.div_le_div_right ordered
  rcases Nat.lt_or_ge (smaller / denominator) (larger / denominator) with apart | same
  · calc roundHalfEven smaller denominator
        ≤ smaller / denominator + 1 := roundHalfEven_le smaller denominator
      _ ≤ larger / denominator := apart
      _ ≤ roundHalfEven larger denominator := le_roundHalfEven larger denominator
  · have floors : smaller / denominator = larger / denominator := Nat.le_antisymm quotients same
    have remainders : smaller % denominator ≤ larger % denominator := by
      have left := Nat.div_add_mod smaller denominator
      have right := Nat.div_add_mod larger denominator
      rw [floors] at left
      omega
    unfold roundHalfEven
    dsimp only
    rw [floors]
    split <;> split <;> omega

theorem droppedBits_mono {smaller larger : Nat} (ordered : smaller ≤ larger) :
    droppedBits smaller ≤ droppedBits larger := by
  unfold droppedBits
  have logarithms : smaller.log2 ≤ larger.log2 := by
    by_cases zero : smaller = 0
    · simp [zero]
    · have positive : larger ≠ 0 := by omega
      exact (Nat.le_log2 positive).mpr (Nat.le_trans (Nat.log2_self_le zero) ordered)
  omega

theorem roundHalfEven_droppedBits_le (units : Nat) :
    roundHalfEven units (2 ^ droppedBits units) ≤ 2 ^ precision := by
  simpa using roundHalfEven_shifted_le units 1

/-- A number that drops more digits than another is not rounded below it. -/
theorem roundMagnitude_le_of_droppedBits_lt {smaller larger : Nat}
    (shorter : droppedBits smaller < droppedBits larger) :
    roundMagnitude smaller ≤ roundMagnitude larger := by
  have positive : larger ≠ 0 := by
    rintro rfl
    simp [droppedBits, precision] at shorter
  have size : larger.log2 = droppedBits larger + 52 := by
    unfold droppedBits precision at shorter ⊢
    omega
  have significand : 2 ^ 52 ≤ larger / 2 ^ droppedBits larger := by
    rw [Nat.le_div_iff_mul_le (Nat.two_pow_pos _), ← Nat.pow_add, Nat.add_comm, ← size]
    exact Nat.log2_self_le positive
  calc roundMagnitude smaller
      ≤ 2 ^ precision * 2 ^ droppedBits smaller :=
        Nat.mul_le_mul_right _ (roundHalfEven_droppedBits_le smaller)
    _ = 2 ^ (53 + droppedBits smaller) := by rw [precision, Nat.pow_add]
    _ ≤ 2 ^ (52 + droppedBits larger) := Nat.pow_le_pow_right (by decide) (by omega)
    _ = 2 ^ 52 * 2 ^ droppedBits larger := Nat.pow_add 2 52 _
    _ ≤ roundMagnitude larger :=
        Nat.mul_le_mul_right _ (Nat.le_trans significand (le_roundHalfEven _ _))

theorem roundMagnitude_mono {smaller larger : Nat} (ordered : smaller ≤ larger) :
    roundMagnitude smaller ≤ roundMagnitude larger := by
  rcases Nat.lt_or_ge (droppedBits smaller) (droppedBits larger) with shorter | same
  · exact roundMagnitude_le_of_droppedBits_lt shorter
  · have shifts : droppedBits smaller = droppedBits larger :=
      Nat.le_antisymm (droppedBits_mono ordered) same
    unfold roundMagnitude
    rw [shifts]
    exact Nat.mul_le_mul_right _ (roundHalfEven_mono _ ordered)

theorem roundMagnitude_of_representable {units : Nat} (fits : Representable units) :
    roundMagnitude units = units := by
  have whole : units % 2 ^ droppedBits units = 0 := fits.1
  have exact' : roundHalfEven units (2 ^ droppedBits units) = units / 2 ^ droppedBits units := by
    unfold roundHalfEven
    dsimp only
    rw [whole, if_pos (.inl (Nat.two_pow_pos _))]
  rw [roundMagnitude, exact', Nat.div_mul_cancel (Nat.dvd_of_mod_eq_zero whole)]

/-! ## Places -/

def units? : Double → Option (EInt)
  | .nan => none
  | .infinite true => some ⊥
  | .infinite false => some ⊤
  | .finite negative units _ => some (signedUnits negative units : Int)

def roundPlace (total : Int) : EInt :=
  if roundMagnitude total.natAbs < 2 ^ magnitudeBits then
    (signedUnits (decide (total < 0)) (roundMagnitude total.natAbs) : Int)
  else if total < 0 then ⊥ else ⊤

theorem signedUnits_zero (negative : Bool) : signedUnits negative 0 = 0 := by
  cases negative <;> rfl

theorem natAbs_signedUnits (negative : Bool) (units : Nat) :
    (signedUnits negative units).natAbs = units := by
  cases negative <;> simp [signedUnits]

theorem signedUnits_natAbs (total : Int) :
    signedUnits (decide (total < 0)) total.natAbs = total := by
  by_cases negative : total < 0
  · simp only [signedUnits, negative, decide_true, if_true]
    omega
  · simp only [signedUnits, negative, decide_false, Bool.false_eq_true, if_false]
    omega

theorem units?_ofRatio (negative : Bool) (units : Nat) :
    (ofRatio negative units 1).units? =
      if roundMagnitude units < 2 ^ magnitudeBits then
        some ((signedUnits negative (roundMagnitude units) : Int) : EInt)
      else if negative then some ⊥ else some ⊤ := by
  simp only [ofRatio, Nat.div_one, Nat.one_mul]
  by_cases bounded : roundMagnitude units < 2 ^ magnitudeBits
  · rw [if_pos bounded]
    unfold roundMagnitude at bounded ⊢
    rw [dif_pos bounded, units?]
  · rw [if_neg bounded]
    unfold roundMagnitude at bounded
    rw [dif_neg bounded]
    cases negative <;> rfl

theorem units?_ofUnits (total : Int) (negativeZero : Bool) :
    (ofUnits total negativeZero).units? = some (roundPlace total) := by
  unfold ofUnits roundPlace
  by_cases zero : total = 0
  · subst zero
    rw [if_pos rfl, Int.natAbs_zero, roundMagnitude_of_representable representable_zero,
      if_pos (Nat.two_pow_pos _), signedUnits_zero]
    simp [Double.zero, units?, signedUnits_zero]
  · rw [if_neg zero, units?_ofRatio]
    split
    · rfl
    · by_cases negative : total < 0 <;> simp [negative]

theorem roundPlace_of_representable {total : Int} (fits : Representable total.natAbs) :
    roundPlace total = (total : Int) := by
  rw [roundPlace, roundMagnitude_of_representable fits, if_pos fits.2, signedUnits_natAbs]

theorem roundPlace_signedUnits {units : Nat} (fits : Representable units) (negative : Bool) :
    roundPlace (signedUnits negative units) = (signedUnits negative units : Int) := by
  apply roundPlace_of_representable
  rw [natAbs_signedUnits]
  exact fits

/-! ## Integers in quanta -/

theorem quanta_pos : (0 : Int) < 2 ^ quantumBits :=
  Int.pow_pos (by decide)

theorem natAbs_quanta (value : Int) :
    (value * 2 ^ quantumBits).natAbs = value.natAbs * 2 ^ quantumBits := by
  have two : (2 : Int).natAbs = 2 := rfl
  rw [Int.natAbs_mul, Int.natAbs_pow, two]

theorem units?_ofInt (value : Int) :
    (ofInt value).units? = some (roundPlace (value * 2 ^ quantumBits)) :=
  units?_ofUnits _ _

/-- Integers of up to `precision` bits are doubles. -/
theorem roundPlace_short {value : Int} (short : value.natAbs ≤ 2 ^ precision) :
    roundPlace (value * 2 ^ quantumBits) = (value * 2 ^ quantumBits : Int) := by
  apply roundPlace_of_representable
  rw [natAbs_quanta]
  apply representable_scale short
  calc value.natAbs * 2 ^ quantumBits
      ≤ 2 ^ precision * 2 ^ quantumBits := Nat.mul_le_mul_right _ short
    _ = 2 ^ (precision + quantumBits) := (Nat.pow_add 2 precision quantumBits).symm
    _ < 2 ^ magnitudeBits := Nat.pow_lt_pow_right (by decide) (by decide)

theorem roundPlace_mono {smaller larger : Int} (ordered : smaller ≤ larger) :
    roundPlace smaller ≤ roundPlace larger := by
  unfold roundPlace
  generalize 2 ^ magnitudeBits = limit
  by_cases smallerNegative : smaller < 0
  · by_cases largerNegative : larger < 0
    · have magnitudes : roundMagnitude larger.natAbs ≤ roundMagnitude smaller.natAbs :=
        roundMagnitude_mono (by omega)
      simp only [smallerNegative, largerNegative, decide_true, if_true, signedUnits]
      split
      next fits =>
          rw [if_pos (Nat.lt_of_le_of_lt magnitudes fits)]
          exact WithBotTop.coe_le_coe.mpr (Int.neg_le_neg (Int.ofNat_le.mpr magnitudes))
      · exact bot_le
    · simp only [smallerNegative, largerNegative, decide_true, decide_false, if_true, signedUnits]
      split
      · split
        · apply WithBotTop.coe_le_coe.mpr
          simp only [Bool.false_eq_true, if_false]
          omega
        · simp
      · exact bot_le
  · have largerNonnegative : ¬ larger < 0 := by omega
    have magnitudes : roundMagnitude smaller.natAbs ≤ roundMagnitude larger.natAbs :=
      roundMagnitude_mono (by omega)
    simp only [smallerNegative, largerNonnegative, decide_false, if_false, signedUnits]
    by_cases fits : roundMagnitude larger.natAbs < limit
    · rw [if_pos fits, if_pos (Nat.lt_of_le_of_lt magnitudes fits)]
      simp only [Bool.false_eq_true, if_false]
      exact WithBotTop.coe_le_coe.mpr (Int.ofNat_le.mpr magnitudes)
    · rw [if_neg fits]
      exact le_top

end FeatureFlags.Double
