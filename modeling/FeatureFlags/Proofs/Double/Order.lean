import FeatureFlags.Proofs.Double.Rounding

/-!
# The order of doubles, and differences in it

The order of doubles is the order of their places.  A difference grows with its first term and
shrinks with its second, rounded or not; an infinite term makes it infinite or leaves nothing to
compare.
-/

set_option autoImplicit false

namespace FeatureFlags.Double

def isFinite : Double → Bool
  | .finite .. => true
  | _ => false

def le (left right : Double) : Bool :=
  (left.order? right).any (· != .gt)

/-! ## The order of places -/

theorem order?_of_places {left right : Double} {place other : EInt}
    (leftPlace : left.units? = some place) (rightPlace : right.units? = some other) :
    left.order? right =
      some (if place < other then .lt else if other < place then .gt else .eq) := by
  cases left with
  | nan => cases leftPlace
  | infinite leftNegative =>
      cases right with
      | nan => cases rightPlace
      | infinite rightNegative =>
          cases leftNegative <;> cases rightNegative <;> cases leftPlace <;> cases rightPlace <;>
            simp [order?] <;> decide
      | finite rightNegative rightUnits rightFits =>
          cases leftNegative <;> cases leftPlace <;> cases rightPlace <;> simp [order?]
  | finite leftNegative leftUnits leftFits =>
      cases right with
      | nan => cases rightPlace
      | infinite rightNegative =>
          cases rightNegative <;> cases leftPlace <;> cases rightPlace <;> simp [order?]
      | finite rightNegative rightUnits rightFits =>
          cases leftPlace
          cases rightPlace
          simp only [order?, WithBotTop.coe_lt_coe]
          rcases Int.lt_trichotomy (signedUnits leftNegative leftUnits)
            (signedUnits rightNegative rightUnits) with less | same | more
          · rw [if_pos less, compare_lt_iff_lt.mpr less]
          · rw [same, if_neg (Int.lt_irrefl _), if_neg (Int.lt_irrefl _),
              compare_eq_iff_eq.mpr rfl]
          · rw [if_neg (Int.lt_asymm more), if_pos more, compare_gt_iff_gt.mpr more]

theorem places_of_order? {left right : Double} {order : Ordering}
    (ordered : left.order? right = some order) :
    ∃ place other, left.units? = some place ∧ right.units? = some other := by
  cases left with
  | nan => cases ordered
  | infinite leftNegative =>
      cases right with
      | nan => cases ordered
      | infinite rightNegative =>
          cases leftNegative <;> cases rightNegative <;> exact ⟨_, _, rfl, rfl⟩
      | finite rightNegative rightUnits rightFits => cases leftNegative <;> exact ⟨_, _, rfl, rfl⟩
  | finite leftNegative leftUnits leftFits =>
      cases right with
      | nan => cases ordered
      | infinite rightNegative => cases rightNegative <;> exact ⟨_, _, rfl, rfl⟩
      | finite rightNegative rightUnits rightFits => exact ⟨_, _, rfl, rfl⟩

theorem order?_swap (left right : Double) :
    right.order? left = (left.order? right).map Ordering.swap := by
  cases left with
  | nan => cases right <;> rfl
  | infinite leftNegative =>
      cases right with
      | nan => rfl
      | infinite rightNegative => cases leftNegative <;> cases rightNegative <;> rfl
      | finite rightNegative rightUnits rightFits => cases leftNegative <;> rfl
  | finite leftNegative leftUnits leftFits =>
      cases right with
      | nan => rfl
      | infinite rightNegative => cases rightNegative <;> rfl
      | finite rightNegative rightUnits rightFits =>
          rw [order?, order?, Option.map_some, Int.compare_swap]

theorem lt_iff {left right : Double} : left.lt right = true ↔
    ∃ place other, left.units? = some place ∧ right.units? = some other ∧ place < other := by
  constructor
  · intro less
    have ordered : left.order? right = some .lt := beq_iff_eq.mp less
    obtain ⟨place, other, leftPlace, rightPlace⟩ := places_of_order? ordered
    refine ⟨place, other, leftPlace, rightPlace, ?_⟩
    rw [order?_of_places leftPlace rightPlace] at ordered
    split at ordered
    · assumption
    · split at ordered <;> cases ordered
  · rintro ⟨place, other, leftPlace, rightPlace, less⟩
    simp [lt, order?_of_places leftPlace rightPlace, less]

theorem le_iff {left right : Double} : left.le right = true ↔
    ∃ place other, left.units? = some place ∧ right.units? = some other ∧ place ≤ other := by
  constructor
  · intro ordered
    obtain ⟨order, found, notMore⟩ := (Option.any_eq_true _ _).mp ordered
    obtain ⟨place, other, leftPlace, rightPlace⟩ := places_of_order? found
    refine ⟨place, other, leftPlace, rightPlace, not_lt.mp fun more => ?_⟩
    rw [order?_of_places leftPlace rightPlace, if_neg (lt_asymm more), if_pos more] at found
    cases found
    cases notMore
  · rintro ⟨place, other, leftPlace, rightPlace, ordered⟩
    rw [le, order?_of_places leftPlace rightPlace, if_neg (not_lt.mpr ordered)]
    split <;> rfl

theorem le_trans {first second third : Double} (left : first.le second = true)
    (right : second.le third = true) : first.le third = true := by
  obtain ⟨place, middle, firstPlace, secondPlace, leftOrdered⟩ := le_iff.mp left
  obtain ⟨other, last, sameDouble, thirdPlace, rightOrdered⟩ := le_iff.mp right
  cases secondPlace.symm.trans sameDouble
  exact le_iff.mpr ⟨place, last, firstPlace, thirdPlace, leftOrdered.trans rightOrdered⟩

theorem le_refl_of_ne_nan {number : Double} (comparable : number ≠ nan) :
    number.le number = true := by
  cases number with
  | nan => exact absurd rfl comparable
  | infinite negative => cases negative <;> rfl
  | finite negative units fits => exact le_iff.mpr ⟨_, _, rfl, rfl, le_rfl⟩

theorem le_refl_of_le {left right : Double} (ordered : left.le right = true) :
    right.le right = true := by
  obtain ⟨place, other, leftPlace, rightPlace, -⟩ := le_iff.mp ordered
  exact le_iff.mpr ⟨other, other, rightPlace, rightPlace, le_rfl⟩

/-! ## Integers among the places -/

def placeOf (value : Int) : EInt :=
  (value * 2 ^ quantumBits : Int)

theorem placeOf_lt_iff {left right : Int} : placeOf left < placeOf right ↔ left < right := by
  rw [placeOf, placeOf, WithBotTop.coe_lt_coe]
  exact Int.mul_lt_mul_right quanta_pos

theorem cmp_placeOf (left right : Int) :
    cmp (placeOf left) (placeOf right) = compare left right := by
  rcases Int.lt_trichotomy left right with less | same | more
  · rw [(cmp_eq_lt_iff _ _).mpr (placeOf_lt_iff.mpr less), compare_lt_iff_lt.mpr less]
  · rw [same, cmp_self_eq_eq, compare_eq_iff_eq.mpr rfl]
  · rw [(cmp_eq_gt_iff _ _).mpr (placeOf_lt_iff.mpr more), compare_gt_iff_gt.mpr more]

theorem orderInt?_of_place {number : Double} {place : EInt} (found : number.units? = some place)
    (value : Int) : number.orderInt? value = some (cmp (placeOf value) place) := by
  cases number with
  | nan => cases found
  | infinite negative =>
      cases negative with
      | true =>
          cases found
          have above : ⊥ < placeOf value := bot_lt_iff_ne_bot.mpr (WithBotTop.coe_ne_bot _)
          rw [orderInt?, (cmp_eq_gt_iff _ _).mpr above, if_pos rfl]
      | false =>
          cases found
          have below : placeOf value < ⊤ := lt_top_iff_ne_top.mpr (WithBotTop.coe_ne_top _)
          rw [orderInt?, (cmp_eq_lt_iff _ _).mpr below]
          rfl
  | finite negative units fits =>
      cases found
      rw [orderInt?, placeOf]
      rcases Int.lt_trichotomy (value * 2 ^ quantumBits) (signedUnits negative units)
        with less | same | more
      · rw [compare_lt_iff_lt.mpr less, (cmp_eq_lt_iff _ _).mpr (WithBotTop.coe_lt_coe.mpr less)]
      · rw [same, compare_eq_iff_eq.mpr rfl, cmp_self_eq_eq]
      · rw [compare_gt_iff_gt.mpr more, (cmp_eq_gt_iff _ _).mpr (WithBotTop.coe_lt_coe.mpr more)]

theorem place_of_orderInt? {value : Int} {number : Double} {order : Ordering}
    (ordered : number.orderInt? value = some order) : ∃ place, number.units? = some place := by
  cases number with
  | nan => cases ordered
  | infinite negative => cases negative <;> exact ⟨_, rfl⟩
  | finite negative units fits => exact ⟨_, rfl⟩

theorem signedUnits_mul (negative : Bool) (units factor : Nat) :
    signedUnits negative (units * factor) = signedUnits negative units * factor := by
  cases negative <;> simp [signedUnits]

/-- A double that equals an integer is whole. -/
theorem toInt?_of_orderInt? {value : Int} {number : Double}
    (same : number.orderInt? value = some .eq) : number.toInt? = some value := by
  cases number with
  | nan => cases same
  | infinite negative => cases negative <;> cases same
  | finite negative units fits =>
      have equal : value * 2 ^ quantumBits = signedUnits negative units :=
        compare_eq_iff_eq.mp (Option.some.inj same)
      have scaled : units = value.natAbs * 2 ^ quantumBits := by
        rw [← natAbs_quanta, equal, natAbs_signedUnits]
      have whole : units % 2 ^ quantumBits = 0 := by
        rw [scaled, Nat.mul_mod_left]
      have quotient : units / 2 ^ quantumBits = value.natAbs := by
        rw [scaled, Nat.mul_div_cancel _ (Nat.two_pow_pos _)]
      have sign : signedUnits negative value.natAbs = value := by
        apply Int.eq_of_mul_eq_mul_right quanta_pos.ne'
        rw [equal, scaled, signedUnits_mul, Nat.cast_pow, Nat.cast_ofNat]
      rw [toInt?, if_pos whole, quotient, sign]

/-! ## Differences -/

theorem signedUnits_not (negative : Bool) (units : Nat) :
    signedUnits (!negative) units = -signedUnits negative units := by
  cases negative <;> simp [signedUnits]

theorem units?_add_finite (left right : Bool) {leftUnits rightUnits : Nat}
    (leftFits : Representable leftUnits) (rightFits : Representable rightUnits) :
    (Double.finite left leftUnits leftFits + Double.finite right rightUnits rightFits).units? =
      some (roundPlace (signedUnits left leftUnits + signedUnits right rightUnits)) :=
  units?_ofUnits _ _

theorem units?_sub_finite (left right : Bool) {leftUnits rightUnits : Nat}
    (leftFits : Representable leftUnits) (rightFits : Representable rightUnits) :
    (Double.finite left leftUnits leftFits - Double.finite right rightUnits rightFits).units? =
      some (roundPlace (signedUnits left leftUnits - signedUnits right rightUnits)) := by
  have added := units?_add_finite left (!right) leftFits rightFits
  rwa [signedUnits_not, ← Int.sub_eq_add_neg] at added

theorem eq_of_infinite_le {right : Double} (ordered : (infinite false).le right = true) :
    right = infinite false := by
  cases right with
  | nan => cases ordered
  | infinite negative => cases negative <;> first | rfl | cases ordered
  | finite negative units fits => cases ordered

theorem eq_of_le_infinite {left : Double} (ordered : left.le (infinite true) = true) :
    left = infinite true := by
  cases left with
  | nan => cases ordered
  | infinite negative => cases negative <;> first | rfl | cases ordered
  | finite negative units fits => cases ordered

theorem units?_infinite_sub {right : Double} {place : EInt}
    (difference : (infinite false - right).units? = some place) : place = ⊤ := by
  cases right with
  | nan => cases difference
  | infinite negative => cases negative <;> cases difference; rfl
  | finite negative units fits => cases difference; rfl

theorem units?_sub_infinite {left : Double} {place : EInt}
    (difference : (left - infinite true).units? = some place) : place = ⊤ := by
  cases left with
  | nan => cases difference
  | infinite negative => cases negative <;> cases difference; rfl
  | finite negative units fits => cases difference; rfl

theorem units?_add_infinite {left : Double} {place : EInt}
    (sum : (left + infinite false).units? = some place) : place = ⊤ :=
  units?_sub_infinite sum

theorem units?_sub_le {first larger second smaller : Double} {place : EInt}
    (firstOrdered : first.le larger = true) (secondOrdered : smaller.le second = true)
    (difference : (larger - smaller).units? = some place) (below : place ≠ ⊤) :
    ∃ lower, (first - second).units? = some lower ∧ lower ≤ place := by
  have largerFinite : larger ≠ infinite false := by
    rintro rfl
    exact below (units?_infinite_sub difference)
  have smallerFinite : smaller ≠ infinite true := by
    rintro rfl
    exact below (units?_sub_infinite difference)
  have firstFinite : first ≠ infinite false := by
    rintro rfl
    exact largerFinite (eq_of_infinite_le firstOrdered)
  have secondFinite : second ≠ infinite true := by
    rintro rfl
    exact smallerFinite (eq_of_le_infinite secondOrdered)
  cases first with
  | nan => cases firstOrdered
  | infinite firstNegative =>
      cases firstNegative with
      | false => exact absurd rfl firstFinite
      | true =>
          refine ⟨⊥, ?_, bot_le⟩
          cases second with
          | nan => cases smaller <;> cases secondOrdered
          | infinite secondNegative =>
              cases secondNegative with
              | false => rfl
              | true => exact absurd rfl secondFinite
          | finite secondNegative secondUnits secondFits => rfl
  | finite firstNegative firstUnits firstFits =>
      cases second with
      | nan => cases smaller <;> cases secondOrdered
      | infinite secondNegative =>
          cases secondNegative with
          | false => exact ⟨⊥, rfl, bot_le⟩
          | true => exact absurd rfl secondFinite
      | finite secondNegative secondUnits secondFits =>
          cases larger with
          | nan => cases firstOrdered
          | infinite largerNegative =>
              cases largerNegative with
              | false => exact absurd rfl largerFinite
              | true => cases firstOrdered
          | finite largerNegative largerUnits largerFits =>
              cases smaller with
              | nan => cases secondOrdered
              | infinite smallerNegative =>
                  cases smallerNegative with
                  | false => cases secondOrdered
                  | true => exact absurd rfl smallerFinite
              | finite smallerNegative smallerUnits smallerFits =>
                  refine ⟨_, units?_sub_finite _ _ firstFits secondFits, ?_⟩
                  rw [units?_sub_finite] at difference
                  rw [← Option.some.inj difference]
                  apply roundPlace_mono
                  have firstPlaces := le_iff.mp firstOrdered
                  have secondPlaces := le_iff.mp secondOrdered
                  simp only [units?, Option.some.injEq, exists_and_left, exists_eq_left',
                    WithBotTop.coe_le_coe] at firstPlaces secondPlaces
                  exact Int.sub_le_sub firstPlaces secondPlaces

/-- A difference that is below a bound stays so when its first term falls and its second rises. -/
theorem sub_lt_of_le {first larger second smaller bound : Double}
    (firstOrdered : first.le larger = true) (secondOrdered : smaller.le second = true)
    (below : (larger - smaller).lt bound = true) : (first - second).lt bound = true := by
  obtain ⟨place, limit, difference, boundPlace, less⟩ := lt_iff.mp below
  obtain ⟨lower, lowerPlace, ordered⟩ :=
    units?_sub_le firstOrdered secondOrdered difference (ne_top_of_lt less)
  exact lt_iff.mpr ⟨lower, limit, lowerPlace, boundPlace, ordered.trans_lt less⟩

theorem not_add_lt_and_sub_lt {first second bound : Int}
    (expired : roundPlace (second + bound) < roundPlace first)
    (fresh : roundPlace (first - second) < roundPlace bound) : False := by
  have later : second + bound < first := by
    rw [← Int.not_le]
    exact fun ordered => not_le.mpr expired (roundPlace_mono ordered)
  have sooner : first - second < bound := by
    rw [← Int.not_le]
    exact fun ordered => not_le.mpr fresh (roundPlace_mono ordered)
  omega

theorem ne_nan_of_sub_lt {first second bound : Double}
    (below : (first - second).lt bound = true) : first ≠ nan ∧ second ≠ nan := by
  constructor
  · rintro rfl
    cases below
  · rintro rfl
    cases first <;> cases below

/-- When a sum lies below a number, the difference of the two does not lie below the other term. -/
theorem sub_not_lt_of_add_lt {first second bound : Double}
    (below : (second + bound).lt first = true) : (first - second).lt bound = false := by
  rw [Bool.eq_false_iff]
  intro young
  obtain ⟨expiry, now, expiryPlace, firstPlace, expired⟩ := lt_iff.mp below
  obtain ⟨age, limit, agePlace, boundPlace, fresh⟩ := lt_iff.mp young
  cases first with
  | nan => cases firstPlace
  | infinite firstNegative =>
      cases firstNegative with
      | true =>
          cases firstPlace
          exact not_lt_bot expired
      | false =>
          rw [units?_infinite_sub agePlace] at fresh
          exact not_top_lt fresh
  | finite firstNegative firstUnits firstFits =>
      cases bound with
      | nan => cases boundPlace
      | infinite boundNegative =>
          cases boundNegative with
          | true =>
              cases boundPlace
              exact not_lt_bot fresh
          | false =>
              rw [units?_add_infinite expiryPlace] at expired
              exact not_top_lt expired
      | finite boundNegative boundUnits boundFits =>
          cases second with
          | nan => cases agePlace
          | infinite secondNegative =>
              cases secondNegative with
              | true =>
                  rw [units?_sub_infinite agePlace] at fresh
                  exact not_top_lt fresh
              | false =>
                  cases expiryPlace
                  exact not_top_lt expired
          | finite secondNegative secondUnits secondFits =>
              rw [units?_add_finite] at expiryPlace
              rw [units?_sub_finite] at agePlace
              rw [← Option.some.inj expiryPlace, ← Option.some.inj firstPlace,
                ← roundPlace_signedUnits firstFits] at expired
              rw [← Option.some.inj agePlace, ← Option.some.inj boundPlace,
                ← roundPlace_signedUnits boundFits] at fresh
              exact not_add_lt_and_sub_lt expired fresh

/-- A finite number less itself is below every positive bound. -/
theorem sub_self_lt {number bound : Double} (finite : number.isFinite = true)
    (positive : (zero false).lt bound = true) : (number - number).lt bound = true := by
  obtain ⟨origin, limit, originPlace, boundPlace, below⟩ := lt_iff.mp positive
  cases originPlace
  cases number with
  | nan => cases finite
  | infinite negative => cases finite
  | finite negative units fits =>
      refine lt_iff.mpr ⟨_, limit, units?_sub_finite negative negative fits fits, boundPlace, ?_⟩
      have nothing := roundPlace_signedUnits representable_zero false
      rw [signedUnits_zero] at nothing below
      rw [Int.sub_self, nothing]
      exact below

end FeatureFlags.Double
