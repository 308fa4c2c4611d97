import FeatureFlags.Proofs.Value.Order

/-!
# Numbers by exact value

An integer and a finite double are both rational numbers, and an infinite double is above or below
them all.  The order of numbers is the order of these values, nothing is rounded for it, and
not-a-number has no value to be ordered by (`Number.order?_eq_compareValues?`).
-/

set_option autoImplicit false

namespace FeatureFlags

namespace Double

def value? : Double → Option (WithBotTop ℚ)
  | .nan => none
  | .infinite true => some ⊥
  | .infinite false => some ⊤
  | .finite negative units _ =>
      some ((signedUnits negative units / 2 ^ quantumBits : ℚ) : WithBotTop ℚ)

def valueAt : EInt → WithBotTop ℚ :=
  WithBot.map (WithTop.map fun units : ℤ => (units / 2 ^ quantumBits : ℚ))

theorem valueAt_strictMono : StrictMono valueAt := by
  have scaled : StrictMono fun units : ℤ => (units / 2 ^ quantumBits : ℚ) := by
    intro units others below
    exact div_lt_div_of_pos_right (Int.cast_lt.mpr below) (by positivity)
  exact scaled.withTop_map.withBot_map

theorem value?_eq_map (number : Double) : number.value? = number.units?.map valueAt := by
  cases number with
  | nan => rfl
  | infinite negative => cases negative <;> rfl
  | finite negative units fits => rfl

theorem valueAt_placeOf (value : ℤ) : valueAt (placeOf value) = ((value : ℚ) : WithBotTop ℚ) := by
  have quanta : (((value * 2 ^ quantumBits : ℤ) : ℚ) / 2 ^ quantumBits : ℚ) = value := by
    rw [Int.cast_mul, Int.cast_pow, Int.cast_ofNat]
    exact mul_div_cancel_right₀ _ (by positivity)
  exact congrArg WithBotTop.coe quanta

end Double

namespace Number

def value? : Number → Option (WithBotTop ℚ)
  | .int value => some ((value : ℚ) : WithBotTop ℚ)
  | .double value => value.value?

def compareValues? (left right : Number) : Option Ordering :=
  match left.value?, right.value? with
  | some value, some other => some (cmp value other)
  | _, _ => none

def place? : Number → Option EInt
  | .int value => some (Double.placeOf value)
  | .double value => value.units?

theorem value?_eq_map (number : Number) : number.value? = number.place?.map Double.valueAt := by
  cases number with
  | int value => rw [value?, place?, Option.map_some, Double.valueAt_placeOf]
  | double value => exact value.value?_eq_map

theorem order?_of_places {left right : Number} {place other : EInt}
    (leftPlace : left.place? = some place) (rightPlace : right.place? = some other) :
    left.order? right = some (cmp place other) := by
  cases left with
  | int left =>
      cases leftPlace
      cases right with
      | int right =>
          cases rightPlace
          rw [order?, Double.cmp_placeOf]
      | double right => exact Double.orderInt?_of_place rightPlace left
  | double left =>
      cases right with
      | int right =>
          cases rightPlace
          have beside : left.orderInt? right = some (cmp (Double.placeOf right) place) :=
            Double.orderInt?_of_place leftPlace right
          rw [order?, beside, Option.map_some, cmp_swap]
      | double right => exact Double.order?_of_places leftPlace rightPlace

theorem places_of_order? {left right : Number} {order : Ordering}
    (ordered : left.order? right = some order) :
    ∃ place other, left.place? = some place ∧ right.place? = some other := by
  cases left with
  | int left =>
      cases right with
      | int right => exact ⟨_, _, rfl, rfl⟩
      | double right =>
          obtain ⟨other, found⟩ := Double.place_of_orderInt? ordered
          exact ⟨_, other, rfl, found⟩
  | double left =>
      cases right with
      | int right =>
          obtain ⟨order, found, -⟩ := Option.map_eq_some_iff.mp ordered
          obtain ⟨place, here⟩ := Double.place_of_orderInt? found
          exact ⟨place, _, here, rfl⟩
      | double right => exact Double.places_of_order? ordered

theorem order?_eq_compareValues? (left right : Number) :
    left.order? right = left.compareValues? right := by
  rw [compareValues?, value?_eq_map, value?_eq_map]
  cases leftPlace : left.place? with
  | some place =>
      cases rightPlace : right.place? with
      | some other =>
          rw [order?_of_places leftPlace rightPlace]
          exact congrArg some (Double.valueAt_strictMono.cmp_map_eq place other).symm
      | none =>
          refine Option.eq_none_iff_forall_ne_some.mpr fun order ordered => ?_
          obtain ⟨place, other, -, found⟩ := places_of_order? ordered
          cases rightPlace.symm.trans found
  | none =>
      refine Option.eq_none_iff_forall_ne_some.mpr fun order ordered => ?_
      obtain ⟨place, other, found, -⟩ := places_of_order? ordered
      cases leftPlace.symm.trans found

theorem order?_eq_some_iff {left right : Number} {order : Ordering} :
    left.order? right = some order ↔
      ∃ value other, left.value? = some value ∧ right.value? = some other ∧
        cmp value other = order := by
  rw [order?_eq_compareValues?, compareValues?]
  split
  next value other leftValue rightValue => simp [leftValue, rightValue]
  next missing =>
      simp only [reduceCtorEq, false_iff, not_exists, not_and]
      intro value other leftValue rightValue
      exact absurd rightValue (missing value other leftValue)

/-! ## Numbers in order -/

theorem order?_nan (number : Number) :
    order? (.double .nan) number = none ∧ number.order? (.double .nan) = none := by
  have first : order? (.double .nan) number = none := by cases number <;> rfl
  exact ⟨first, by rw [order?_swap (.double .nan) number, first]; rfl⟩

theorem lt_trans {left middle right : Number} (lower : left.order? middle = some .lt)
    (upper : middle.order? right = some .lt) : left.order? right = some .lt := by
  obtain ⟨value, between, leftValue, middleValue, less⟩ := order?_eq_some_iff.mp lower
  obtain ⟨same, other, found, rightValue, more⟩ := order?_eq_some_iff.mp upper
  cases middleValue.symm.trans found
  rw [cmp_eq_lt_iff] at less more
  exact order?_eq_some_iff.mpr
    ⟨value, other, leftValue, rightValue, (cmp_eq_lt_iff _ _).mpr (less.trans more)⟩

theorem value?_eq_of_same {left right : Number} (equal : left.same right = true) :
    left.value? = right.value? := by
  obtain ⟨value, other, leftValue, rightValue, level⟩ :=
    order?_eq_some_iff.mp (same_iff.mp equal)
  rw [leftValue, rightValue, (cmp_eq_eq_iff _ _).mp level]

/-- Equal numbers have the same order with every number. -/
theorem order?_congr {left other : Number} (equal : left.same other = true) (right : Number) :
    other.order? right = left.order? right := by
  rw [order?_eq_compareValues?, order?_eq_compareValues?, compareValues?, compareValues?,
    value?_eq_of_same equal]

end Number

end FeatureFlags
