import FeatureFlags.Proofs.Double.Numeral
import FeatureFlags.Proofs.Double.Order
import FeatureFlags.Proofs.Rule.Operator

/-!
# Numeric text beside an integer

The text of an integer is read as the double nearest to the integer, and the double is compared
exactly.  So the text answers for its integer as long as the rounding does not carry it up to the
integer on the other side, or past it.  Integers of up to 53 bits are not rounded at all.
-/

set_option autoImplicit false

namespace FeatureFlags

namespace Double

theorem orderInt?_ofInt (value other : Int) : (ofInt value).orderInt? other =
    some (cmp (placeOf other) (roundPlace (value * 2 ^ quantumBits))) :=
  orderInt?_of_place (units?_ofInt value) other

/-- Rounding an integer to a double carries it up to another integer, or past it. -/
def RoundsAcross (value other : Int) : Prop :=
  (value ≤ other ∧ (ofInt value).orderInt? value = some .lt ∧
      (ofInt value).orderInt? other ≠ some .gt) ∨
    (other ≤ value ∧ (ofInt value).orderInt? value = some .gt ∧
      (ofInt value).orderInt? other ≠ some .lt)

theorem not_roundsAcross_of_short {value : Int} (short : value.natAbs ≤ 2 ^ precision)
    (other : Int) : ¬RoundsAcross value other := by
  have exactly : (ofInt value).orderInt? value = some .eq := by
    rw [orderInt?_ofInt, roundPlace_short short]
    exact congrArg some (cmp_self_eq_eq _)
  rintro (⟨-, above, -⟩ | ⟨-, below, -⟩)
  · rw [exactly] at above
    cases above
  · rw [exactly] at below
    cases below

/-- Replacing a point by its rounding changes how another compares with it just when the other lies
between the two, the ends counted in. -/
theorem cmp_eq_cmp_iff {value rounded other : EInt} : cmp other rounded = cmp other value ↔
    ¬((value ≤ other ∧ value < rounded ∧ ¬rounded < other) ∨
      (other ≤ value ∧ rounded < value ∧ ¬other < rounded)) := by
  rcases lt_trichotomy other value with below | rfl | above
  · rw [(cmp_eq_lt_iff other value).mpr below, cmp_eq_lt_iff]
    grind
  · rw [cmp_self_eq_eq, cmp_eq_eq_iff]
    grind
  · rw [(cmp_eq_gt_iff other value).mpr above, cmp_eq_gt_iff]
    grind

theorem orderInt?_eq_compare_iff (value other : Int) :
    (ofInt value).orderInt? other = some (compare other value) ↔ ¬RoundsAcross value other := by
  have placed : ∀ left right : Int, left ≤ right ↔ placeOf left ≤ placeOf right := by
    intro left right
    rw [← Int.not_lt, ← placeOf_lt_iff, not_lt]
  rw [RoundsAcross, orderInt?_ofInt, orderInt?_ofInt, Option.some.injEq, ← cmp_placeOf,
    cmp_eq_cmp_iff, placed, placed, Option.some.injEq, Option.some.injEq, ne_eq, ne_eq,
    Option.some.injEq, Option.some.injEq, cmp_eq_lt_iff, cmp_eq_gt_iff, cmp_eq_gt_iff,
    cmp_eq_lt_iff]

end Double

namespace Operator

open Value

def holdsIn (operator : Operator) (order : Option Ordering) : Bool :=
  match operator with
  | .eq => order == some .eq
  | .ne => !(order == some .eq)
  | .lt => order == some .lt
  | .le => order.any (· != .gt)
  | .gt => order == some .gt
  | .ge => order.any (· != .lt)

theorem ne_null_of_asNumbers? {left right : Value} {numbers : Number × Number}
    (found : asNumbers? left right = some numbers) : left ≠ .null ∧ right ≠ .null := by
  constructor
  · rintro rfl
    unfold asNumbers? at found
    split at found <;> cases found
  · rintro rfl
    rw [asNumbers?_swap] at found
    unfold asNumbers? at found
    split at found <;> cases found

theorem holds_of_asNumbers? {left right : Value} {m n : Number}
    (numbers : asNumbers? left right = some (m, n)) (operator : Operator) :
    holds operator left right = holdsIn operator (m.order? n) := by
  obtain ⟨leftPresent, rightPresent⟩ := ne_null_of_asNumbers? numbers
  have same : left.looselySame right = m.same n := by rw [looselySame, numbers]
  have ordered : left.looselyOrder? right = m.order? n := by
    rw [looselyOrder?, ranked_of_ne_null leftPresent, ranked_of_ne_null rightPresent, numbers]
  cases operator <;> simp only [holds, same, ordered, holdsIn, Number.same]

theorem holdsIn_injective {order other : Option Ordering}
    (alike : ∀ operator, holdsIn operator order = holdsIn operator other) : order = other := by
  have less := alike .lt
  have level := alike .eq
  have more := alike .gt
  cases order with
  | none => cases other with
    | none => rfl
    | some other => cases other <;> simp_all [holdsIn]
  | some order => cases other with
    | none => cases order <;> simp_all [holdsIn]
    | some other => cases order <;> cases other <;> simp_all [holdsIn]

theorem toNumber?_text (value : Int) :
    toNumber? (.string (toString value)) = some (.double (Double.ofInt value)) := by
  have present : (toString value).toList.isEmpty = false := by
    by_cases negative : value < 0
    · rw [Text.toString_of_neg negative]
      rfl
    · rw [Text.toString_of_nonneg (Int.not_lt.mp negative), List.isEmpty_eq_false_iff]
      exact Nat.toDigits_ne_nil
  rw [toNumber?, Text.trim_toString, present, Double.ofNumeral?_toString]
  rfl

theorem holds_text (operator : Operator) (value other : Int) :
    holds operator (.string (toString value)) (.int other) =
      holdsIn operator (Number.order? (.double (Double.ofInt value)) (.int other)) := by
  refine holds_of_asNumbers? ?_ operator
  rw [asNumbers?, toNumber?_text]
  rfl

theorem holds_beside_text (operator : Operator) (value other : Int) :
    holds operator (.int other) (.string (toString value)) =
      holdsIn operator (Number.order? (.int other) (.double (Double.ofInt value))) := by
  refine holds_of_asNumbers? ?_ operator
  rw [asNumbers?, toNumber?_text]
  rfl

theorem holds_int (operator : Operator) (left right : Int) :
    holds operator (.int left) (.int right) = holdsIn operator (some (compare left right)) :=
  have numbers : asNumbers? (.int left) (.int right) = some (.int left, .int right) := rfl
  holds_of_asNumbers? numbers operator

/-- How the text of an integer compares with an integer: as the double nearest to its own. -/
structure TextLaw (value other : Int) : Prop where
  rounded : ∀ operator, holds operator (.string (toString value)) (.int other) =
    holds operator (.double (.ofInt value)) (.int other)
  rounded_beside : ∀ operator, holds operator (.int other) (.string (toString value)) =
    holds operator (.int other) (.double (.ofInt value))
  as_integer_iff : ((∀ operator, holds operator (.string (toString value)) (.int other) =
      holds operator (.int value) (.int other)) ∧
    ∀ operator, holds operator (.int other) (.string (toString value)) =
      holds operator (.int other) (.int value)) ↔ ¬Double.RoundsAcross value other
  short : value.natAbs ≤ 2 ^ 53 → ¬Double.RoundsAcross value other

theorem text_law (value other : Int) : TextLaw value other where
  rounded operator := by
    have numbers : asNumbers? (.double (.ofInt value)) (.int other) =
        some (.double (.ofInt value), .int other) := rfl
    rw [holds_text, holds_of_asNumbers? numbers]
  rounded_beside operator := by
    have numbers : asNumbers? (.int other) (.double (.ofInt value)) =
        some (.int other, .double (.ofInt value)) := rfl
    rw [holds_beside_text, holds_of_asNumbers? numbers]
  as_integer_iff := by
    simp only [holds_text, holds_beside_text, holds_int]
    rw [← Double.orderInt?_eq_compare_iff]
    constructor
    · rintro ⟨-, beside⟩
      exact holdsIn_injective beside
    · intro kept
      have ordered : Number.order? (.int other) (.double (.ofInt value)) =
          some (compare other value) := kept
      have swapped : Number.order? (.double (.ofInt value)) (.int other) =
          some (compare value other) := by
        rw [Number.order?_swap (.int other), ordered, Option.map_some, Int.compare_swap]
      rw [ordered, swapped]
      exact ⟨fun _ => rfl, fun _ => rfl⟩
  short few := Double.not_roundsAcross_of_short few other

/-- The first integer that is no double is read as its neighbour, so it differs from itself. -/
theorem long_text_differs :
    holds .eq (.string (toString (9007199254740993 : Int))) (.int 9007199254740993) = false ∧
      holds .eq (.int 9007199254740993) (.int 9007199254740993) = true := by
  rw [holds_text]
  decide +kernel

end Operator

end FeatureFlags
